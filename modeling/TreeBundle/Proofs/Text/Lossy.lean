import TreeBundle.Proofs.Text.Utf8

/-!
# Decoding what is not UTF-8

Where the bytes at some place encode no character, the longest start of an encoding that stands
there is broken off, or one byte if none starts there. Bytes can be taken apart in just one way into
encoded characters and such parts. Decoding does so, and lossy decoding shows each part as one
replacement.
-/
namespace TreeBundle.Utf8
set_option autoImplicit false

/-! ## What is broken -/

/-- A maximal broken subpart in front of bytes, and the rest of them. No character is encoded there.
The subpart is as long as a start of an encoding can be there, or one byte if none starts. -/
structure IsBrokenSubpart (subpart rest : Bytes) : Prop where
  nonempty : subpart ≠ []
  unreadable : ∀ c, ¬String.utf8EncodeChar c <+: subpart ++ rest
  starts : (∃ c, subpart <+: String.utf8EncodeChar c) ∨ subpart.length = 1
  longest : ∀ front, front <+: subpart ++ rest → (∃ c, front <+: String.utf8EncodeChar c) →
    front.length ≤ subpart.length

theorem length_le_of_broken {subpart rest other others : Bytes}
    (broken : IsBrokenSubpart subpart rest) (other_broken : IsBrokenSubpart other others)
    (same : subpart ++ rest = other ++ others) : other.length ≤ subpart.length := by
  rcases other_broken.starts with starts | single
  · apply broken.longest other _ starts
    rw [same]
    exact List.prefix_append other others
  · have positive := List.length_pos_iff.2 broken.nonempty
    omega

/-- Bytes are broken in front in one way at most. -/
theorem broken_unique {subpart rest other others : Bytes}
    (broken : IsBrokenSubpart subpart rest) (other_broken : IsBrokenSubpart other others)
    (same : subpart ++ rest = other ++ others) : subpart = other ∧ rest = others := by
  apply List.append_inj same
  have one_way := length_le_of_broken broken other_broken same
  have other_way := length_le_of_broken other_broken broken same.symm
  omega

/-! ## Starts of encodings -/

/-- In each place behind a leading byte some byte fits. -/
theorem le_of_mem_followers {lead : UInt8} {ranges : List ByteRange}
    (found : followers lead = some ranges) : ∀ range ∈ ranges, range.1 ≤ range.2 := by
  rw [followers_toNat] at found
  repeat' split at found
  all_goals cases found
  all_goals simp

theorem fits_least {ranges : List ByteRange} (inhabited : ∀ range ∈ ranges, range.1 ≤ range.2) :
    Fits ranges (ranges.map Prod.fst) := by
  induction ranges with
  | nil => trivial
  | cons range ranges ih =>
    have first : range.1 ≤ range.2 := inhabited range List.mem_cons_self
    refine ⟨⟨UInt8.le_refl _, first⟩, ?_⟩
    exact ih fun other member => inhabited other (List.mem_cons_of_mem _ member)

/-- Followers that were taken can be completed. -/
theorem exists_fits_taken {ranges : List ByteRange}
    (inhabited : ∀ range ∈ ranges, range.1 ≤ range.2) (bytes : Bytes) :
    ∃ more, Fits ranges ((takeFollowers ranges bytes).1 ++ more) := by
  fun_induction takeFollowers ranges bytes with
  | case1 low high ranges byte rest inside taken ih =>
    obtain ⟨more, fits⟩ := ih fun other member => inhabited other (List.mem_cons_of_mem _ member)
    exact ⟨more, inside, fits⟩
  | case2 low high ranges byte rest outside => exact ⟨_, fits_least inhabited⟩
  | case3 ranges bytes none => exact ⟨_, fits_least inhabited⟩

/-- What fits and comes first is taken. -/
theorem prefix_taken {ranges : List ByteRange} {front tail bytes : Bytes}
    (fits : Fits ranges tail) (front_fits : front <+: tail) (first : front <+: bytes) :
    front <+: (takeFollowers ranges bytes).1 := by
  obtain ⟨others, rfl⟩ := front_fits
  obtain ⟨rest, rfl⟩ := first
  induction ranges generalizing front with
  | nil =>
    obtain ⟨rfl, rfl⟩ := List.append_eq_nil_iff.1 (fits_nil fits)
    exact List.nil_prefix
  | cons range ranges ih =>
    cases front with
    | nil => exact List.nil_prefix
    | cons byte front =>
      obtain ⟨inside, fits⟩ := fits
      rw [List.cons_append, takeFollowers, if_pos inside, List.cons_prefix_cons]
      exact ⟨rfl, ih fits⟩

theorem exists_encodeChar_of_followers {lead : UInt8} {ranges : List ByteRange}
    (found : followers lead = some ranges) (bytes : Bytes) :
    ∃ c, lead :: (takeFollowers ranges bytes).1 <+: String.utf8EncodeChar c := by
  obtain ⟨more, fits⟩ := exists_fits_taken (le_of_mem_followers found) bytes
  refine ⟨Char.ofNat (assemble lead ((takeFollowers ranges bytes).1 ++ more)), more, ?_⟩
  rw [← encodeChar_eq_utf8EncodeChar, encodeChar_assemble found fits, List.cons_append]

/-- The start of an encoding is a leading byte with some of the followers that fit it. -/
theorem starts_cases {front : Bytes} {c : Char} (starts : front <+: String.utf8EncodeChar c) :
    front = [] ∨ ∃ lead rest ranges tail, front = lead :: rest ∧ followers lead = some ranges ∧
      Fits ranges tail ∧ rest <+: tail := by
  obtain ⟨lead, tail, ranges, bytes, found, fits, -⟩ := encodeChar_spells c
  rw [← encodeChar_eq_utf8EncodeChar, bytes] at starts
  cases front with
  | nil => exact Or.inl rfl
  | cons first rest =>
    obtain ⟨rfl, below⟩ := List.cons_prefix_cons.1 starts
    exact Or.inr ⟨first, rest, ranges, tail, rfl, found, fits, below⟩

/-- Where a character is encoded, its followers are all there. -/
theorem complete_of_prefix {lead : UInt8} {rest : Bytes} {c : Char}
    (readable : String.utf8EncodeChar c <+: lead :: rest) :
    ∃ ranges, followers lead = some ranges ∧
      (takeFollowers ranges rest).1.length = ranges.length := by
  obtain ⟨first, tail, ranges, bytes, found, fits, -⟩ := encodeChar_spells c
  rw [← encodeChar_eq_utf8EncodeChar, bytes, List.cons_prefix_cons] at readable
  obtain ⟨rfl, others, rfl⟩ := readable
  refine ⟨ranges, found, ?_⟩
  rw [takeFollowers_of_fits fits]
  exact fits.length_eq

theorem broken_of_none {lead : UInt8} (nothing : followers lead = none) (rest : Bytes) :
    IsBrokenSubpart [lead] rest where
  nonempty := by simp
  unreadable c readable := by
    obtain ⟨ranges, found, -⟩ := complete_of_prefix readable
    rw [nothing] at found
    cases found
  starts := Or.inr rfl
  longest front first starts := by
    obtain ⟨c, starts⟩ := starts
    rcases starts_cases starts with none | ⟨byte, below, ranges, tail, spelled, found, -⟩
    · simp [none]
    · rw [spelled, List.singleton_append, List.cons_prefix_cons] at first
      rw [first.1, nothing] at found
      cases found

theorem broken_of_incomplete {lead : UInt8} {ranges : List ByteRange} {rest : Bytes}
    (found : followers lead = some ranges)
    (incomplete : (takeFollowers ranges rest).1.length ≠ ranges.length) :
    IsBrokenSubpart (lead :: (takeFollowers ranges rest).1) (takeFollowers ranges rest).2 where
  nonempty := by simp
  unreadable c readable := by
    rw [List.cons_append, takeFollowers_append] at readable
    obtain ⟨others, other_found, complete⟩ := complete_of_prefix readable
    rw [found] at other_found
    cases other_found
    exact incomplete complete
  starts := Or.inl (exists_encodeChar_of_followers found rest)
  longest front first starts := by
    rw [List.cons_append, takeFollowers_append] at first
    obtain ⟨c, starts⟩ := starts
    rcases starts_cases starts with
      none | ⟨byte, below, others, tail, spelled, other_found, fits, below_fits⟩
    · simp [none]
    · rw [spelled, List.cons_prefix_cons] at first
      obtain ⟨rfl, first⟩ := first
      rw [found] at other_found
      cases other_found
      have taken := prefix_taken fits below_fits first
      rw [spelled, List.length_cons, List.length_cons]
      exact Nat.succ_le_succ taken.length_le

/-- Behind another byte, no encoding has one below `80`. -/
theorem not_prefix_encodeChar {piece before : Bytes} {byte : UInt8} {c : Char}
    (nonempty : before ≠ []) (ascii : byte.toNat < 0x80)
    (starts : piece <+: String.utf8EncodeChar c) : ¬before ++ [byte] <+: piece := by
  intro reaches
  have whole := reaches.trans starts
  rw [← encodeChar_eq_utf8EncodeChar] at whole
  have code := (mem_encodeChar_iff_of_ascii ascii c).1 (whole.subset (by simp))
  have long := whole.length_le
  rw [encodeChar, if_pos (by omega)] at long
  have positive := List.length_pos_iff.2 nonempty
  rw [List.length_append, List.length_singleton, List.length_singleton] at long
  omega

/-- A start of an encoding that reaches past some bytes up to one below `80` would hold that byte
behind another one, which no encoding does. -/
theorem prefix_of_prefix_ascii {piece before back : Bytes} {byte : UInt8} {c : Char}
    (starts : piece <+: String.utf8EncodeChar c) (nonempty : before ≠ [])
    (ascii : byte.toNat < 0x80) (reaches : piece <+: before ++ byte :: back) :
    piece <+: before := by
  have up_to_byte : before ++ [byte] <+: before ++ byte :: back := ⟨back, by simp⟩
  have not_past := not_prefix_encodeChar nonempty ascii starts
  rcases List.prefix_or_prefix_of_prefix reaches up_to_byte with inside | past
  · rcases List.prefix_concat_iff.1 inside with rfl | inside
    · exact absurd (List.prefix_refl _) not_past
    · exact inside
  · exact absurd past not_past

theorem IsBrokenSubpart.append_ascii {subpart rest back : Bytes} {byte : UInt8}
    (broken : IsBrokenSubpart subpart rest) (ascii : byte.toNat < 0x80) :
    IsBrokenSubpart subpart (rest ++ byte :: back) := by
  have nonempty : subpart ++ rest ≠ [] := by simp [broken.nonempty]
  refine ⟨broken.nonempty, fun c readable => ?_, broken.starts, fun front first starts => ?_⟩
  · rw [← List.append_assoc] at readable
    exact broken.unreadable c
      (prefix_of_prefix_ascii (List.prefix_refl _) nonempty ascii readable)
  · rw [← List.append_assoc] at first
    obtain ⟨c, starts⟩ := starts
    exact broken.longest front (prefix_of_prefix_ascii starts nonempty ascii first) ⟨c, starts⟩

/-! ## Segments -/

/-- What bytes start with, an encoded character or a broken subpart, is their first segment. -/
theorem segments_cases (bytes : Bytes) :
    bytes = [] ∨
      (∃ c rest, bytes = String.utf8EncodeChar c ++ rest ∧
        segments bytes = .character c :: segments rest) ∨
      ∃ subpart rest, bytes = subpart ++ rest ∧ IsBrokenSubpart subpart rest ∧
        segments bytes = .broken subpart :: segments rest := by
  cases bytes with
  | nil => exact Or.inl rfl
  | cons lead rest =>
    right
    cases found : followers lead with
    | none =>
      right
      refine ⟨[lead], rest, rfl, broken_of_none found rest, ?_⟩
      rw [segments, found]
    | some ranges =>
      by_cases complete : (takeFollowers ranges rest).1.length = ranges.length
      · left
        have spelled := encodeChar_assemble found (fits_of_complete complete)
        refine ⟨Char.ofNat (assemble lead (takeFollowers ranges rest).1),
          (takeFollowers ranges rest).2, ?_, ?_⟩
        · rw [← encodeChar_eq_utf8EncodeChar, spelled, List.cons_append, takeFollowers_append]
        · rw [segments, found]
          simp only [if_pos complete]
      · right
        refine ⟨_, _, ?_, broken_of_incomplete found complete, ?_⟩
        · rw [List.cons_append, takeFollowers_append]
        · rw [segments, found]
          simp only [if_neg complete]

theorem segments_of_broken {subpart rest : Bytes} (broken : IsBrokenSubpart subpart rest) :
    segments (subpart ++ rest) = .broken subpart :: segments rest := by
  rcases segments_cases (subpart ++ rest) with none | ⟨c, others, bytes, -⟩ |
    ⟨other, others, same, other_broken, cut⟩
  · exact absurd (List.append_eq_nil_iff.1 none).1 broken.nonempty
  · exact absurd ⟨others, bytes.symm⟩ (broken.unreadable c)
  · obtain ⟨rfl, rfl⟩ := broken_unique broken other_broken same
    exact cut

/-! ## The text shown -/

theorem decodeLossy_of_broken {subpart rest : Bytes} (broken : IsBrokenSubpart subpart rest) :
    decodeLossy (subpart ++ rest) = replacement :: decodeLossy rest := by
  rw [decodeLossy, segments_of_broken broken]
  rfl

/-- The text that bytes show: an encoded character is shown as itself, and a broken subpart as one
replacement. -/
inductive Shows : Bytes → List Char → Prop where
  | nil : Shows [] []
  | character (c : Char) {rest : Bytes} {text : List Char} :
      Shows rest text → Shows (String.utf8EncodeChar c ++ rest) (c :: text)
  | broken {subpart rest : Bytes} {text : List Char} :
      IsBrokenSubpart subpart rest → Shows rest text →
      Shows (subpart ++ rest) (replacement :: text)

theorem shows_decodeLossy (bytes : Bytes) : Shows bytes (decodeLossy bytes) := by
  -- Each segment takes some bytes away, so the induction is on how many there are.
  induction size : bytes.length using Nat.strongRecOn generalizing bytes with
  | _ size ih =>
    subst size
    rcases segments_cases bytes with rfl | ⟨c, rest, rfl, cut⟩ | ⟨subpart, rest, rfl, broken, cut⟩
    · rw [decodeLossy_nil]
      exact .nil
    · have positive := List.length_pos_iff.2 (String.utf8EncodeChar_ne_nil (c := c))
      have below := ih rest.length (by rw [List.length_append]; omega) rest rfl
      rw [decodeLossy, cut]
      exact .character c below
    · have positive := List.length_pos_iff.2 broken.nonempty
      have below := ih rest.length (by rw [List.length_append]; omega) rest rfl
      rw [decodeLossy, cut]
      exact .broken broken below

/-- Lossy decoding gives the one text that bytes show. -/
theorem shows_iff {bytes : Bytes} {text : List Char} :
    Shows bytes text ↔ text = decodeLossy bytes := by
  constructor
  · intro shows_text
    induction shows_text with
    | nil => exact decodeLossy_nil.symm
    | character c _ ih => rw [← encodeChar_eq_utf8EncodeChar, decodeLossy_encodeChar, ← ih]
    | broken broken _ ih => rw [decodeLossy_of_broken broken, ← ih]
  · intro decoded
    rw [decoded]
    exact shows_decodeLossy bytes

theorem Shows.append_ascii {front back : Bytes} {text others : List Char} {c : Char}
    (shows_front : Shows front text) (shows_back : Shows back others) (ascii : c.toNat < 0x80) :
    Shows (front ++ c.toNat.toUInt8 :: back) (text ++ c :: others) := by
  induction shows_front with
  | nil =>
    have spelled : String.utf8EncodeChar c = [c.toNat.toUInt8] := by
      rw [← encodeChar_eq_utf8EncodeChar, encodeChar, if_pos ascii]
    have first := Shows.character c shows_back
    rwa [spelled] at first
  | character d _ ih =>
    rw [List.append_assoc]
    exact .character d ih
  | broken broken _ ih =>
    rw [List.append_assoc]
    exact .broken (broken.append_ascii (by rw [toNat_toUInt8 (by omega)]; exact ascii)) ih

/-- A character below `80` is shown wherever its byte stands, with what is shown on either side. -/
theorem decodeLossy_append_ascii {c : Char} (ascii : c.toNat < 0x80) (front back : Bytes) :
    decodeLossy (front ++ c.toNat.toUInt8 :: back) = decodeLossy front ++ c :: decodeLossy back :=
  (shows_iff.1 ((shows_decodeLossy front).append_ascii (shows_decodeLossy back) ascii)).symm

/-- Bytes that are shown with some text in front start with its encoding, unless the text itself
shows what was replaced. -/
theorem prefix_decodeLossy_iff {text : List Char} (faithful : replacement ∉ text) {bytes : Bytes} :
    text <+: decodeLossy bytes ↔ encode text <+: bytes := by
  constructor
  · intro shown
    induction text generalizing bytes with
    | nil => exact List.nil_prefix
    | cons c text ih =>
      obtain ⟨not_first, not_later⟩ := not_or.1 fun either => faithful (List.mem_cons.2 either)
      rcases segments_cases bytes with rfl | ⟨first, rest, rfl, -⟩ | ⟨subpart, rest, rfl, broken, -⟩
      · rw [decodeLossy_nil] at shown
        cases List.prefix_nil.1 shown
      · rw [← encodeChar_eq_utf8EncodeChar, decodeLossy_encodeChar, List.cons_prefix_cons] at shown
        obtain ⟨rfl, below⟩ := shown
        rw [← encodeChar_eq_utf8EncodeChar]
        exact (List.prefix_append_right_inj (encodeChar c)).2 (ih not_later below)
      · rw [decodeLossy_of_broken broken, List.cons_prefix_cons] at shown
        exact absurd shown.1.symm not_first
  · rintro ⟨rest, rfl⟩
    exact ⟨decodeLossy rest, (decodeLossy_encode_append text rest).symm⟩

end TreeBundle.Utf8
