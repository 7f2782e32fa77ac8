import TreeBundle.Text.Utf8

/-!
# Encoding and decoding texts

Encoding a text and cutting the bytes into segments gives its characters back, and bytes that are
cut into characters only are the encoding of these. So strict decoding accepts exactly what
encoding writes, each text has one encoding, and lossy decoding agrees with strict decoding where
that succeeds. The encoding is that of the standard library's strings.
-/
namespace TreeBundle.Utf8
set_option autoImplicit false

/-- Bytes that fall into ranges one by one, neither more nor fewer. -/
def Fits : List ByteRange → Bytes → Prop
  | [], [] => True
  | (low, high) :: ranges, byte :: tail => (low ≤ byte ∧ byte ≤ high) ∧ Fits ranges tail
  | _, _ => False

theorem takeFollowers_of_fits {ranges : List ByteRange} {tail : Bytes} (fits : Fits ranges tail)
    (rest : Bytes) : takeFollowers ranges (tail ++ rest) = (tail, rest) := by
  induction ranges generalizing tail with
  | nil =>
    cases tail with
    | nil => cases rest <;> rfl
    | cons byte tail => exact fits.elim
  | cons range ranges ih =>
    cases tail with
    | nil => exact fits.elim
    | cons byte tail =>
      obtain ⟨inside, fits⟩ := fits
      simp only [List.cons_append, takeFollowers, if_pos inside, ih fits]

theorem Fits.length_eq {ranges : List ByteRange} {tail : Bytes} (fits : Fits ranges tail) :
    tail.length = ranges.length := by
  induction ranges generalizing tail with
  | nil =>
    cases tail with
    | nil => rfl
    | cons byte tail => exact fits.elim
  | cons range ranges ih =>
    cases tail with
    | nil => exact fits.elim
    | cons byte tail => simp [ih fits.2]

/-- A start of the bytes that fills all ranges falls into them. -/
theorem fits_of_complete {ranges : List ByteRange} {bytes : Bytes}
    (complete : (takeFollowers ranges bytes).1.length = ranges.length) :
    Fits ranges (takeFollowers ranges bytes).1 := by
  fun_induction takeFollowers ranges bytes with
  | case1 low high ranges byte rest inside taken ih =>
    exact ⟨inside, ih (by simpa [taken] using complete)⟩
  | case2 => simp at complete
  | case3 ranges bytes none =>
    cases ranges with
    | nil => trivial
    | cons range ranges => simp at complete

theorem followers_toNat (lead : UInt8) :
    followers lead =
      if lead.toNat < 0x80 then some []
      else if lead.toNat < 0xC2 then none
      else if lead.toNat < 0xE0 then some [(0x80, 0xBF)]
      else if lead.toNat = 0xE0 then some [(0xA0, 0xBF), (0x80, 0xBF)]
      else if lead.toNat = 0xED then some [(0x80, 0x9F), (0x80, 0xBF)]
      else if lead.toNat < 0xF0 then some [(0x80, 0xBF), (0x80, 0xBF)]
      else if lead.toNat = 0xF0 then some [(0x90, 0xBF), (0x80, 0xBF), (0x80, 0xBF)]
      else if lead.toNat < 0xF4 then some [(0x80, 0xBF), (0x80, 0xBF), (0x80, 0xBF)]
      else if lead.toNat = 0xF4 then some [(0x80, 0x8F), (0x80, 0xBF), (0x80, 0xBF)]
      else none := by
  simp only [followers, UInt8.lt_iff_toNat_lt, ← UInt8.toNat_inj]
  rfl

theorem toNat_toUInt8 {n : Nat} (h : n < 256) : n.toUInt8.toNat = n := by
  simp [Nat.toUInt8, Nat.mod_eq_of_lt h]

theorem inside_toUInt8 {low high : UInt8} {n : Nat} (h : n < 256) :
    (low ≤ n.toUInt8 ∧ n.toUInt8 ≤ high) ↔ low.toNat ≤ n ∧ n ≤ high.toNat := by
  rw [UInt8.le_iff_toNat_le, UInt8.le_iff_toNat_le, toNat_toUInt8 h]

theorem encodeChar_spells_two {code : Nat} (low : 0x80 ≤ code) (high : code < 0x800) :
    ∃ ranges, followers (0xC0 + code / 0x40).toUInt8 = some ranges ∧
      Fits ranges [(0x80 + code % 0x40).toUInt8] ∧
      assemble (0xC0 + code / 0x40).toUInt8 [(0x80 + code % 0x40).toUInt8] = code := by
  refine ⟨[(0x80, 0xBF)], ?_, ⟨?_, trivial⟩, ?_⟩
  · rw [followers_toNat, toNat_toUInt8 (by omega), if_neg (by omega), if_neg (by omega),
      if_pos (by omega)]
  · rw [inside_toUInt8 (by omega)]
    exact ⟨Nat.le_add_right _ _, show _ ≤ 0xBF by omega⟩
  · simp only [assemble, List.length_cons, List.length_nil, List.foldl_cons, List.foldl_nil]
    rw [toNat_toUInt8 (by omega), toNat_toUInt8 (by omega)]
    omega

theorem encodeChar_spells_three {code : Nat} (low : 0x800 ≤ code) (high : code < 0x10000)
    (valid : code < 0xD800 ∨ 0xDFFF < code) :
    ∃ ranges, followers (0xE0 + code / 0x1000).toUInt8 = some ranges ∧
      Fits ranges [(0x80 + code / 0x40 % 0x40).toUInt8, (0x80 + code % 0x40).toUInt8] ∧
      assemble (0xE0 + code / 0x1000).toUInt8
        [(0x80 + code / 0x40 % 0x40).toUInt8, (0x80 + code % 0x40).toUInt8] = code := by
  have last : (0x80 : UInt8) ≤ (0x80 + code % 0x40).toUInt8 ∧
      (0x80 + code % 0x40).toUInt8 ≤ 0xBF := by
    rw [inside_toUInt8 (by omega)]
    exact ⟨Nat.le_add_right _ _, show _ ≤ 0xBF by omega⟩
  have spelled : assemble (0xE0 + code / 0x1000).toUInt8
      [(0x80 + code / 0x40 % 0x40).toUInt8, (0x80 + code % 0x40).toUInt8] = code := by
    simp only [assemble, List.length_cons, List.length_nil, List.foldl_cons, List.foldl_nil]
    rw [toNat_toUInt8 (by omega), toNat_toUInt8 (by omega), toNat_toUInt8 (by omega)]
    omega
  rw [followers_toNat, toNat_toUInt8 (by omega), if_neg (by omega), if_neg (by omega),
    if_neg (by omega)]
  by_cases overlong : 0xE0 + code / 0x1000 = 0xE0
  · rw [if_pos overlong]
    refine ⟨_, rfl, ⟨?_, last, trivial⟩, spelled⟩
    rw [inside_toUInt8 (by omega)]
    exact ⟨show 0xA0 ≤ _ by omega, show _ ≤ 0xBF by omega⟩
  rw [if_neg overlong]
  by_cases surrogate : 0xE0 + code / 0x1000 = 0xED
  · rw [if_pos surrogate]
    refine ⟨_, rfl, ⟨?_, last, trivial⟩, spelled⟩
    rw [inside_toUInt8 (by omega)]
    exact ⟨Nat.le_add_right _ _, show _ ≤ 0x9F by omega⟩
  rw [if_neg surrogate, if_pos (by omega)]
  refine ⟨_, rfl, ⟨?_, last, trivial⟩, spelled⟩
  rw [inside_toUInt8 (by omega)]
  exact ⟨Nat.le_add_right _ _, show _ ≤ 0xBF by omega⟩

theorem encodeChar_spells_four (code : Nat) (low : 0x10000 ≤ code) (high : code < 0x110000) :
    ∃ ranges, followers (0xF0 + code / 0x40000).toUInt8 = some ranges ∧
      Fits ranges [(0x80 + code / 0x1000 % 0x40).toUInt8, (0x80 + code / 0x40 % 0x40).toUInt8,
        (0x80 + code % 0x40).toUInt8] ∧
      assemble (0xF0 + code / 0x40000).toUInt8 [(0x80 + code / 0x1000 % 0x40).toUInt8,
        (0x80 + code / 0x40 % 0x40).toUInt8, (0x80 + code % 0x40).toUInt8] = code := by
  have follower : ∀ n, n < 0x40 → (0x80 : UInt8) ≤ (0x80 + n).toUInt8 ∧
      (0x80 + n).toUInt8 ≤ 0xBF := by
    intro n small
    rw [inside_toUInt8 (by omega)]
    exact ⟨Nat.le_add_right _ _, show _ ≤ 0xBF by omega⟩
  have spelled : assemble (0xF0 + code / 0x40000).toUInt8
      [(0x80 + code / 0x1000 % 0x40).toUInt8, (0x80 + code / 0x40 % 0x40).toUInt8,
        (0x80 + code % 0x40).toUInt8] = code := by
    simp only [assemble, List.length_cons, List.length_nil, List.foldl_cons, List.foldl_nil]
    rw [toNat_toUInt8 (by omega), toNat_toUInt8 (by omega), toNat_toUInt8 (by omega),
      toNat_toUInt8 (by omega)]
    omega
  have second := follower (code / 0x40 % 0x40) (by omega)
  have last := follower (code % 0x40) (by omega)
  rw [followers_toNat, toNat_toUInt8 (by omega), if_neg (by omega), if_neg (by omega),
    if_neg (by omega), if_neg (by omega), if_neg (by omega), if_neg (by omega)]
  by_cases overlong : 0xF0 + code / 0x40000 = 0xF0
  · rw [if_pos overlong]
    refine ⟨_, rfl, ⟨?_, second, last, trivial⟩, spelled⟩
    rw [inside_toUInt8 (by omega)]
    exact ⟨show 0x90 ≤ _ by omega, show _ ≤ 0xBF by omega⟩
  rw [if_neg overlong]
  by_cases inner : 0xF0 + code / 0x40000 < 0xF4
  · rw [if_pos inner]
    exact ⟨_, rfl, ⟨follower _ (by omega), second, last, trivial⟩, spelled⟩
  rw [if_neg inner, if_pos (by omega)]
  refine ⟨_, rfl, ⟨?_, second, last, trivial⟩, spelled⟩
  rw [inside_toUInt8 (by omega)]
  exact ⟨Nat.le_add_right _ _, show _ ≤ 0x8F by omega⟩

/-- The bytes of a character are a leading byte with what may follow it, and spell its code. -/
theorem encodeChar_spells (c : Char) :
    ∃ lead tail ranges, encodeChar c = lead :: tail ∧ followers lead = some ranges ∧
      Fits ranges tail ∧ assemble lead tail = c.toNat := by
  have valid : c.toNat < 0xD800 ∨ 0xDFFF < c.toNat ∧ c.toNat < 0x110000 := c.valid
  simp only [encodeChar]
  split
  · refine ⟨_, _, [], rfl, ?_, trivial, ?_⟩
    · rw [followers_toNat, toNat_toUInt8 (by omega), if_pos (by omega)]
    · exact toNat_toUInt8 (by omega)
  · split
    · obtain ⟨ranges, found, fits, spelled⟩ :=
        encodeChar_spells_two (by omega) ‹c.toNat < 0x800›
      exact ⟨_, _, ranges, rfl, found, fits, spelled⟩
    · split
      · obtain ⟨ranges, found, fits, spelled⟩ :=
          encodeChar_spells_three (by omega) ‹c.toNat < 0x10000› (by omega)
        exact ⟨_, _, ranges, rfl, found, fits, spelled⟩
      · obtain ⟨ranges, found, fits, spelled⟩ :=
          encodeChar_spells_four c.toNat (by omega) (by omega)
        exact ⟨_, _, ranges, rfl, found, fits, spelled⟩

/-- An encoded character is cut off as one segment, whatever follows it. -/
theorem segments_encodeChar (c : Char) (rest : Bytes) :
    segments (encodeChar c ++ rest) = .character c :: segments rest := by
  obtain ⟨lead, tail, ranges, bytes, found, fits, spelled⟩ := encodeChar_spells c
  rw [bytes, List.cons_append, segments, found]
  simp only [takeFollowers_of_fits fits rest, if_pos fits.length_eq, spelled,
    Char.ofNat_toNat]

theorem segments_encode (text : List Char) :
    segments (encode text) = text.map .character := by
  induction text with
  | nil => simp [encode, segments]
  | cons c rest ih =>
    rw [encode, List.flatMap_cons, segments_encodeChar]
    exact congrArg _ ih

theorem toUInt8_eq {n : Nat} (byte : UInt8) (h : n = byte.toNat) : n.toUInt8 = byte := by
  subst h
  exact UInt8.ofNat_toNat

theorem encodeChar_ofNat {code : Nat} (valid : code.isValidChar) :
    encodeChar (Char.ofNat code) =
      if code < 0x80 then [code.toUInt8]
      else if code < 0x800 then
        [(0xC0 + code / 0x40).toUInt8, (0x80 + code % 0x40).toUInt8]
      else if code < 0x10000 then
        [(0xE0 + code / 0x1000).toUInt8, (0x80 + code / 0x40 % 0x40).toUInt8,
          (0x80 + code % 0x40).toUInt8]
      else
        [(0xF0 + code / 0x40000).toUInt8, (0x80 + code / 0x1000 % 0x40).toUInt8,
          (0x80 + code / 0x40 % 0x40).toUInt8, (0x80 + code % 0x40).toUInt8] := by
  have same : (Char.ofNat code).toNat = code := by
    rw [Char.ofNat, dif_pos valid]
    rfl
  simp only [encodeChar, same]

theorem encodeChar_assemble_two {lead byte : UInt8} (least : 0xC2 ≤ lead.toNat)
    (greatest : lead.toNat < 0xE0) (inside : 0x80 ≤ byte.toNat ∧ byte.toNat ≤ 0xBF) :
    encodeChar (Char.ofNat (assemble lead [byte])) = [lead, byte] := by
  have code : assemble lead [byte] = (lead.toNat - 0xC0) * 0x40 + (byte.toNat - 0x80) := rfl
  rw [code, encodeChar_ofNat (Or.inl (by omega)), if_neg (by omega), if_pos (by omega),
    toUInt8_eq lead (by omega), toUInt8_eq byte (by omega)]

theorem encodeChar_assemble_three {lead next last : UInt8} (least : 0xE0 ≤ lead.toNat)
    (greatest : lead.toNat < 0xF0) (inside : 0x80 ≤ next.toNat ∧ next.toNat ≤ 0xBF)
    (last_inside : 0x80 ≤ last.toNat ∧ last.toNat ≤ 0xBF)
    (not_overlong : lead.toNat = 0xE0 → 0xA0 ≤ next.toNat)
    (no_surrogate : lead.toNat = 0xED → next.toNat ≤ 0x9F) :
    encodeChar (Char.ofNat (assemble lead [next, last])) = [lead, next, last] := by
  have code : assemble lead [next, last] =
      ((lead.toNat - 0xE0) * 0x40 + (next.toNat - 0x80)) * 0x40 + (last.toNat - 0x80) := rfl
  have valid : (((lead.toNat - 0xE0) * 0x40 + (next.toNat - 0x80)) * 0x40 +
      (last.toNat - 0x80)).isValidChar := by
    by_cases below : lead.toNat ≤ 0xED
    · exact Or.inl (by omega)
    · exact Or.inr (by omega)
  rw [code, encodeChar_ofNat valid, if_neg (by omega), if_neg (by omega), if_pos (by omega),
    toUInt8_eq lead (by omega), toUInt8_eq next (by omega),
    toUInt8_eq last (by omega)]

theorem encodeChar_assemble_four {lead next third last : UInt8} (least : 0xF0 ≤ lead.toNat)
    (greatest : lead.toNat ≤ 0xF4) (inside : 0x80 ≤ next.toNat ∧ next.toNat ≤ 0xBF)
    (third_inside : 0x80 ≤ third.toNat ∧ third.toNat ≤ 0xBF)
    (last_inside : 0x80 ≤ last.toNat ∧ last.toNat ≤ 0xBF)
    (not_overlong : lead.toNat = 0xF0 → 0x90 ≤ next.toNat)
    (not_beyond : lead.toNat = 0xF4 → next.toNat ≤ 0x8F) :
    encodeChar (Char.ofNat (assemble lead [next, third, last])) = [lead, next, third, last] := by
  have code : assemble lead [next, third, last] =
      (((lead.toNat - 0xF0) * 0x40 + (next.toNat - 0x80)) * 0x40 + (third.toNat - 0x80)) * 0x40 +
        (last.toNat - 0x80) := rfl
  rw [code, encodeChar_ofNat (Or.inr (by omega)), if_neg (by omega), if_neg (by omega),
    if_neg (by omega), toUInt8_eq lead (by omega), toUInt8_eq next (by omega),
    toUInt8_eq third (by omega), toUInt8_eq last (by omega)]

theorem fits_nil {tail : Bytes} (fits : Fits [] tail) : tail = [] := by
  match tail, fits with
  | [], _ => rfl

theorem fits_cons {range : ByteRange} {ranges : List ByteRange} {tail : Bytes}
    (fits : Fits (range :: ranges) tail) :
    ∃ byte rest, tail = byte :: rest ∧
      (range.1.toNat ≤ byte.toNat ∧ byte.toNat ≤ range.2.toNat) ∧ Fits ranges rest := by
  match tail, fits with
  | byte :: rest, ⟨inside, fits⟩ => exact ⟨byte, rest, rfl, inside, fits⟩

theorem fits_two {first second : ByteRange} {tail : Bytes} (fits : Fits [first, second] tail) :
    ∃ next last, tail = [next, last] ∧
      (first.1.toNat ≤ next.toNat ∧ next.toNat ≤ first.2.toNat) ∧
      (second.1.toNat ≤ last.toNat ∧ last.toNat ≤ second.2.toNat) := by
  obtain ⟨next, rest, rfl, inside, fits⟩ := fits_cons fits
  obtain ⟨last, rest, rfl, last_inside, fits⟩ := fits_cons fits
  obtain rfl := fits_nil fits
  exact ⟨next, last, rfl, inside, last_inside⟩

/-- What a leading byte and fitting followers spell is encoded by just these bytes. -/
theorem encodeChar_assemble {lead : UInt8} {ranges : List ByteRange} {tail : Bytes}
    (found : followers lead = some ranges) (fits : Fits ranges tail) :
    encodeChar (Char.ofNat (assemble lead tail)) = lead :: tail := by
  rw [followers_toNat] at found
  split at found
  · cases found
    obtain rfl := fits_nil fits
    have code : assemble lead [] = lead.toNat := rfl
    rw [code, encodeChar_ofNat (Or.inl (by omega)), if_pos (by omega), toUInt8_eq lead rfl]
  split at found
  · cases found
  split at found
  · cases found
    obtain ⟨byte, rest, rfl, inside, fits⟩ := fits_cons fits
    obtain rfl := fits_nil fits
    exact encodeChar_assemble_two (by omega) (by omega) inside
  -- Three bytes; the second one is held back after `E0` and after `ED`.
  split at found
  · cases found
    obtain ⟨next, last, rfl, ⟨low, high⟩, inside⟩ := fits_two fits
    exact encodeChar_assemble_three (by omega) (by omega) ⟨Nat.le_trans (by decide) low, high⟩
      inside (fun _ => low) (by omega)
  split at found
  · cases found
    obtain ⟨next, last, rfl, ⟨low, high⟩, inside⟩ := fits_two fits
    exact encodeChar_assemble_three (by omega) (by omega) ⟨low, Nat.le_trans high (by decide)⟩
      inside (by omega) (fun _ => high)
  split at found
  · cases found
    obtain ⟨next, last, rfl, next_inside, inside⟩ := fits_two fits
    exact encodeChar_assemble_three (by omega) (by omega) next_inside inside (by omega) (by omega)
  -- Four bytes; the second one is held back after `F0` and after `F4`.
  split at found
  · cases found
    obtain ⟨next, rest, rfl, ⟨low, high⟩, fits⟩ := fits_cons fits
    obtain ⟨third, last, rfl, third_inside, inside⟩ := fits_two fits
    exact encodeChar_assemble_four (by omega) (by omega) ⟨Nat.le_trans (by decide) low, high⟩
      third_inside inside (fun _ => low) (by omega)
  split at found
  · cases found
    obtain ⟨next, rest, rfl, next_inside, fits⟩ := fits_cons fits
    obtain ⟨third, last, rfl, third_inside, inside⟩ := fits_two fits
    exact encodeChar_assemble_four (by omega) (by omega) next_inside third_inside inside
      (by omega) (by omega)
  split at found
  · cases found
    obtain ⟨next, rest, rfl, ⟨low, high⟩, fits⟩ := fits_cons fits
    obtain ⟨third, last, rfl, third_inside, inside⟩ := fits_two fits
    exact encodeChar_assemble_four (by omega) (by omega) ⟨low, Nat.le_trans high (by decide)⟩
      third_inside inside (by omega) (fun _ => high)
  · cases found

/-- Characters that all of the bytes were cut into encode to just these bytes. -/
theorem encode_of_segments {bytes : Bytes} {text : List Char}
    (cut : segments bytes = text.map .character) : encode text = bytes := by
  induction bytes using segments.induct generalizing text with
  | case1 =>
    rw [segments] at cut
    obtain rfl := List.map_eq_nil_iff.1 cut.symm
    rfl
  | case2 lead rest broken ih =>
    rw [segments, broken] at cut
    cases text with
    | nil => cases cut
    | cons c text => cases (List.cons.inj cut).1
  | case3 lead rest ranges found taken =>
    rename_i ih
    rw [segments, found] at cut
    cases text with
    | nil => cases cut
    | cons c text =>
      obtain ⟨head, tail⟩ := List.cons.inj cut
      split at head
      · next complete =>
        cases head
        have rest_eq : encode text = taken.2 := ih tail
        calc
          encode (Char.ofNat (assemble lead taken.1) :: text)
              = encodeChar (Char.ofNat (assemble lead taken.1)) ++ encode text := rfl
          _ = lead :: (taken.1 ++ taken.2) := by
            rw [encodeChar_assemble found (fits_of_complete complete), rest_eq, List.cons_append]
          _ = lead :: rest := by rw [takeFollowers_append]
      · cases head

theorem mapM_char?_eq_some {found : List Segment} {text : List Char} :
    found.mapM Segment.char? = some text ↔ found = text.map .character := by
  induction found generalizing text with
  | nil => cases text <;> simp
  | cons segment found ih =>
    rw [List.mapM_cons]
    cases segment with
    | character c =>
      cases text with
      | nil => simp [Segment.char?, Option.bind_eq_some_iff]
      | cons d text =>
        simp only [Segment.char?, Option.bind_eq_bind, Option.bind_some, Option.bind_eq_some_iff,
          Option.pure_def, Option.some.injEq, List.cons.injEq, List.map_cons, ih,
          Segment.character.injEq]
        constructor
        · rintro ⟨rest, cut, rfl, rfl⟩
          exact ⟨rfl, cut⟩
        · rintro ⟨rfl, cut⟩
          exact ⟨text, cut, rfl, rfl⟩
    | broken bytes => cases text <;> simp [Segment.char?]

/-- Bytes decode to a text exactly if the text encodes to them. -/
theorem decode?_eq_some_iff {bytes : Bytes} {text : List Char} :
    decode? bytes = some text ↔ bytes = encode text := by
  rw [decode?, mapM_char?_eq_some]
  exact ⟨fun cut => (encode_of_segments cut).symm, fun h => h ▸ segments_encode text⟩

theorem string?_eq_some_iff {bytes : Bytes} {text : String} :
    string? bytes = some text ↔ bytes = ofString text := by
  rw [string?, Option.map_eq_some_iff, ofString]
  constructor
  · rintro ⟨chars, decoded, rfl⟩
    rw [String.toList_ofList]
    exact decode?_eq_some_iff.1 decoded
  · intro bytes_eq
    exact ⟨text.toList, decode?_eq_some_iff.2 bytes_eq, String.ofList_toList⟩

theorem decodeLossy_encode (text : List Char) : decodeLossy (encode text) = text := by
  rw [decodeLossy, segments_encode, List.map_map]
  exact List.map_id' text

theorem decodeLossy_ofString (text : String) : decodeLossy (ofString text) = text.toList :=
  decodeLossy_encode text.toList

theorem encode_inj {left right : List Char} (same : encode left = encode right) : left = right := by
  rw [← decodeLossy_encode left, same, decodeLossy_encode]

theorem ofString_inj {left right : String} (same : ofString left = ofString right) :
    left = right :=
  String.toList_inj.1 (encode_inj same)

theorem decodeLossy_nil : decodeLossy [] = [] := by
  rw [decodeLossy, segments, List.map_nil]

theorem lossyString_nil : lossyString [] = "" := by
  rw [lossyString, decodeLossy_nil, String.ofList_nil]

/-- A text that bytes decode to is also what they are shown as. -/
theorem lossyString_of_string? {bytes : Bytes} {text : String}
    (decoded : string? bytes = some text) : lossyString bytes = text := by
  rw [string?_eq_some_iff.1 decoded, lossyString, decodeLossy_ofString, String.ofList_toList]

/-! ## Texts in front of other bytes -/

theorem decodeLossy_encodeChar (c : Char) (rest : Bytes) :
    decodeLossy (encodeChar c ++ rest) = c :: decodeLossy rest := by
  rw [decodeLossy, segments_encodeChar]
  rfl

theorem decodeLossy_encode_append (text : List Char) (rest : Bytes) :
    decodeLossy (encode text ++ rest) = text ++ decodeLossy rest := by
  induction text with
  | nil => rfl
  | cons c text ih =>
    rw [encode, List.flatMap_cons, List.append_assoc, decodeLossy_encodeChar, List.cons_append]
    exact congrArg _ ih

/-! ## The standard encoding -/

/-- Characters are encoded as in strings of the standard library. -/
theorem encodeChar_eq_utf8EncodeChar (c : Char) : encodeChar c = String.utf8EncodeChar c := by
  have valid : c.toNat < 0xD800 ∨ 0xDFFF < c.toNat ∧ c.toNat < 0x110000 := c.valid
  have code : c.val.toNat = c.toNat := rfl
  have last : 0x80 + c.toNat % 0x40 = c.toNat % 64 + 128 := by omega
  have third : 0x80 + c.toNat / 0x40 % 0x40 = c.toNat / 64 % 64 + 128 := by omega
  simp only [encodeChar, String.utf8EncodeChar, code]
  by_cases one : c.toNat < 0x80
  · rw [if_pos one, if_pos (show c.toNat ≤ 127 by omega)]
  rw [if_neg one, if_neg (show ¬c.toNat ≤ 127 by omega)]
  by_cases two : c.toNat < 0x800
  · have lead : 0xC0 + c.toNat / 0x40 = c.toNat / 64 % 32 + 192 := by omega
    rw [if_pos two, if_pos (show c.toNat ≤ 2047 by omega), last, lead]
  rw [if_neg two, if_neg (show ¬c.toNat ≤ 2047 by omega)]
  by_cases three : c.toNat < 0x10000
  · have lead : 0xE0 + c.toNat / 0x1000 = c.toNat / 4096 % 16 + 224 := by omega
    rw [if_pos three, if_pos (show c.toNat ≤ 65535 by omega), last, third, lead]
  · have second : 0x80 + c.toNat / 0x1000 % 0x40 = c.toNat / 4096 % 64 + 128 := by omega
    have lead : 0xF0 + c.toNat / 0x40000 = c.toNat / 262144 % 8 + 240 := by omega
    rw [if_neg three, if_neg (show ¬c.toNat ≤ 65535 by omega), last, third, second, lead]

theorem toByteArray_encode (text : List Char) : (encode text).toByteArray = text.utf8Encode := by
  have same : encodeChar = String.utf8EncodeChar := funext encodeChar_eq_utf8EncodeChar
  rw [encode, same, List.utf8Encode]

theorem toByteArray_ofString (text : String) : (ofString text).toByteArray = text.toUTF8 := by
  rw [ofString, toByteArray_encode, String.utf8Encode_toList, String.toUTF8_eq_toByteArray]

/-- Strict decoding accepts valid bytes. -/
theorem isSome_string?_iff (bytes : Bytes) :
    (string? bytes).isSome = true ↔ bytes.toByteArray.IsValidUTF8 := by
  constructor
  · intro accepted
    obtain ⟨text, decoded⟩ := Option.isSome_iff_exists.1 accepted
    rw [string?_eq_some_iff.1 decoded, toByteArray_ofString]
    exact text.isValidUTF8
  · rintro ⟨text, spelled⟩
    rw [← toByteArray_encode, List.toByteArray_inj] at spelled
    rw [spelled, string?, decode?_eq_some_iff.2 rfl]
    rfl

theorem length_ofString (text : String) : (ofString text).length = text.utf8ByteSize := by
  rw [← List.size_toByteArray, toByteArray_ofString, String.toUTF8_eq_toByteArray,
    String.size_toByteArray]

theorem ofString_append (left right : String) :
    ofString (left ++ right) = ofString left ++ ofString right := by
  rw [ofString, String.toList_append, encode, List.flatMap_append]
  rfl

/-! ## Bytes of characters below `80` -/

/-- A byte below `80` is found only where it stands for the character of that code. -/
theorem mem_encodeChar_iff_of_ascii {byte : UInt8} (ascii : byte.toNat < 0x80) (c : Char) :
    byte ∈ encodeChar c ↔ c.toNat = byte.toNat := by
  have valid : c.toNat < 0xD800 ∨ 0xDFFF < c.toNat ∧ c.toNat < 0x110000 := c.valid
  have apart : ∀ n, 0x80 ≤ n → n < 256 → byte ≠ n.toUInt8 := by
    intro n least small same
    rw [same, toNat_toUInt8 small] at ascii
    omega
  have last : byte ≠ (0x80 + c.toNat % 0x40).toUInt8 := apart _ (by omega) (by omega)
  have third : byte ≠ (0x80 + c.toNat / 0x40 % 0x40).toUInt8 := apart _ (by omega) (by omega)
  have second : byte ≠ (0x80 + c.toNat / 0x1000 % 0x40).toUInt8 := apart _ (by omega) (by omega)
  simp only [encodeChar]
  split
  · rw [List.mem_singleton, ← UInt8.toNat_inj, toNat_toUInt8 (by omega)]
    exact eq_comm
  -- What is encoded in more bytes has none that is below `80`.
  refine iff_of_false (fun inside => ?_) (by omega)
  split at inside
  · have lead : byte ≠ (0xC0 + c.toNat / 0x40).toUInt8 := apart _ (by omega) (by omega)
    simp only [List.mem_cons, List.not_mem_nil, lead, last, or_self] at inside
  split at inside
  · have lead : byte ≠ (0xE0 + c.toNat / 0x1000).toUInt8 := apart _ (by omega) (by omega)
    simp only [List.mem_cons, List.not_mem_nil, lead, third, last, or_self] at inside
  · have lead : byte ≠ (0xF0 + c.toNat / 0x40000).toUInt8 := apart _ (by omega) (by omega)
    simp only [List.mem_cons, List.not_mem_nil, lead, second, third, last, or_self] at inside

theorem mem_encode_iff_of_ascii {c : Char} (ascii : c.toNat < 0x80) (text : List Char) :
    c.toNat.toUInt8 ∈ encode text ↔ c ∈ text := by
  have byte : c.toNat.toUInt8.toNat = c.toNat := toNat_toUInt8 (by omega)
  rw [encode, List.mem_flatMap]
  constructor
  · rintro ⟨d, inside, found⟩
    rw [mem_encodeChar_iff_of_ascii (by omega), byte] at found
    rwa [← Char.toNat_inj.1 found]
  · intro inside
    refine ⟨c, inside, ?_⟩
    rw [mem_encodeChar_iff_of_ascii (by omega), byte]

end TreeBundle.Utf8
