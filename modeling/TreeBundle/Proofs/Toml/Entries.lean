import TreeBundle.Proofs.Toml.Strings
import TreeBundle.Toml.Parser

/-!
# Written entries are read back

A document of written entries with distinct bare keys has just these entries, in their order. An
entry is read back as soon as its value is; strings, arrays of strings and truth values are.
-/
namespace TreeBundle.Toml
set_option autoImplicit false

/-! ## Values -/

theorem noQuoteAhead_cons {quote c : Char} (rest : List Char) (different : c ≠ quote) :
    NoQuoteAhead quote (c :: rest) := by
  simpa [NoQuoteAhead] using different

theorem writeString_opens (text : List Char) :
    ∃ quote body, writeString text = quote :: body ∧ (quote = '"' ∨ quote = '\'') := by
  unfold writeString
  cases StringForm.choose text with
  | basic => exact ⟨'"', _, rfl, Or.inl rfl⟩
  | literal => exact ⟨'\'', _, rfl, Or.inr rfl⟩
  | longBasic => exact ⟨'"', _, rfl, Or.inl rfl⟩
  | longLiteral => exact ⟨'\'', _, rfl, Or.inr rfl⟩

theorem value?_quote {quote : Char} (depth : Nat) (rest : List Char)
    (quotes : quote = '"' ∨ quote = '\'') :
    value? depth (quote :: rest) = value?.text? (quote :: rest) := by
  rcases quotes with rfl | rfl <;> cases depth <;> rfl

theorem value?_writeString (depth : Nat) (text : String) {rest : List Char}
    (no_basic : NoQuoteAhead '"' rest) (no_literal : NoQuoteAhead '\'' rest) :
    value? depth (writeString text.toList ++ rest) = some (.text text, rest) := by
  obtain ⟨quote, body, written, quotes⟩ := writeString_opens text.toList
  have read := string?_writeString text.toList no_basic no_literal
  rw [written, List.cons_append] at read ⊢
  rw [value?_quote depth _ quotes]
  unfold value?.text?
  rw [read]
  simp

theorem value?_writeBoolean (depth : Nat) (value : Bool) (rest : List Char) :
    value? depth (writeBoolean value ++ rest) = some (.boolean value, rest) := by
  cases value <;> cases depth <;> rfl

/-! ## Arrays -/

theorem skipSpace_space {c : Char} (rest : List Char) (space : c = ' ' ∨ c = '\n') :
    skipSpace (c :: rest) = skipSpace rest := by
  rcases space with rfl | rfl
  · rw [skipSpace] <;> simp [isBlank]
  · rw [skipSpace] <;> simp

theorem skipSpace_mark {c : Char} (rest : List Char) (mark : c ∈ ['"', '\'', ',', ']']) :
    skipSpace (c :: rest) = c :: rest := by
  simp only [List.mem_cons, List.not_mem_nil, or_false] at mark
  rcases mark with rfl | rfl | rfl | rfl <;> rw [skipSpace] <;> simp [isBlank]

theorem skipSpace_writeString (text rest : List Char) :
    skipSpace (writeString text ++ rest) = writeString text ++ rest := by
  obtain ⟨quote, body, written, quotes⟩ := writeString_opens text
  rw [written, List.cons_append]
  refine skipSpace_mark _ ?_
  rcases quotes with rfl | rfl <;> decide

/-- An item that another one may follow. -/
theorem items?_separated (depth fuel : Nat) (item : String) {text rest : List Char}
    (ahead : skipSpace text = writeString item.toList ++ ',' :: rest) :
    items? (value? depth) (fuel + 1) text =
      (items? (value? depth) fuel rest).map fun found => (.text item :: found.1, found.2) := by
  obtain ⟨quote, body, written, quotes⟩ := writeString_opens item.toList
  have read := value?_writeString depth item (noQuoteAhead_cons rest (by decide : ',' ≠ '"'))
    (noQuoteAhead_cons rest (by decide))
  have separator : skipSpace (',' :: rest) = ',' :: rest := skipSpace_mark rest (by decide)
  rw [written, List.cons_append] at ahead read
  rw [items?, ahead]
  split
  · next same =>
    cases same
    simp at quotes
  · simp [read, separator]

/-- An item right before the closing bracket. -/
theorem items?_last (depth fuel : Nat) (item : String) {text rest : List Char}
    (ahead : skipSpace text = writeString item.toList ++ ']' :: rest) :
    items? (value? depth) (fuel + 1) text = some ([.text item], rest) := by
  obtain ⟨quote, body, written, quotes⟩ := writeString_opens item.toList
  have read := value?_writeString depth item (noQuoteAhead_cons rest (by decide : ']' ≠ '"'))
    (noQuoteAhead_cons rest (by decide))
  have bracket : skipSpace (']' :: rest) = ']' :: rest := skipSpace_mark rest (by decide)
  rw [written, List.cons_append] at ahead read
  rw [items?, ahead]
  split
  · next same =>
    cases same
    simp at quotes
  · simp [read, bracket]

theorem items?_writeItems (depth fuel : Nat) (items : List String) (rest : List Char)
    (enough : items.length < fuel) :
    items? (value? depth) fuel ('\n' :: (items.flatMap writeItem ++ ']' :: rest)) =
      some (items.map Datum.text, rest) := by
  induction items generalizing fuel with
  | nil =>
    cases fuel with
    | zero => cases enough
    | succ fuel =>
      unfold items?
      rw [skipSpace_space _ (Or.inr rfl), List.flatMap_nil, List.nil_append,
        skipSpace_mark _ (by decide)]
      rfl
  | cons item items ih =>
    cases fuel with
    | zero => cases enough
    | succ fuel =>
      have written : (item :: items).flatMap writeItem ++ ']' :: rest =
          ' ' :: ' ' :: ' ' :: ' ' :: (writeString item.toList ++
            ',' :: '\n' :: (items.flatMap writeItem ++ ']' :: rest)) := by
        simp [writeItem]
      have ahead : skipSpace ('\n' :: ((item :: items).flatMap writeItem ++ ']' :: rest)) =
          writeString item.toList ++ ',' :: '\n' :: (items.flatMap writeItem ++ ']' :: rest) := by
        rw [written, skipSpace_space _ (Or.inr rfl)]
        iterate 4 rw [skipSpace_space _ (Or.inl rfl)]
        exact skipSpace_writeString _ _
      have others := ih fuel (by simpa using enough)
      rw [items?_separated depth fuel item ahead, others]
      rfl

theorem length_le_flatMap_writeItem (items : List String) :
    items.length ≤ (items.flatMap writeItem).length := by
  induction items with
  | nil => exact Nat.le_refl 0
  | cons item items ih =>
    have positive : 1 ≤ (writeItem item).length := by
      simp [writeItem]
    rw [List.flatMap_cons, List.length_append, List.length_cons]
    omega

theorem value?_writeArray (depth : Nat) (items : List String) (rest : List Char) :
    value? (depth + 1) (writeArray items ++ rest) = some (.list (items.map Datum.text), rest) := by
  have opened : ∀ body, value? (depth + 1) ('[' :: body) =
      (items? (value? depth) (body.length + 1) body).map fun found => (.list found.1, found.2) :=
    fun _ => rfl
  match items with
  | [] =>
    have closed : writeArray [] ++ rest = '[' :: ']' :: rest := rfl
    rw [closed, opened, items?, skipSpace_mark _ (by decide)]
    rfl
  | [item] =>
    have single : writeArray [item] ++ rest = '[' :: (writeString item.toList ++ ']' :: rest) := by
      simp [writeArray]
    rw [single, opened, items?_last depth _ item (skipSpace_writeString _ _)]
    rfl
  | first :: second :: others =>
    have lines : writeArray (first :: second :: others) ++ rest =
        '[' :: '\n' :: ((first :: second :: others).flatMap writeItem ++ ']' :: rest) := by
      simp [writeArray]
    have few := length_le_flatMap_writeItem (first :: second :: others)
    rw [lines, opened, items?_writeItems]
    · rfl
    · simp only [List.length_append, List.length_cons] at few ⊢
      omega

/-! ## Lines -/

structure BareKey (key : String) : Prop where
  nonempty : key.toList ≠ []
  bare : ∀ c ∈ key.toList, isBareKeyChar c = true

/-- A value text that is read back on its own line. -/
structure ReadsAs (value : List Char) (datum : Datum) : Prop where
  starts : ∃ first others, value = first :: others ∧ isBlank first = false
  read : ∀ rest, value? (nestingLimit - 1) (value ++ '\n' :: rest) = some (datum, '\n' :: rest)

/-- What bare keys do not hold. -/
theorem bareKeyChar_ne {c : Char} (bare : isBareKeyChar c = true) :
    isBlank c = false ∧ c ≠ '#' ∧ c ≠ '[' ∧ c ≠ '\n' ∧ c ≠ '\r' ∧ c ≠ '"' ∧ c ≠ '\'' ∧
      c ≠ '\uFEFF' := by
  have not_bare : ∀ d, isBareKeyChar d = false → c ≠ d := by
    rintro d other rfl
    rw [bare] at other
    cases other
  refine ⟨?_, ?_⟩
  · unfold isBlank
    simp [not_bare ' ' (by decide), not_bare '\t' (by decide)]
  · exact ⟨not_bare _ (by decide), not_bare _ (by decide), not_bare _ (by decide),
      not_bare _ (by decide), not_bare _ (by decide), not_bare _ (by decide),
      not_bare _ (by decide)⟩

theorem skipBlanks_cons {c : Char} (rest : List Char) (not_blank : isBlank c = false) :
    skipBlanks (c :: rest) = c :: rest := by
  simp [skipBlanks, not_blank]

theorem takeWhile_append_stop {p : Char → Bool} {front : List Char} {c : Char} (rest : List Char)
    (all : ∀ d ∈ front, p d = true) (stop : p c = false) :
    (front ++ c :: rest).takeWhile p = front ∧ (front ++ c :: rest).dropWhile p = c :: rest := by
  rw [List.takeWhile_append_of_pos all, List.dropWhile_append_of_pos all]
  simp [stop]

/-- A bare key before an equals sign. -/
theorem key?_bare {key : String} (bare : BareKey key) (rest : List Char) :
    key? (key.toList ++ ' ' :: '=' :: rest) = some ([key], '=' :: rest) := by
  obtain ⟨taken, dropped⟩ := takeWhile_append_stop (c := ' ') ('=' :: rest) bare.bare (by decide)
  obtain ⟨first, others, spelled⟩ := List.exists_cons_of_ne_nil bare.nonempty
  have first_bare := bare.bare first (by rw [spelled]; exact List.mem_cons_self)
  obtain ⟨not_blank, -, -, -, -, no_basic, no_literal, -⟩ := bareKeyChar_ne first_bare
  have no_quotes : shortString? (key.toList ++ ' ' :: '=' :: rest) = none := by
    rw [spelled, List.cons_append]
    unfold shortString?
    split
    · next same => exact absurd (List.cons.inj same).1 no_basic
    · next same => exact absurd (List.cons.inj same).1 no_literal
    · rfl
  have part : keyPart? (key.toList ++ ' ' :: '=' :: rest) = some (key, ' ' :: '=' :: rest) := by
    unfold keyPart?
    rw [no_quotes]
    simp [taken, dropped, bare.nonempty]
  have starts : skipBlanks (key.toList ++ ' ' :: '=' :: rest) =
      key.toList ++ ' ' :: '=' :: rest := by
    rw [spelled, List.cons_append]
    exact skipBlanks_cons _ not_blank
  have gap : skipBlanks (' ' :: '=' :: rest) = '=' :: rest := by
    simp [skipBlanks, isBlank]
  have unfolded : key? (key.toList ++ ' ' :: '=' :: rest) =
      keyPath? (78 + 1) (key.toList ++ ' ' :: '=' :: rest) := rfl
  rw [unfolded, keyPath?, starts, part]
  simp [gap]

theorem assignment?_writeEntry {key : String} {value : List Char} {datum : Datum}
    (bare : BareKey key) (reads : ReadsAs value datum) (rest : List Char) :
    assignment? (value? (nestingLimit - 1)) (writeEntry key value ++ rest) =
      some (([key], datum), '\n' :: rest) := by
  have written : writeEntry key value ++ rest =
      key.toList ++ ' ' :: '=' :: ' ' :: (value ++ '\n' :: rest) := by
    simp [writeEntry]
  have starts : skipBlanks (' ' :: (value ++ '\n' :: rest)) = value ++ '\n' :: rest := by
    obtain ⟨first, others, rfl, not_blank⟩ := reads.starts
    simp [skipBlanks, not_blank, show isBlank ' ' = true from rfl]
  unfold assignment?
  rw [written, key?_bare bare]
  simp [starts, reads.read]

theorem line?_writeEntry {key : String} {value : List Char} {datum : Datum}
    (bare : BareKey key) (reads : ReadsAs value datum) (rest : List Char) :
    line? (writeEntry key value ++ rest) = some (some (.assignment [key] datum), rest) := by
  have assigned := assignment?_writeEntry bare reads rest
  obtain ⟨first, others, spelled⟩ := List.exists_cons_of_ne_nil bare.nonempty
  have first_bare := bare.bare first (by rw [spelled]; exact List.mem_cons_self)
  obtain ⟨not_blank, no_comment, no_bracket, no_feed, no_return, -⟩ := bareKeyChar_ne first_bare
  obtain ⟨more, written⟩ : ∃ more, writeEntry key value ++ rest = first :: more := by
    rw [writeEntry, spelled]
    exact ⟨_, rfl⟩
  have no_line_end : lineEndSize (first :: more) = 0 := by
    unfold lineEndSize
    split
    · next same => exact absurd (List.cons.inj same).1 no_feed
    · next same => exact absurd (List.cons.inj same).1 no_return
    · rfl
  rw [written] at assigned ⊢
  unfold line?
  rw [skipBlanks_cons more not_blank]
  split
  · next same => cases same
  · next same => exact absurd (List.cons.inj same).1 no_bracket
  · next same =>
    obtain ⟨rfl, rfl⟩ := List.cons.inj same
    rw [if_neg (by simp [no_comment, no_line_end]), assigned]
    rfl

/-! ## Documents -/

section Documents
variable {ι : Type} {key : ι → String} {value : ι → List Char} {datum : ι → Datum}

theorem statements?_flatMap (bare : ∀ item, BareKey (key item))
    (reads : ∀ item, ReadsAs (value item) (datum item)) (items : List ι) (fuel : Nat)
    (enough : items.length ≤ fuel) :
    statements? fuel (items.flatMap fun item => writeEntry (key item) (value item)) =
      some (items.map fun item => .assignment [key item] (datum item)) := by
  induction items generalizing fuel with
  | nil => cases fuel <;> rfl
  | cons item items ih =>
    cases fuel with
    | zero => cases enough
    | succ fuel =>
      have others := ih fuel (by simpa using enough)
      have line := line?_writeEntry (bare item) (reads item)
        (items.flatMap fun item => writeEntry (key item) (value item))
      obtain ⟨first, more, spelled⟩ : ∃ first more, writeEntry (key item) (value item) ++
          items.flatMap (fun item => writeEntry (key item) (value item)) = first :: more :=
        List.exists_cons_of_ne_nil (by simp [writeEntry])
      rw [spelled] at line
      rw [List.flatMap_cons, spelled, statements?, line] <;> simp [others]

/-- Nothing is refused where each key is new. -/
theorem alter_new {name : String} (node : Node) {entries : Entries}
    (fresh : name ∉ entries.map Prod.fst) :
    insertNew name node entries = some (entries ++ [(name, node)]) := by
  unfold insertNew
  induction entries with
  | nil => rfl
  | cons entry entries ih =>
    obtain ⟨other, held⟩ := entry
    simp only [List.map_cons, List.mem_cons, not_or] at fresh
    rw [alter, if_neg (Ne.symm fresh.1), ih fresh.2]
    rfl

theorem foldlM_add_assignments (items : List ι) (entries : Entries)
    (distinct : (entries.map Prod.fst ++ items.map key).Nodup) :
    (items.map fun item => Statement.assignment [key item] (datum item)).foldlM Draft.add
      ⟨entries, []⟩ =
      some ⟨entries ++ items.map fun item => (key item, .value (datum item)), []⟩ := by
  induction items generalizing entries with
  | nil => simp
  | cons item items ih =>
    have fresh : key item ∉ entries.map Prod.fst := by
      intro member
      have apart := (List.nodup_append.1 distinct).2.2 _ member (key item)
      simp at apart
    have added : Draft.add ⟨entries, []⟩ (.assignment [key item] (datum item)) =
        some ⟨entries ++ [(key item, .value (datum item))], []⟩ := by
      have inserted := alter_new (.value (datum item)) fresh
      simp only [Draft.add, within, assign, inserted, Option.map_some]
    have others := ih (entries ++ [(key item, .value (datum item))]) (by simpa using distinct)
    simp only [List.map_cons, List.foldlM_cons, added, Option.bind_eq_bind, Option.bind_some, others]
    simp

theorem entryData_values (items : List ι) :
    entryData (items.map fun item => (key item, .value (datum item))) =
      items.map fun item => (key item, datum item) := by
  induction items with
  | nil => rfl
  | cons item items ih => simp only [List.map_cons, entryData, Node.toDatum, ih]

theorem dropByteOrderMark_flatMap (bare : ∀ item, BareKey (key item)) (items : List ι) :
    dropByteOrderMark (items.flatMap fun item => writeEntry (key item) (value item)) =
      items.flatMap fun item => writeEntry (key item) (value item) := by
  cases items with
  | nil => rfl
  | cons item items =>
    obtain ⟨first, others, spelled⟩ := List.exists_cons_of_ne_nil (bare item).nonempty
    have first_bare := (bare item).bare first (by rw [spelled]; exact List.mem_cons_self)
    rw [List.flatMap_cons, writeEntry, spelled]
    unfold dropByteOrderMark
    split
    · next same => exact absurd (List.cons.inj same).1 (bareKeyChar_ne first_bare).2.2.2.2.2.2.2
    · rfl

/-- A document of written entries is read back entry by entry. -/
theorem parse?_writeEntries (bare : ∀ item, BareKey (key item))
    (reads : ∀ item, ReadsAs (value item) (datum item)) (items : List ι)
    (distinct : (items.map key).Nodup) :
    parse? (String.ofList (items.flatMap fun item => writeEntry (key item) (value item))) =
      some (items.map fun item => (key item, datum item)) := by
  have enough : items.length ≤
      (items.flatMap fun item => writeEntry (key item) (value item)).length + 1 := by
    have lines : items.length ≤
        (items.flatMap fun item => writeEntry (key item) (value item)).length := by
      clear distinct
      induction items with
      | nil => exact Nat.le_refl 0
      | cons item items ih =>
        simp only [List.flatMap_cons, List.length_append, List.length_cons, writeEntry] at ih ⊢
        omega
    omega
  have built : (items.map fun item => Statement.assignment [key item] (datum item)).foldlM
      Draft.add ⟨[], []⟩ = some ⟨[] ++ items.map fun item => (key item, .value (datum item)), []⟩ :=
    foldlM_add_assignments items [] (by simpa using distinct)
  have statements := statements?_flatMap bare reads items _ enough
  unfold parse?
  simp only [String.toList_ofList, dropByteOrderMark_flatMap bare, statements, Option.bind_some]
  unfold ofStatements? Draft.empty
  rw [built, Option.map_some, List.nil_append, entryData_values]

end Documents

theorem writeArray_readsAs (items : List String) :
    ReadsAs (writeArray items) (.list (items.map .text)) where
  starts := by
    match items with
    | [] | [_] | _ :: _ :: _ => exact ⟨'[', _, rfl, rfl⟩
  read := fun rest => value?_writeArray 78 items ('\n' :: rest)

theorem writeBoolean_readsAs (value : Bool) : ReadsAs (writeBoolean value) (.boolean value) where
  starts := by cases value <;> exact ⟨_, _, rfl, rfl⟩
  read := fun rest => value?_writeBoolean _ value ('\n' :: rest)

end TreeBundle.Toml
