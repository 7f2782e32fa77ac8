import Mathlib.Algebra.Group.Int.Defs
import Mathlib.Algebra.Group.Nat.Defs
import Mathlib.Data.Option.Basic
import TreeBundle.Json.Parser
import TreeBundle.Json.Printer

/-!
# Compact JSON is read back

What is written compactly is read back to the value, as long as its numbers are integers that fit
64 bits: every character of a string survives its escape, and punctuation ends whatever stands
before it. A compact text has no line feed, whatever the strings in it hold.
-/
namespace TreeBundle
set_option autoImplicit false

/-- Data that JSON holds as it is: integers that fit 64 bits, and no other numbers. -/
inductive Datum.Exact : Datum → Prop where
  | null : Exact .null
  | boolean (value : Bool) : Exact (.boolean value)
  | integer (value : Int) (least : -2 ^ 63 ≤ value) (greatest : value < 2 ^ 64) :
      Exact (.integer value)
  | text (value : String) : Exact (.text value)
  | list (items : List Datum) (every : ∀ item ∈ items, Exact item) : Exact (.list items)
  | map (entries : List (String × Datum)) (every : ∀ entry ∈ entries, Exact entry.2) :
      Exact (.map entries)

namespace Json

variable {rest : List Char} {fuel : Nat}

/-! ## Strings -/

/-- How a character is written: by a short escape, by its code, or as it is. -/
theorem escapeChar_cases (c : Char) :
    (∃ letter, escapeChar c = ['\\', letter] ∧ shortEscape? letter = some c) ∨
      (escapeChar c = ['\\', 'u', '0', '0', Hexadecimal.digit (c.toNat / 16),
        Hexadecimal.digit (c.toNat % 16)] ∧ c.toNat < 0x20) ∨
      (escapeChar c = [c] ∧ c ≠ '"' ∧ c ≠ '\\' ∧ ¬c.toNat < 0x20) := by
  unfold escapeChar
  by_cases quotation : c = '"'
  · exact Or.inl ⟨'"', by simp [quotation], by rw [quotation]; rfl⟩
  by_cases backslash : c = '\\'
  · exact Or.inl ⟨'\\', by simp [backslash], by rw [backslash]; rfl⟩
  by_cases backspace : c = '\x08'
  · exact Or.inl ⟨'b', by simp [backspace], by rw [backspace]; rfl⟩
  by_cases form_feed : c = '\x0c'
  · exact Or.inl ⟨'f', by simp [form_feed], by rw [form_feed]; rfl⟩
  by_cases line_feed : c = '\n'
  · exact Or.inl ⟨'n', by simp [line_feed], by rw [line_feed]; rfl⟩
  by_cases carriage_return : c = '\r'
  · exact Or.inl ⟨'r', by simp [carriage_return], by rw [carriage_return]; rfl⟩
  by_cases tab : c = '\t'
  · exact Or.inl ⟨'t', by simp [tab], by rw [tab]; rfl⟩
  rw [if_neg quotation, if_neg backslash, if_neg backspace, if_neg form_feed, if_neg line_feed,
    if_neg carriage_return, if_neg tab]
  by_cases control : c.toNat < 0x20
  · exact Or.inr (Or.inl ⟨if_pos control, control⟩)
  · exact Or.inr (Or.inr ⟨if_neg control, quotation, backslash, control⟩)

theorem stringBody_shortEscape {letter c : Char} (known : shortEscape? letter = some c)
    (rest : List Char) :
    stringBody ('\\' :: letter :: rest) =
      (stringBody rest).map fun found => (c :: found.1, found.2) := by
  have no_code : letter ≠ 'u' := by
    rintro rfl
    simp [shortEscape?] at known
  rw [stringBody, known]
  exact fun _ _ _ _ _ same => absurd same no_code

/-- A control character is read back from its code. -/
theorem stringBody_control {c : Char} (control : c.toNat < 0x20) (rest : List Char) :
    stringBody ('\\' :: 'u' :: '0' :: '0' :: Hexadecimal.digit (c.toNat / 16) ::
        Hexadecimal.digit (c.toNat % 16) :: rest) =
      (stringBody rest).map fun found => (c :: found.1, found.2) := by
  have zero : Hexadecimal.value? '0' = some 0 := by decide
  have high := Hexadecimal.value?_digit (c.toNat / 16) (by omega)
  have low := Hexadecimal.value?_digit (c.toNat % 16) (by omega)
  have read : Hexadecimal.number? ['0', '0', Hexadecimal.digit (c.toNat / 16),
      Hexadecimal.digit (c.toNat % 16)] = some c.toNat := by
    simp [Hexadecimal.number?, zero, high, low]
    omega
  have no_high : isHighSurrogate c.toNat = false := decide_eq_false (by omega)
  have no_low : isLowSurrogate c.toNat = false := decide_eq_false (by omega)
  rw [stringBody, read]
  simp [no_high, no_low]

theorem stringBody_plain {c : Char} (no_quote : c ≠ '"') (no_backslash : c ≠ '\\')
    (no_control : ¬c.toNat < 0x20) (rest : List Char) :
    stringBody (c :: rest) = (stringBody rest).map fun found => (c :: found.1, found.2) := by
  rw [stringBody]
  · simp [no_backslash, no_control]
  · exact no_quote
  · exact fun _ _ _ _ _ same => absurd same no_backslash
  · exact fun _ _ same => absurd same no_backslash

/-- An escaped character is read back, and reading goes on behind it. -/
theorem stringBody_escapeChar (c : Char) (rest : List Char) :
    stringBody (escapeChar c ++ rest) =
      (stringBody rest).map fun found => (c :: found.1, found.2) := by
  rcases escapeChar_cases c with ⟨letter, escape, known⟩ | ⟨code, control⟩ |
    ⟨plain, no_quote, no_backslash, no_control⟩
  · rw [escape]
    exact stringBody_shortEscape known rest
  · rw [code]
    exact stringBody_control control rest
  · rw [plain]
    exact stringBody_plain no_quote no_backslash no_control rest

theorem stringBody_quoted (text rest : List Char) :
    stringBody (text.flatMap escapeChar ++ '"' :: rest) = some (text, rest) := by
  induction text with
  | nil => rfl
  | cons c text ih =>
    rw [List.flatMap_cons, List.append_assoc, stringBody_escapeChar, ih]
    rfl

theorem quote_append (text : String) (rest : List Char) :
    quote text ++ rest = '"' :: (text.toList.flatMap escapeChar ++ '"' :: rest) := by
  simp [quote]

/-! ## Numbers -/

/-- Whether a text goes on with what may follow a value. -/
def AtEnd (rest : List Char) : Prop :=
  ∀ c, rest.head? = some c → c = ',' ∨ c = ']' ∨ c = '\x7d'

theorem atEnd_nil : AtEnd [] := by
  intro c head
  cases head

theorem atEnd_comma (rest : List Char) : AtEnd (',' :: rest) := by
  intro c head
  exact Or.inl (Option.some.inj head).symm

theorem atEnd_bracket (rest : List Char) : AtEnd (']' :: rest) := by
  intro c head
  exact Or.inr (Or.inl (Option.some.inj head).symm)

theorem atEnd_brace (rest : List Char) : AtEnd ('\x7d' :: rest) := by
  intro c head
  exact Or.inr (Or.inr (Option.some.inj head).symm)

theorem AtEnd.takeWhile_digits (ends : AtEnd rest) : rest.takeWhile Char.isDigit = [] := by
  cases rest with
  | nil => rfl
  | cons c rest => rcases ends c rfl with rfl | rfl | rfl <;> rfl

theorem AtEnd.dropWhile_digits (ends : AtEnd rest) : rest.dropWhile Char.isDigit = rest := by
  cases rest with
  | nil => rfl
  | cons c rest => rcases ends c rfl with rfl | rfl | rfl <;> rfl

theorem AtEnd.fraction? (ends : AtEnd rest) : fraction? rest = some ([], rest) := by
  cases rest with
  | nil => rfl
  | cons c rest => rcases ends c rfl with rfl | rfl | rfl <;> rfl

theorem AtEnd.exponent? (ends : AtEnd rest) : exponent? rest = some (none, rest) := by
  cases rest with
  | nil => rfl
  | cons c rest => rcases ends c rfl with rfl | rfl | rfl <;> rfl

theorem isDigit_of_mem_digits {n : Nat} {c : Char} (member : c ∈ Nat.toDigits 10 n) :
    c.isDigit = true :=
  Nat.isDigit_of_mem_toDigits (by decide) (by decide) member

theorem digitsValue_toDigits (n : Nat) : digitsValue (Nat.toDigits 10 n) = n := by
  have value := Nat.ofDigitChars_ten_toDigits (n := n)
  rw [Nat.ofDigitChars_eq_foldl] at value
  simpa only [digitsValue, Nat.mul_comm] using value

/-- The digits of a number do not start with a zero, except for that of zero. -/
theorem head?_toDigits {n : Nat} (positive : 0 < n) : (Nat.toDigits 10 n).head? ≠ some '0' := by
  induction n using Nat.strongRecOn with
  | ind n ih =>
    rw [Nat.toDigits_eq_if (by decide)]
    split
    · next small =>
      have digit : ∀ n < 10, 0 < n → n.digitChar ≠ '0' := by decide
      simpa using digit n small positive
    · next large =>
      have head := ih (n / 10) (by omega) (by omega)
      obtain ⟨c, others, digits⟩ :=
        List.exists_cons_of_ne_nil (Nat.toDigits_ne_nil (n := n / 10) (b := 10))
      rw [digits] at head ⊢
      exact head

theorem leads_toDigits (n : Nat) :
    ((Nat.toDigits 10 n).length == 1 || (Nat.toDigits 10 n).head? != some '0') = true := by
  by_cases zero : n = 0
  · subst zero
    decide
  · have head := head?_toDigits (Nat.pos_of_ne_zero zero)
    simp [head]

theorem takeWhile_toDigits (n : Nat) (ends : AtEnd rest) :
    (Nat.toDigits 10 n ++ rest).takeWhile Char.isDigit = Nat.toDigits 10 n := by
  rw [List.takeWhile_append_of_pos fun _ => isDigit_of_mem_digits, ends.takeWhile_digits,
    List.append_nil]

theorem dropWhile_toDigits (n : Nat) (ends : AtEnd rest) :
    (Nat.toDigits 10 n ++ rest).dropWhile Char.isDigit = rest := by
  rw [List.dropWhile_append_of_pos fun _ => isDigit_of_mem_digits, ends.dropWhile_digits]

theorem isEmpty_toDigits (n : Nat) : (Nat.toDigits 10 n).isEmpty = false := by
  rw [List.isEmpty_eq_false_iff]
  exact Nat.toDigits_ne_nil

/-- Digits are read as an integer, behind a minus sign or without one. -/
theorem number?_digits {text : List Char} {n : Nat} (negative : Bool)
    (signed : (match text with
      | '-' :: rest => (true, rest)
      | rest => (false, rest)) = (negative, Nat.toDigits 10 n ++ rest))
    (ends : AtEnd rest)
    (fits : (if negative then decide (0 < n ∧ n ≤ Nat.pow 2 63) else decide (n < Nat.pow 2 64)) =
      true) :
    number? text = some (.integer (if negative then -Int.ofNat n else n), rest) := by
  have lead : (!(Nat.toDigits 10 n).isEmpty && ((Nat.toDigits 10 n).length == 1 ||
      (Nat.toDigits 10 n).head? != some '0')) = true := by
    rw [isEmpty_toDigits, leads_toDigits]
    rfl
  unfold number?
  split
  next sign unsigned split_sign =>
    obtain ⟨rfl, rfl⟩ := Prod.mk.inj (split_sign.symm.trans signed)
    simp only [takeWhile_toDigits n ends, dropWhile_toDigits n ends, lead, guard, if_true,
      pure_bind, Option.bind_eq_bind, Option.bind_some, ends.fraction?, ends.exponent?,
      digitsValue_toDigits, List.isEmpty_nil, Option.isNone_none, Bool.true_and, fits]
    rfl

theorem number?_natural {n : Nat} (ends : AtEnd rest) (small : n < 2 ^ 64) :
    number? (Nat.toDigits 10 n ++ rest) = some (.integer n, rest) := by
  obtain ⟨c, others, digits⟩ :=
    List.exists_cons_of_ne_nil (Nat.toDigits_ne_nil (n := n) (b := 10))
  have not_minus : c ≠ '-' := by
    rintro rfl
    have digit := isDigit_of_mem_digits (n := n) (digits ▸ List.mem_cons_self)
    exact absurd digit (by decide)
  refine number?_digits false ?_ ends (decide_eq_true small)
  rw [digits]
  simp [not_minus]

theorem number?_negative {n : Nat} (ends : AtEnd rest) (positive : 0 < n) (small : n ≤ 2 ^ 63) :
    number? ('-' :: (Nat.toDigits 10 n ++ rest)) = some (.integer (-Int.ofNat n), rest) :=
  number?_digits true rfl ends (decide_eq_true ⟨positive, small⟩)

theorem toList_toString_natural (n : Nat) :
    (toString (n : Int)).toList = Nat.toDigits 10 n := by
  show (toString n).toList = _
  rw [Nat.toString_eq_ofList_toDigits, String.toList_ofList]

theorem toList_toString_negative (n : Nat) :
    (toString (Int.negSucc n)).toList = '-' :: Nat.toDigits 10 (n + 1) := by
  show ("-" ++ toString (n + 1)).toList = _
  rw [String.toList_append, Nat.toString_eq_ofList_toDigits]
  simp

theorem number?_integer {value : Int} (ends : AtEnd rest) (least : -2 ^ 63 ≤ value)
    (greatest : value < 2 ^ 64) :
    number? ((toString value).toList ++ rest) = some (.integer value, rest) := by
  cases value with
  | ofNat n =>
    rw [Int.ofNat_eq_natCast, toList_toString_natural]
    exact number?_natural ends (by simp only [Int.ofNat_eq_natCast] at greatest; omega)
  | negSucc n =>
    rw [toList_toString_negative, List.cons_append]
    exact number?_negative ends (Nat.succ_pos n) (by omega)

theorem ne_of_isDigit {c other : Char} (digit : c.isDigit = true)
    (no_digit : other.isDigit = false) : c ≠ other := by
  rintro rfl
  rw [digit] at no_digit
  cases no_digit

theorem isBlank_of_isDigit {c : Char} (digit : c.isDigit = true) : isBlank c = false := by
  have apart : ∀ other : Char, other.isDigit = false → c ≠ other :=
    fun _ => ne_of_isDigit digit
  simp [isBlank, apart ' ' (by decide), apart '\n' (by decide), apart '\t' (by decide),
    apart '\r' (by decide)]

/-- An integer starts with a digit or a minus sign. -/
theorem exists_toString_cons (value : Int) :
    ∃ c others, (toString value).toList = c :: others ∧ (c.isDigit = true ∨ c = '-') := by
  cases value with
  | ofNat n =>
    obtain ⟨c, others, digits⟩ :=
      List.exists_cons_of_ne_nil (Nat.toDigits_ne_nil (n := n) (b := 10))
    refine ⟨c, others, ?_, Or.inl (isDigit_of_mem_digits (n := n) (digits ▸ List.mem_cons_self))⟩
    rw [Int.ofNat_eq_natCast, toList_toString_natural, digits]
  | negSucc n => exact ⟨'-', _, toList_toString_negative n, Or.inr rfl⟩

/-! ## Values -/

/-- How a written value starts: with no blank, and with nothing that closes a list or a map. -/
def Starts (text : List Char) : Prop :=
  ∃ c others, text = c :: others ∧ isBlank c = false ∧ c ≠ ']' ∧ c ≠ '\x7d'

theorem Starts.append {text : List Char} (starts : Starts text) (rest : List Char) :
    Starts (text ++ rest) := by
  obtain ⟨c, others, rfl, proper⟩ := starts
  exact ⟨c, others ++ rest, rfl, proper⟩

theorem Starts.skipBlanks {text : List Char} (starts : Starts text) : skipBlanks text = text := by
  obtain ⟨c, others, rfl, no_blank, -⟩ := starts
  rw [Json.skipBlanks, List.dropWhile_cons, if_neg (by simp [no_blank])]

theorem starts_toString (value : Int) : Starts (toString value).toList := by
  obtain ⟨c, others, spelled, digit | rfl⟩ := exists_toString_cons value
  · exact ⟨c, others, spelled, isBlank_of_isDigit digit, ne_of_isDigit digit (by decide),
      ne_of_isDigit digit (by decide)⟩
  · exact ⟨'-', others, spelled, by decide, by decide, by decide⟩

theorem starts_compact {datum : Datum} (exact_datum : datum.Exact) : Starts (compact datum) := by
  cases exact_datum with
  | null => exact ⟨'n', _, rfl, by decide, by decide, by decide⟩
  | boolean value =>
    cases value with
    | false => exact ⟨'f', _, rfl, by decide, by decide, by decide⟩
    | true => exact ⟨'t', _, rfl, by decide, by decide, by decide⟩
  | integer value _ _ => exact starts_toString value
  | text value => exact ⟨'"', _, rfl, by decide, by decide, by decide⟩
  | list items _ => exact ⟨'[', _, rfl, by decide, by decide, by decide⟩
  | map entries _ => exact ⟨'\x7b', _, rfl, by decide, by decide, by decide⟩

theorem word?_append (word : List Char) (value : Datum) (rest : List Char) :
    word? word value (word ++ rest) = some (value, rest) := by
  simp [word?]

theorem value?_null (rest : List Char) :
    value? (fuel + 1) ("null".toList ++ rest) =
      word? "null".toList .null ("null".toList ++ rest) :=
  rfl

theorem value?_boolean (value : Bool) (rest : List Char) :
    value? (fuel + 1) ((toString value).toList ++ rest) =
      word? (toString value).toList (.boolean value) ((toString value).toList ++ rest) := by
  cases value <;> rfl

theorem value?_quote (text : List Char) :
    value? (fuel + 1) ('"' :: text) =
      (stringBody text).map fun found => (.text (String.ofList found.1), found.2) :=
  rfl

theorem value?_number {c : Char} {text : List Char} (leads : c.isDigit = true ∨ c = '-') :
    value? (fuel + 1) (c :: text) = number? (c :: text) := by
  have other : isBlank c = false ∧ c ≠ '"' ∧ c ≠ '[' ∧ c ≠ '\x7b' ∧ c ≠ 't' ∧ c ≠ 'f' ∧
      c ≠ 'n' := by
    rcases leads with digit | rfl
    · refine ⟨isBlank_of_isDigit digit, ?_, ?_, ?_, ?_, ?_, ?_⟩ <;>
        exact ne_of_isDigit digit (by decide)
    · decide
  obtain ⟨no_blank, no_quote, no_bracket, no_brace, no_t, no_f, no_n⟩ := other
  have skipped : skipBlanks (c :: text) = c :: text := by
    rw [skipBlanks, List.dropWhile_cons, if_neg (by simp [no_blank])]
  rw [value?, skipped]
  simp [no_quote, no_bracket, no_brace, no_t, no_f, no_n]

/-- A list that is not empty is read item by item, and a map entry by entry. -/
theorem value?_opened {text : List Char} (starts : Starts text) :
    value? (fuel + 1) ('[' :: text) =
      ((items? fuel text).map fun found => (.list found.1, found.2)) ∧
    value? (fuel + 1) ('\x7b' :: text) =
      (entries? fuel text).map fun found => (.map found.1, found.2) := by
  have skipped := starts.skipBlanks
  obtain ⟨c, others, rfl, -, not_bracket, not_brace⟩ := starts
  have bracket : skipBlanks ('[' :: c :: others) = '[' :: c :: others := rfl
  have brace : skipBlanks ('\x7b' :: c :: others) = '\x7b' :: c :: others := rfl
  rw [value?, value?, bracket, brace]
  simp only [skipped]
  constructor
  · simp [not_bracket]
  · simp [not_brace]

/-- Whether a datum is read back from its compact text, whatever may follow, by one step for each
character at most. -/
def ReadBack (datum : Datum) : Prop :=
  ∀ fuel rest, AtEnd rest → (compact datum).length ≤ fuel →
    value? fuel (compact datum ++ rest) = some (datum, rest)

theorem items?_compactItems {items : List Datum} (nonempty : items ≠ [])
    (read : ∀ item ∈ items, ReadBack item) {fuel : Nat} {rest : List Char}
    (enough : (compactItems items).length ≤ fuel) :
    items? fuel (compactItems items ++ rest) = some (items, rest) := by
  induction items generalizing fuel with
  | nil => exact absurd rfl nonempty
  | cons item items ih =>
    have item_read := read item List.mem_cons_self
    cases items with
    | nil =>
      rw [compactItems, List.length_append, List.length_singleton] at enough
      obtain ⟨fuel, rfl⟩ : ∃ left, fuel = left + 1 := ⟨fuel - 1, by omega⟩
      rw [compactItems, List.append_assoc, List.singleton_append, items?,
        item_read fuel _ (atEnd_bracket rest) (by omega)]
      rfl
    | cons next others =>
      rw [compactItems, List.length_append, List.length_cons] at enough
      obtain ⟨fuel, rfl⟩ : ∃ left, fuel = left + 1 := ⟨fuel - 1, by omega⟩
      have others_read : items? fuel (compactItems (next :: others) ++ rest) =
          some (next :: others, rest) := by
        apply ih (by simp)
        · exact fun other member => read other (List.mem_cons_of_mem _ member)
        · omega
      rw [compactItems, List.append_assoc, items?,
        List.cons_append, item_read fuel _ (atEnd_comma _) (by omega)]
      show (items? fuel (compactItems (next :: others) ++ rest)).map _ = _
      rw [others_read]
      rfl

theorem entries?_last (key : String) {value : Datum} {text rest : List Char}
    (read : value? fuel text = some (value, '\x7d' :: rest)) :
    entries? (fuel + 1) (quote key ++ ':' :: text) = some ([(key, value)], rest) := by
  have opened : ∀ text, skipBlanks ('"' :: text) = '"' :: text := fun _ => rfl
  have colon : skipBlanks (':' :: text) = ':' :: text := rfl
  have close : skipBlanks ('\x7d' :: rest) = '\x7d' :: rest := rfl
  rw [quote_append, entries?, opened]
  simp only [stringBody_quoted, colon, read, close, String.ofList_toList]

theorem entries?_more (key : String) {value : Datum} {text rest : List Char}
    (read : value? fuel text = some (value, ',' :: rest)) :
    entries? (fuel + 1) (quote key ++ ':' :: text) =
      (entries? fuel rest).map fun found => ((key, value) :: found.1, found.2) := by
  have opened : ∀ text, skipBlanks ('"' :: text) = '"' :: text := fun _ => rfl
  have colon : skipBlanks (':' :: text) = ':' :: text := rfl
  have comma : skipBlanks (',' :: rest) = ',' :: rest := rfl
  rw [quote_append, entries?, opened]
  simp only [stringBody_quoted, colon, read, comma, String.ofList_toList]

theorem entries?_compactEntries {entries : List (String × Datum)} (nonempty : entries ≠ [])
    (read : ∀ entry ∈ entries, ReadBack entry.2) {fuel : Nat} {rest : List Char}
    (enough : (compactEntries entries).length ≤ fuel) :
    entries? fuel (compactEntries entries ++ rest) = some (entries, rest) := by
  induction entries generalizing fuel with
  | nil => exact absurd rfl nonempty
  | cons entry entries ih =>
    obtain ⟨key, value⟩ := entry
    have value_read := read (key, value) List.mem_cons_self
    cases entries with
    | nil =>
      rw [compactEntries, List.length_append, List.length_cons, List.length_append,
        List.length_singleton] at enough
      obtain ⟨fuel, rfl⟩ : ∃ left, fuel = left + 1 := ⟨fuel - 1, by omega⟩
      have last_read := value_read fuel ('\x7d' :: rest) (atEnd_brace rest) (by simp only; omega)
      rw [compactEntries, List.append_assoc, List.cons_append, List.append_assoc,
        List.singleton_append, entries?_last key last_read]
    | cons next others =>
      rw [compactEntries, List.length_append, List.length_cons, List.length_append,
        List.length_cons] at enough
      obtain ⟨fuel, rfl⟩ : ∃ left, fuel = left + 1 := ⟨fuel - 1, by omega⟩
      have others_read : entries? fuel (compactEntries (next :: others) ++ rest) =
          some (next :: others, rest) := by
        apply ih (by simp)
        · exact fun other member => read other (List.mem_cons_of_mem _ member)
        · omega
      have next_read := value_read fuel (',' :: (compactEntries (next :: others) ++ rest))
        (atEnd_comma _) (by simp only; omega)
      rw [compactEntries, List.append_assoc, List.cons_append, List.append_assoc,
        List.cons_append, entries?_more key next_read, others_read]
      rfl

theorem starts_compactItems {items : List Datum} (nonempty : items ≠ [])
    (every : ∀ item ∈ items, item.Exact) : Starts (compactItems items) := by
  cases items with
  | nil => exact absurd rfl nonempty
  | cons item items =>
    have starts := starts_compact (every item List.mem_cons_self)
    cases items with
    | nil => exact starts.append _
    | cons next others => exact starts.append _

theorem starts_compactEntries {entries : List (String × Datum)} (nonempty : entries ≠ []) :
    Starts (compactEntries entries) := by
  have starts : ∀ key, Starts (quote key) :=
    fun key => ⟨'"', _, rfl, by decide, by decide, by decide⟩
  cases entries with
  | nil => exact absurd rfl nonempty
  | cons entry entries =>
    cases entries with
    | nil => exact (starts entry.1).append _
    | cons next others => exact (starts entry.1).append _

theorem exists_fuel {datum : Datum} (exact_datum : datum.Exact)
    (enough : (compact datum).length ≤ fuel) : ∃ left, fuel = left + 1 := by
  obtain ⟨c, others, text, -⟩ := starts_compact exact_datum
  rw [text, List.length_cons] at enough
  exact ⟨fuel - 1, by omega⟩

/-- What a value is written as is read back to it, up to what follows. -/
theorem readBack_of_exact {datum : Datum} (exact_datum : datum.Exact) : ReadBack datum := by
  induction exact_datum with
  | null =>
    intro fuel rest ends enough
    obtain ⟨fuel, rfl⟩ := exists_fuel .null enough
    exact (value?_null rest).trans (word?_append _ _ rest)
  | boolean value =>
    intro fuel rest ends enough
    obtain ⟨fuel, rfl⟩ := exists_fuel (.boolean value) enough
    exact (value?_boolean value rest).trans (word?_append _ _ rest)
  | integer value least greatest =>
    intro fuel rest ends enough
    obtain ⟨c, others, spelled, leads⟩ := exists_toString_cons value
    have read := number?_integer ends least greatest
    have text : compact (.integer value) = c :: others := spelled
    obtain ⟨fuel, rfl⟩ := exists_fuel (.integer value least greatest) enough
    rw [spelled] at read
    rw [text, List.cons_append, value?_number leads]
    exact read
  | text value =>
    intro fuel rest ends enough
    have text : compact (.text value) = quote value := rfl
    obtain ⟨fuel, rfl⟩ := exists_fuel (.text value) enough
    rw [text, quote_append, value?_quote, stringBody_quoted, Option.map_some,
      String.ofList_toList]
  | list items every read =>
    intro fuel rest ends enough
    rw [compact, List.length_cons] at enough
    obtain ⟨fuel, rfl⟩ : ∃ left, fuel = left + 1 := ⟨fuel - 1, by omega⟩
    by_cases none : items = []
    · subst none
      rfl
    · rw [compact, List.cons_append,
        (value?_opened ((starts_compactItems none every).append rest)).1,
        items?_compactItems none read (by omega)]
      rfl
  | map entries every read =>
    intro fuel rest ends enough
    rw [compact, List.length_cons] at enough
    obtain ⟨fuel, rfl⟩ : ∃ left, fuel = left + 1 := ⟨fuel - 1, by omega⟩
    by_cases none : entries = []
    · subst none
      rfl
    · rw [compact, List.cons_append,
        (value?_opened ((starts_compactEntries none).append rest)).2,
        entries?_compactEntries none read (by omega)]
      rfl

/-- A value that JSON holds as it is is read back from its compact text. -/
theorem parse?_print {datum : Datum} (exact_datum : datum.Exact) :
    parse? (print datum) = some datum := by
  have enough : (compact datum).length ≤ 2 * (print datum).length + 2 := by
    rw [print, String.length_ofList]
    omega
  have read := readBack_of_exact exact_datum _ [] atEnd_nil enough
  rw [List.append_nil] at read
  rw [parse?, print, String.toList_ofList, ← print, read]
  rfl

/-! ## Lines -/

theorem lineFeed_free_escapeChar (c : Char) : '\n' ∉ escapeChar c := by
  have digit : ∀ n < 16, '\n' ≠ Hexadecimal.digit n := by decide
  rcases escapeChar_cases c with ⟨letter, escape, known⟩ | ⟨code, control⟩ |
    ⟨plain, -, -, no_control⟩
  · have no_letter : letter ≠ '\n' := by
      rintro rfl
      simp [shortEscape?] at known
    simpa [escape] using no_letter.symm
  · rw [code]
    simpa using ⟨digit (c.toNat / 16) (by omega), digit (c.toNat % 16) (by omega)⟩
  · have no_line_feed : c ≠ '\n' := by
      rintro rfl
      exact no_control (by decide)
    simpa [plain] using no_line_feed.symm

theorem lineFeed_free_quote (text : String) : '\n' ∉ quote text := by
  simp [quote, lineFeed_free_escapeChar]

theorem lineFeed_free_toString (value : Int) : '\n' ∉ (toString value).toList := by
  have no_digit : ∀ n, '\n' ∉ Nat.toDigits 10 n :=
    fun n member => absurd (isDigit_of_mem_digits member) (by decide)
  cases value with
  | ofNat n =>
    rw [Int.ofNat_eq_natCast, toList_toString_natural]
    exact no_digit n
  | negSucc n =>
    rw [toList_toString_negative]
    simpa using no_digit (n + 1)

theorem lineFeed_free_compactItems {items : List Datum}
    (every : ∀ item ∈ items, '\n' ∉ compact item) : '\n' ∉ compactItems items := by
  induction items with
  | nil => decide
  | cons item items ih =>
    have free := every item List.mem_cons_self
    have others_free := ih fun other member => every other (List.mem_cons_of_mem _ member)
    cases items with
    | nil => simpa [compactItems] using free
    | cons next others => simpa [compactItems] using ⟨free, others_free⟩

theorem lineFeed_free_compactEntries {entries : List (String × Datum)}
    (every : ∀ entry ∈ entries, '\n' ∉ compact entry.2) : '\n' ∉ compactEntries entries := by
  induction entries with
  | nil => decide
  | cons entry entries ih =>
    have free := every entry List.mem_cons_self
    have others_free := ih fun other member => every other (List.mem_cons_of_mem _ member)
    have key_free := lineFeed_free_quote entry.1
    cases entries with
    | nil => simpa [compactEntries] using ⟨key_free, free⟩
    | cons next others => simpa [compactEntries] using ⟨key_free, free, others_free⟩

/-- No line feed is in a compact text, whatever the strings of the value hold. -/
theorem lineFeed_free_compact {datum : Datum} (exact_datum : datum.Exact) :
    '\n' ∉ compact datum := by
  induction exact_datum with
  | null => decide
  | boolean value => cases value <;> decide
  | integer value _ _ => exact lineFeed_free_toString value
  | text value => exact lineFeed_free_quote value
  | list items _ free =>
    rw [compact]
    simpa using lineFeed_free_compactItems free
  | map entries _ free =>
    rw [compact]
    simpa using lineFeed_free_compactEntries free

end Json
end TreeBundle
