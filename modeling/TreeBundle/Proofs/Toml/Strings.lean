import Mathlib.Data.Option.Basic
import TreeBundle.Toml.Printer
import TreeBundle.Toml.Strings

/-!
# Written strings are read back

Each form of a string is read back as the text that was written in it, as long as no quote follows.
The basic forms escape what they cannot hold, so they do for any text; a literal form is only
chosen for a text that it can hold.
-/
namespace TreeBundle.Toml
set_option autoImplicit false

/-! ## Escapes -/

/-- After a backslash, some characters are read as the one that they stand for. -/
def Escapes (escape : List Char) (c : Char) : Prop :=
  ∀ rest, escape? (escape ++ rest) = some (c, escape.length) ∧ foldedSize? (escape ++ rest) = none

theorem foldedSize?_cons {c : Char} (rest : List Char) (not_blank : isBlank c = false)
    (no_line_end : ∀ rest, lineEndSize (c :: rest) = 0) : foldedSize? (c :: rest) = none := by
  unfold foldedSize?
  simp [not_blank, no_line_end]

theorem escapes_single {letter c : Char}
    (read : ∀ rest, escape? (letter :: rest) = some (c, 1)) (not_blank : isBlank letter = false)
    (no_line_end : ∀ rest, lineEndSize (letter :: rest) = 0) : Escapes [letter] c := by
  intro rest
  exact ⟨read rest, foldedSize?_cons rest not_blank no_line_end⟩

/-- A control character is read back from its number. -/
theorem codeEscape?_upperDigits {n : Nat} (small : n < 128) (rest : List Char) :
    codeEscape? 4 ('0' :: '0' :: Hexadecimal.upperDigit (n / 16) ::
      Hexadecimal.upperDigit (n % 16) :: rest) = some (Char.ofNat n, 5) := by
  have high := Hexadecimal.value?_upperDigit (n / 16) (by omega)
  have low := Hexadecimal.value?_upperDigit (n % 16) (by omega)
  have zero : Hexadecimal.value? '0' = some 0 := by decide
  have sum : n / 16 * 16 + n % 16 = n := by omega
  have valid : n.isValidChar := Or.inl (by omega)
  have value : Hexadecimal.number? ['0', '0', Hexadecimal.upperDigit (n / 16),
      Hexadecimal.upperDigit (n % 16)] = some n := by
    simp [Hexadecimal.number?, high, low, zero, sum]
  unfold codeEscape?
  simp [guard, value, charOf?, valid]

theorem escapes_control {c : Char} (control : isControl c = true) :
    Escapes ("u00".toList ++
      [Hexadecimal.upperDigit (c.toNat / 16), Hexadecimal.upperDigit (c.toNat % 16)]) c := by
  intro rest
  have small : c.toNat < 128 := by
    unfold isControl at control
    simp only [Bool.or_eq_true, Bool.and_eq_true, decide_eq_true_eq, beq_iff_eq] at control
    rcases control with ⟨⟨small, -⟩, -⟩ | rfl
    · omega
    · decide
  refine ⟨?_, foldedSize?_cons _ rfl fun _ => rfl⟩
  have read := codeEscape?_upperDigits small rest
  rw [Char.ofNat_toNat] at read
  exact read

/-- A character that is no control character stands for itself, in a one-line string too unless it
ends the line. -/
theorem held_of_not_control {c : Char} (clean : isControl c = false) :
    c = '\n' ∨ isPlain c = true := by
  unfold isControl at clean
  unfold isPlain
  simp only [Bool.or_eq_false_iff, Bool.and_eq_false_iff, decide_eq_false_iff_not,
    bne_eq_false_iff_eq, beq_eq_false_iff_ne, Bool.or_eq_true, Bool.and_eq_true,
    decide_eq_true_eq, beq_iff_eq, bne_iff_ne] at clean ⊢
  obtain ⟨(large | tab) | line_feed, no_delete⟩ := clean
  · exact Or.inr (Or.inr ⟨by omega, no_delete⟩)
  · exact Or.inr (Or.inl tab)
  · exact Or.inl line_feed

/-- How a character is written: as an escape that stands for it, or as itself. -/
theorem escapeChar_cases (c : Char) (no_line_feed : c ≠ '\n') :
    (∃ escape, escapeChar c = '\\' :: escape ∧ Escapes escape c) ∨
      (escapeChar c = [c] ∧ c ≠ '\\' ∧ isPlain c = true) := by
  unfold escapeChar
  by_cases backslash : c = '\\'
  · subst backslash
    exact Or.inl ⟨['\\'], rfl, escapes_single (fun _ => rfl) rfl fun _ => rfl⟩
  by_cases backspace : c = '\x08'
  · subst backspace
    exact Or.inl ⟨['b'], rfl, escapes_single (fun _ => rfl) rfl fun _ => rfl⟩
  by_cases tab : c = '\t'
  · subst tab
    exact Or.inl ⟨['t'], rfl, escapes_single (fun _ => rfl) rfl fun _ => rfl⟩
  by_cases form_feed : c = '\x0c'
  · subst form_feed
    exact Or.inl ⟨['f'], rfl, escapes_single (fun _ => rfl) rfl fun _ => rfl⟩
  by_cases carriage_return : c = '\r'
  · subst carriage_return
    exact Or.inl ⟨['r'], rfl, escapes_single (fun _ => rfl) rfl fun _ => rfl⟩
  rw [if_neg backslash, if_neg backspace, if_neg tab, if_neg form_feed, if_neg carriage_return]
  by_cases control : isControl c = true
  · rw [if_pos control]
    exact Or.inl ⟨_, rfl, escapes_control control⟩
  · rw [if_neg control]
    have held := held_of_not_control (Bool.eq_false_iff.mpr control)
    exact Or.inr ⟨rfl, backslash, held.resolve_left no_line_feed⟩

/-- A character of a basic string, as it is written. -/
def basicChar (c : Char) : List Char :=
  if c = '"' then ['\\', '"'] else if c = '\n' then ['\\', 'n'] else escapeChar c

theorem basicChar_cases (c : Char) :
    (∃ escape, basicChar c = '\\' :: escape ∧ Escapes escape c) ∨
      (basicChar c = [c] ∧ c ≠ '"' ∧ c ≠ '\\' ∧ isPlain c = true) := by
  unfold basicChar
  by_cases quote : c = '"'
  · subst quote
    exact Or.inl ⟨['"'], rfl, escapes_single (fun _ => rfl) rfl fun _ => rfl⟩
  by_cases line_feed : c = '\n'
  · subst line_feed
    exact Or.inl ⟨['n'], rfl, escapes_single (fun _ => rfl) rfl fun _ => rfl⟩
  rw [if_neg quote, if_neg line_feed]
  rcases escapeChar_cases c line_feed with escaped | ⟨same, not_backslash, plain⟩
  · exact Or.inl escaped
  · exact Or.inr ⟨same, quote, not_backslash, plain⟩

/-! ## One-line strings -/

theorem basicBody_escapeBasic (text rest : List Char) :
    basicBody (escapeBasic text ++ '"' :: rest) = some (text, rest) := by
  induction text with
  | nil =>
    rw [show escapeBasic [] = [] from rfl, List.nil_append, basicBody, if_pos rfl]
  | cons c text ih =>
    have split : escapeBasic (c :: text) = basicChar c ++ escapeBasic text := rfl
    rw [split, List.append_assoc]
    rcases basicChar_cases c with ⟨escape, written, escapes⟩ |
      ⟨written, no_quote, no_backslash, plain⟩
    · have read := (escapes (escapeBasic text ++ '"' :: rest)).1
      rw [written, List.cons_append, basicBody, if_neg (by decide), if_pos rfl, read]
      simp only [List.drop_left, ih]
      rfl
    · rw [written, List.singleton_append, basicBody, if_neg no_quote, if_neg no_backslash,
        if_pos plain, ih]
      rfl

theorem literalBody_append {text : List Char} (rest : List Char)
    (plain : ∀ c ∈ text, c ≠ '\'' ∧ isPlain c = true) :
    literalBody (text ++ '\'' :: rest) = some (text, rest) := by
  induction text with
  | nil => rw [List.nil_append, literalBody, if_pos rfl]
  | cons c text ih =>
    obtain ⟨no_quote, c_plain⟩ := plain c List.mem_cons_self
    have read := ih fun other member => plain other (List.mem_cons_of_mem _ member)
    rw [List.cons_append, literalBody, if_neg no_quote, if_pos c_plain, read]
    rfl

/-! ## Long strings -/

/-- Something other than a certain quote follows, or nothing. -/
def NoQuoteAhead (quote : Char) (rest : List Char) : Prop :=
  rest.head? ≠ some quote

theorem longEnd?_of_ne {quote : Char} (front rest : List Char)
    (few : front.length ≤ 2) (c : Char) (different : c ≠ quote) :
    longEnd? quote (front ++ c :: rest) = none := by
  unfold longEnd?
  match front, few with
  | [], _ => cases rest with
    | nil => rfl
    | cons d rest => cases rest <;> simp [different]
  | [a], _ => cases rest <;> simp [different]
  | [a, b], _ => simp [different]

/-- At most two quotes before the closing ones belong to the text. -/
theorem longEnd?_of_closing {quote : Char} (front : List Char) {rest : List Char}
    (few : front.length ≤ 2)
    (quotes : ∀ c ∈ front, c = quote) (ahead : NoQuoteAhead quote rest) :
    longEnd? quote (front ++ quote :: quote :: quote :: rest) = some (front, rest) := by
  have no_first : ∀ d after, rest = d :: after → d ≠ quote := by
    rintro d after rfl same
    exact ahead (congrArg some same)
  unfold longEnd?
  match front, few, quotes with
  | [], _, _ =>
    cases rest with
    | nil => simp
    | cons d after =>
      have different := no_first d after rfl
      cases after <;> simp [different]
  | [a], _, quotes =>
    obtain rfl : a = quote := quotes a List.mem_cons_self
    cases rest with
    | nil => simp
    | cons d after =>
      have different := no_first d after rfl
      simp [different]
  | [a, b], _, quotes =>
    obtain rfl : a = quote := quotes a List.mem_cons_self
    obtain rfl : b = a := quotes b (List.mem_cons_of_mem _ List.mem_cons_self)
    simp

theorem lineEndSize_of_plain {c : Char} (rest : List Char) (plain : isPlain c = true) :
    lineEndSize (c :: rest) = 0 := by
  unfold lineEndSize
  split
  · next same =>
    cases same
    cases plain
  · next same =>
    cases same
    cases plain
  · rfl

/-- Outside of the end of a long string, a character that may stand for itself does. -/
theorem longBasicBody_cons {c : Char} {rest : List Char} (goes_on : longEnd? '"' (c :: rest) = none)
    (no_backslash : c ≠ '\\') (held : c = '\n' ∨ isPlain c = true) :
    longBasicBody (c :: rest) = prepend c (longBasicBody rest) := by
  have no_pair : lineEndSize (c :: rest) ≠ 2 := by
    rcases held with rfl | plain
    · simp [lineEndSize]
    · rw [lineEndSize_of_plain rest plain]
      decide
  rw [longBasicBody, goes_on]
  simp only [no_backslash, no_pair, held, if_true, if_false]

theorem longLiteralBody_cons {c : Char} {rest : List Char}
    (goes_on : longEnd? '\'' (c :: rest) = none) (held : c = '\n' ∨ isPlain c = true) :
    longLiteralBody (c :: rest) = prepend c (longLiteralBody rest) := by
  have no_pair : lineEndSize (c :: rest) ≠ 2 := by
    rcases held with rfl | plain
    · simp [lineEndSize]
    · rw [lineEndSize_of_plain rest plain]
      decide
  rw [longLiteralBody, goes_on]
  simp only [no_pair, held, if_true, if_false]

theorem longBasicBody_escape {escape : List Char} {c : Char} (rest : List Char)
    (escapes : Escapes escape c) :
    longBasicBody ('\\' :: (escape ++ rest)) = prepend c (longBasicBody rest) := by
  have goes_on : longEnd? '"' ('\\' :: (escape ++ rest)) = none :=
    longEnd?_of_ne [] (escape ++ rest) (by simp) '\\' (by decide)
  obtain ⟨read, not_folded⟩ := escapes rest
  rw [longBasicBody, goes_on]
  simp only [if_true, not_folded, read, List.drop_left]

/-- What is left of a written text behind up to two quotes: nothing but quotes, so few that they can
close with the string, or something else after few of them. -/
theorem escapeLongBasic_quotes (quotes : Nat) (text : List Char) (few : quotes ≤ 2) :
    (∃ front, escapeLongBasic quotes text = front ∧ text = front ∧ quotes + front.length ≤ 2 ∧
      ∀ c ∈ front, c = '"') ∨
    (∃ front c more, escapeLongBasic quotes text = front ++ c :: more ∧
      quotes + front.length ≤ 2 ∧ c ≠ '"') := by
  induction text generalizing quotes with
  | nil => exact Or.inl ⟨[], rfl, rfl, few, by simp⟩
  | cons c text ih =>
    unfold escapeLongBasic
    by_cases quote : c = '"'
    · subst quote
      rw [if_pos rfl]
      by_cases full : quotes = 2
      · rw [if_pos full]
        exact Or.inr ⟨[], '\\', _, rfl, by simpa using few, by decide⟩
      · rw [if_neg full]
        rcases ih (quotes + 1) (by omega) with
          ⟨front, written, same, length, only⟩ | ⟨front, d, more, written, length, different⟩
        · refine Or.inl ⟨'"' :: front, by rw [written], by rw [same], ?_, by simpa using only⟩
          rw [List.length_cons]
          omega
        · refine Or.inr ⟨'"' :: front, d, more, by rw [written, List.cons_append], ?_, different⟩
          rw [List.length_cons]
          omega
    · rw [if_neg quote]
      by_cases line_feed : c = '\n'
      · rw [if_pos line_feed]
        exact Or.inr ⟨[], '\n', _, rfl, by simpa using few, by decide⟩
      · rw [if_neg line_feed]
        rcases escapeChar_cases c line_feed with ⟨escape, written, -⟩ | ⟨written, -, -⟩
        · rw [written]
          exact Or.inr ⟨[], '\\', _, rfl, by simpa using few, by decide⟩
        · rw [written]
          exact Or.inr ⟨[], c, _, rfl, by simpa using few, quote⟩

/-- A quote that is not escaped belongs to the text, also where the text ends in quotes: those at
the very end are read together with the ones that close the string. -/
theorem longBasicBody_quote {quotes : Nat} {text rest : List Char} (few : quotes + 1 ≤ 2)
    (ahead : NoQuoteAhead '"' rest)
    (read : longBasicBody (escapeLongBasic (quotes + 1) text ++ '"' :: '"' :: '"' :: rest) =
      some (text, rest)) :
    longBasicBody ('"' :: (escapeLongBasic (quotes + 1) text ++ '"' :: '"' :: '"' :: rest)) =
      some ('"' :: text, rest) := by
  rcases escapeLongBasic_quotes (quotes + 1) text few with
    ⟨front, only_quotes, same, length, only⟩ | ⟨front, d, more, mixed, length, different⟩
  · have closes := longEnd?_of_closing ('"' :: front)
      (by rw [List.length_cons]; omega) (by simpa using only) ahead
    rw [List.cons_append] at closes
    rw [only_quotes, longBasicBody, closes, same]
  · have goes_on : longEnd? '"' ('"' :: (escapeLongBasic (quotes + 1) text ++
        '"' :: '"' :: '"' :: rest)) = none := by
      have later := longEnd?_of_ne ('"' :: front)
        (more ++ '"' :: '"' :: '"' :: rest) (by rw [List.length_cons]; omega) d different
      rw [mixed, List.append_assoc]
      exact later
    rw [longBasicBody_cons goes_on (by decide) (Or.inr rfl), read]
    rfl

theorem longBasicBody_escapeLongBasic (quotes : Nat) (text rest : List Char) (few : quotes ≤ 2)
    (ahead : NoQuoteAhead '"' rest) :
    longBasicBody (escapeLongBasic quotes text ++ '"' :: '"' :: '"' :: rest) =
      some (text, rest) := by
  induction text generalizing quotes with
  | nil =>
    have closes := longEnd?_of_closing [] (by simp) (by simp) ahead
    rw [List.nil_append] at closes
    rw [show escapeLongBasic quotes [] = [] from rfl, List.nil_append, longBasicBody, closes]
  | cons c text ih =>
    by_cases quote : c = '"'
    · subst quote
      by_cases full : quotes = 2
      · have written : escapeLongBasic quotes ('"' :: text) =
            '\\' :: '"' :: escapeLongBasic 0 text := by
          rw [escapeLongBasic, if_pos rfl, if_pos full]
        have escapes : Escapes ['"'] '"' := escapes_single (fun _ => rfl) rfl fun _ => rfl
        have read := ih 0 (by omega)
        have unescaped := longBasicBody_escape (escapeLongBasic 0 text ++
          '"' :: '"' :: '"' :: rest) escapes
        rw [written, List.cons_append, List.cons_append]
        rw [List.singleton_append, read] at unescaped
        exact unescaped
      · have written : escapeLongBasic quotes ('"' :: text) =
            '"' :: escapeLongBasic (quotes + 1) text := by
          rw [escapeLongBasic, if_pos rfl, if_neg full]
        have read := ih (quotes + 1) (by omega)
        rw [written, List.cons_append, longBasicBody_quote (by omega) ahead read]
    · have read := ih 0 (by omega)
      by_cases line_feed : c = '\n'
      · subst line_feed
        have written : escapeLongBasic quotes ('\n' :: text) = '\n' :: escapeLongBasic 0 text := by
          rw [escapeLongBasic, if_neg (by decide), if_pos rfl]
        have goes_on := longEnd?_of_ne [] (escapeLongBasic 0 text ++
          '"' :: '"' :: '"' :: rest) (by simp) '\n' (show '\n' ≠ '"' by decide)
        rw [written, List.cons_append, longBasicBody_cons goes_on (by decide) (Or.inl rfl), read]
        rfl
      · have written : escapeLongBasic quotes (c :: text) =
            escapeChar c ++ escapeLongBasic 0 text := by
          rw [escapeLongBasic, if_neg quote, if_neg line_feed]
        rw [written, List.append_assoc]
        rcases escapeChar_cases c line_feed with ⟨escape, spelled, escapes⟩ |
          ⟨spelled, no_backslash, plain⟩
        · rw [spelled, List.cons_append, longBasicBody_escape _ escapes, read]
          rfl
        · have goes_on := longEnd?_of_ne [] (escapeLongBasic 0 text ++
            '"' :: '"' :: '"' :: rest) (by simp) c quote
          rw [spelled, List.singleton_append,
            longBasicBody_cons goes_on no_backslash (Or.inr plain), read]
          rfl

/-- The quotes that a text starts with are no more than its longest run of them. -/
theorem longestRun_front (quote : Char) (current : Nat) (text : List Char) :
    ∃ front more, text = front ++ more ∧ (∀ c ∈ front, c = quote) ∧ NoQuoteAhead quote more ∧
      current + front.length ≤ longestRun quote current text := by
  induction text generalizing current with
  | nil => exact ⟨[], [], rfl, by simp, by simp [NoQuoteAhead], Nat.le_refl _⟩
  | cons c text ih =>
    unfold longestRun
    by_cases same : c = quote
    · obtain ⟨front, more, rfl, quotes, ahead, length⟩ := ih (current + 1)
      rw [if_pos same]
      refine ⟨c :: front, more, rfl, by simpa [same] using quotes, ahead, ?_⟩
      rw [List.length_cons]
      omega
    · rw [if_neg same]
      exact ⟨[], c :: text, rfl, by simp, by simpa [NoQuoteAhead] using same, Nat.le_max_left _ _⟩

theorem longestRun_of_cons {quote c : Char} {current : Nat} {text : List Char}
    (few : longestRun quote current (c :: text) ≤ 2) : ∃ next, longestRun quote next text ≤ 2 := by
  unfold longestRun at few
  by_cases same : c = quote
  · rw [if_pos same] at few
    exact ⟨current + 1, few⟩
  · rw [if_neg same] at few
    exact ⟨0, Nat.le_trans (Nat.le_max_right _ _) few⟩

theorem longLiteralBody_append (current : Nat) (text rest : List Char)
    (few : longestRun '\'' current text ≤ 2) (held : ∀ c ∈ text, c = '\n' ∨ isPlain c = true)
    (ahead : NoQuoteAhead '\'' rest) :
    longLiteralBody (text ++ '\'' :: '\'' :: '\'' :: rest) = some (text, rest) := by
  induction text generalizing current with
  | nil =>
    have closes := longEnd?_of_closing [] (by simp) (by simp) ahead
    rw [List.nil_append] at closes
    rw [List.nil_append, longLiteralBody, closes]
  | cons c text ih =>
    obtain ⟨next, fewer⟩ := longestRun_of_cons few
    have read := ih next fewer fun other member => held other (List.mem_cons_of_mem _ member)
    obtain ⟨front, more, split, quotes, no_more, length⟩ := longestRun_front '\'' current (c :: text)
    cases more with
    | nil =>
      have closes := longEnd?_of_closing front (by omega) quotes ahead
      rw [List.append_nil] at split
      rw [← split, List.cons_append] at closes
      rw [List.cons_append, longLiteralBody, closes]
    | cons d more =>
      have different : d ≠ '\'' := fun same => no_more (congrArg some same)
      have goes_on := longEnd?_of_ne front (more ++ '\'' :: '\'' :: '\'' :: rest) (by omega) d
        different
      rw [← List.cons_append, ← List.append_assoc, ← split, List.cons_append] at goes_on
      rw [List.cons_append, longLiteralBody_cons goes_on (held c List.mem_cons_self), read]
      rfl

/-! ## The opening of a long string -/

theorem dropLineEnd_opening {text body : List Char}
    (no_line_end : text.contains '\n' = false → lineEndSize body = 0) :
    dropLineEnd (openingLineFeed text ++ body) = body := by
  unfold openingLineFeed dropLineEnd
  cases line_feed : text.contains '\n' with
  | true => rfl
  | false => simp [no_line_end line_feed]

theorem lineEndSize_escapeLongBasic {text : List Char} (rest : List Char)
    (no_line_feed : text.contains '\n' = false) :
    lineEndSize (escapeLongBasic 0 text ++ '"' :: rest) = 0 := by
  cases text with
  | nil => rfl
  | cons c text =>
    unfold escapeLongBasic
    by_cases quote : c = '"'
    · rw [if_pos quote, if_neg (by decide)]
      rfl
    · have other : c ≠ '\n' := by
        rintro rfl
        simp at no_line_feed
      rw [if_neg quote, if_neg other]
      rcases escapeChar_cases c other with ⟨escape, written, -⟩ | ⟨written, -, plain⟩
      · rw [written]
        rfl
      · rw [written]
        exact lineEndSize_of_plain _ plain

theorem lineEndSize_literal {text : List Char} (rest : List Char)
    (no_line_feed : text.contains '\n' = false)
    (held : ∀ c ∈ text, c = '\n' ∨ isPlain c = true) :
    lineEndSize (text ++ '\'' :: rest) = 0 := by
  cases text with
  | nil => rfl
  | cons c text =>
    rcases held c List.mem_cons_self with rfl | plain
    · simp at no_line_feed
    · exact lineEndSize_of_plain _ plain

/-! ## All forms -/

theorem held_of_clean {text : List Char} (clean : (!text.any isControl) = true) :
    ∀ c ∈ text, c = '\n' ∨ isPlain c = true := by
  intro c member
  have all_clean : ∀ c ∈ text, isControl c = false := by simpa using clean
  exact held_of_not_control (all_clean c member)

/-- Whether a form can hold a text: the basic ones escape what they have to. -/
def StringForm.Holds (text : List Char) : StringForm → Prop
  | .basic | .longBasic => True
  | .literal => ∀ c ∈ text, c ≠ '\'' ∧ isPlain c = true
  | .longLiteral => longestRun '\'' 0 text ≤ 2 ∧ ∀ c ∈ text, c = '\n' ∨ isPlain c = true

theorem StringForm.choose_holds (text : List Char) : (choose text).Holds text := by
  unfold choose
  dsimp only
  split
  · trivial
  split
  · next literal =>
    simp only [Bool.and_eq_true, Bool.not_eq_true', List.contains_eq_mem,
      decide_eq_false_iff_not] at literal
    obtain ⟨⟨clean, no_quote⟩, no_line_feed⟩ := literal
    intro c member
    have held := held_of_clean (by rw [clean]; rfl) c member
    have one_line : c ≠ '\n' := fun same => no_line_feed (same ▸ member)
    exact ⟨fun same => no_quote (same ▸ member), held.resolve_left one_line⟩
  split
  · trivial
  split
  · next long_literal =>
    simp only [Bool.and_eq_true, decide_eq_true_eq] at long_literal
    exact ⟨long_literal.2, held_of_clean long_literal.1⟩
  split <;> trivial

/-- One quote that two others do not follow opens a short string. -/
theorem string?_short {quote : Char} {text : List Char} (quotes : quote = '"' ∨ quote = '\'')
    (single : ∀ rest, text ≠ quote :: quote :: rest) :
    string? (quote :: text) = shortString? (quote :: text) := by
  unfold string?
  split
  · next rest same =>
    cases same
    exact absurd rfl (single rest)
  · next rest same =>
    cases same
    exact absurd rfl (single rest)
  · rfl

/-- A quote is no beginning of what a basic string holds. -/
theorem escapeBasic_single (text : List Char) {rest : List Char} (ahead : NoQuoteAhead '"' rest)
    (after : List Char) : escapeBasic text ++ '"' :: rest ≠ '"' :: '"' :: after := by
  cases text with
  | nil =>
    intro same
    cases same
    exact ahead rfl
  | cons c text =>
    have split : escapeBasic (c :: text) = basicChar c ++ escapeBasic text := rfl
    intro same
    rw [split, List.append_assoc] at same
    rcases basicChar_cases c with ⟨escape, written, -⟩ | ⟨written, no_quote, -, -⟩
    · rw [written] at same
      cases same
    · rw [written] at same
      exact no_quote (List.cons.inj same).1

/-- However a text is written, it is read back, unless another quote follows. -/
theorem string?_writeString (text : List Char) {rest : List Char}
    (no_basic : NoQuoteAhead '"' rest) (no_literal : NoQuoteAhead '\'' rest) :
    string? (writeString text ++ rest) = some (text, rest) := by
  have holds := StringForm.choose_holds text
  unfold writeString
  cases form : StringForm.choose text with
  | basic =>
    have read := basicBody_escapeBasic text rest
    simp only [List.cons_append, List.append_assoc, List.nil_append]
    rw [string?_short (Or.inl rfl) (escapeBasic_single text no_basic)]
    exact read
  | literal =>
    have plain : ∀ c ∈ text, c ≠ '\'' ∧ isPlain c = true := by rwa [form] at holds
    have read := literalBody_append rest plain
    have single : ∀ after, text ++ '\'' :: rest ≠ '\'' :: '\'' :: after := by
      intro after same
      cases text with
      | nil =>
        cases same
        exact no_literal rfl
      | cons c text => exact (plain c List.mem_cons_self).1 (List.cons.inj same).1
    simp only [List.cons_append, List.append_assoc, List.nil_append]
    rw [string?_short (Or.inr rfl) single]
    exact read
  | longBasic =>
    have opened := dropLineEnd_opening fun no_line_feed : text.contains '\n' = false =>
      lineEndSize_escapeLongBasic ('"' :: '"' :: rest) no_line_feed
    simp only [List.cons_append, List.append_assoc, List.nil_append, string?]
    rw [opened]
    exact longBasicBody_escapeLongBasic 0 text rest (by decide) no_basic
  | longLiteral =>
    rw [form] at holds
    obtain ⟨few, held⟩ := holds
    have opened := dropLineEnd_opening fun no_line_feed =>
      lineEndSize_literal ('\'' :: '\'' :: rest) no_line_feed held
    simp only [List.cons_append, List.append_assoc, List.nil_append, string?]
    rw [opened]
    exact longLiteralBody_append 0 text rest few held no_literal

end TreeBundle.Toml
