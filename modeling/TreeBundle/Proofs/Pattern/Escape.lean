import TreeBundle.Pattern.Escape

/-!
# Reading without the closing text

A pattern is read with a closing text behind it. A reader that stops within the pattern reads the
same where the closing text is missing; one that reads on into it leaves too little to close the
group around the pattern.
-/
namespace TreeBundle.Pattern
set_option autoImplicit false

/-- What stands behind a pattern. -/
def closing : List Char := [')', '$']

/-- Less than the closing text is left. -/
def Spent (rest : List Char) : Prop :=
  rest <:+ ['$']

/-- A reader that takes from the front, and that reads within a pattern as it does without the
closing text. -/
structure Local {α : Type} (read : List Char → Reading α) : Prop where
  suffix : ∀ {text found rest}, read text = some (found, rest) → rest <:+ text
  unclosed : ∀ {text found rest}, read (text ++ closing) = some (found, rest) →
    Spent rest ∨ ∃ left, rest = left ++ closing ∧ read text = some (found, left)

theorem spent_nil : Spent [] :=
  List.nil_suffix

theorem Spent.of_suffix {text rest : List Char} (spent : Spent text) (suffix : rest <:+ text) :
    Spent rest :=
  suffix.trans spent

/-- A first character other than the closing parenthesis belongs to the pattern. -/
theorem cons_of_append_closing {visible rest : List Char} {c : Char}
    (same : visible ++ closing = c :: rest) (other : c ≠ ')') :
    ∃ left, visible = c :: left ∧ rest = left ++ closing := by
  cases visible with
  | nil => exact absurd (List.cons.inj same).1.symm other
  | cons d left =>
    obtain ⟨rfl, rfl⟩ := List.cons.inj same
    exact ⟨left, rfl, rfl⟩

/-! ## Combinations of readers -/

namespace Local
variable {α β : Type} {read : List Char → Reading α}

theorem none : Local fun _ => (Option.none : Option (α × List Char)) where
  suffix := fun found => by cases found
  unclosed := fun found => by cases found

theorem pure (found : α) : Local fun text => some (found, text) where
  suffix := by
    rintro text _ _ ⟨⟩
    exact List.suffix_refl text
  unclosed := by
    rintro text _ _ ⟨⟩
    exact Or.inr ⟨text, rfl, rfl⟩

theorem bind {more : α → List Char → Reading β} (first : Local read)
    (second : ∀ found, Local (more found)) :
    Local fun text => (read text).bind fun found => more found.1 found.2 where
  suffix := by
    intro text found rest both
    obtain ⟨⟨middle, after⟩, before, last⟩ := Option.bind_eq_some_iff.1 both
    exact ((second middle).suffix last).trans (first.suffix before)
  unclosed := by
    intro text found rest both
    obtain ⟨⟨middle, after⟩, before, last⟩ := Option.bind_eq_some_iff.1 both
    rcases first.unclosed before with spent | ⟨left, rfl, same⟩
    · exact Or.inl (spent.of_suffix ((second middle).suffix last))
    · rcases (second middle).unclosed last with spent | ⟨further, rfl, still⟩
      · exact Or.inl spent
      · exact Or.inr ⟨further, rfl, by rw [same]; exact still⟩

theorem filterMap (first : Local read) (choose : α → Option β) :
    Local fun text => (read text).bind fun found =>
      (choose found.1).map fun chosen => (chosen, found.2) := by
  have chosen : ∀ found, Local fun text => (choose found).map fun chosen => (chosen, text) := by
    intro found
    cases choose found with
    | none => exact Local.none
    | some chosen => exact Local.pure chosen
  exact first.bind chosen

theorem map (first : Local read) (change : α → β) :
    Local fun text => (read text).map fun found => (change found.1, found.2) := by
  have same : (fun text => (read text).map fun found => (change found.1, found.2)) =
      fun text => (read text).bind fun found =>
        (some (change found.1)).map fun chosen => (chosen, found.2) := by
    funext text
    cases read text <;> rfl
  rw [same]
  exact first.filterMap fun found => some (change found)

/-- Readers are put together from one for the first character and one for the rest. -/
theorem of_cons (empty : ∀ {found rest}, read [] = some (found, rest) → rest = [])
    (closed : ∀ {found rest}, read closing = some (found, rest) →
      Spent rest ∨ (rest = closing ∧ read [] = some (found, [])))
    (cons : ∀ c, Local fun text => read (c :: text)) : Local read where
  suffix := by
    intro text found rest result
    cases text with
    | nil =>
      have ended := empty result
      subst ended
      exact List.nil_suffix
    | cons c text => exact ((cons c).suffix result).trans (List.suffix_cons c text)
  unclosed := by
    intro text found rest result
    cases text with
    | nil =>
      rcases closed result with spent | ⟨rfl, same⟩
      · exact Or.inl spent
      · exact Or.inr ⟨[], rfl, same⟩
    | cons c text => exact (cons c).unclosed result

end Local

/-! ## Blanks and comments -/

theorem skipSpace_suffix (text : List Char) : skipSpace text <:+ text := by
  fun_induction skipSpace text with
  | case1 => exact List.nil_suffix
  | case2 c rest blank ih => exact ih.trans (List.suffix_cons c rest)
  | case3 rest blank ih =>
    have line := (List.drop_suffix 1 (rest.dropWhile (· != '\n'))).trans
      (List.dropWhile_suffix (· != '\n'))
    exact (ih.trans line).trans (List.suffix_cons _ rest)
  | case4 c rest => exact List.suffix_refl _

theorem skip_suffix (extended : Bool) (text : List Char) : skip extended text <:+ text := by
  unfold skip
  split
  · exact skipSpace_suffix text
  · exact List.suffix_refl text

theorem skipSpace_closed : skipSpace closing = closing := by
  unfold closing
  rw [skipSpace, if_neg (by decide), if_neg (by decide)]

/-- The closing text is either kept or swallowed by a comment. -/
theorem skipSpace_closing (text : List Char) :
    skipSpace (text ++ closing) = [] ∨ skipSpace (text ++ closing) = skipSpace text ++ closing := by
  fun_induction skipSpace text with
  | case1 => exact Or.inr skipSpace_closed
  | case2 c rest blank ih =>
    rw [List.cons_append, skipSpace, if_pos blank]
    exact ih
  | case3 rest visible ih =>
    rw [List.cons_append, skipSpace, if_neg visible, if_pos rfl, List.dropWhile_append]
    cases line : rest.dropWhile (· != '\n') with
    | nil =>
      -- A comment that no line feed ends goes on to the end of the text.
      exact Or.inl (by simp [closing, skipSpace])
    | cons c further =>
      rw [line] at ih
      exact ih
  | case4 c rest visible no_comment =>
    rw [List.cons_append, skipSpace, if_neg visible, if_neg no_comment]
    exact Or.inr rfl

theorem skip_closing (extended : Bool) (text : List Char) :
    skip extended (text ++ closing) = [] ∨
      skip extended (text ++ closing) = skip extended text ++ closing := by
  unfold skip
  split
  · exact skipSpace_closing text
  · exact Or.inr rfl

/-- A mark that is seen in front of the closing text stands in the text before it. -/
theorem skip_eq_cons_of_closing {extended : Bool} {text rest : List Char} {mark : Char}
    (no_end : mark ≠ ')') (seen : skip extended (text ++ closing) = mark :: rest) :
    ∃ left, skip extended text = mark :: left ∧ rest = left ++ closing := by
  rcases skip_closing extended text with ended | kept
  · rw [ended] at seen
    cases seen
  · rw [kept] at seen
    exact cons_of_append_closing seen no_end

theorem Local.skipped {α : Type} {read : List Char → Reading α} (reads : Local read)
    (extended : Bool) : Local fun text => read (skip extended text) where
  suffix := fun result => (reads.suffix result).trans (skip_suffix extended _)
  unclosed := by
    intro text found rest result
    rcases skip_closing extended text with ended | kept
    · rw [ended] at result
      exact Or.inl (spent_nil.of_suffix (reads.suffix result))
    · rw [kept] at result
      exact reads.unclosed result

/-- A reader that goes two ways by the first character after blanks and comments. -/
theorem Local.branch {α : Type} {read marked other : List Char → Reading α} (mark : Char)
    (extended : Bool) (no_end : mark ≠ ')') (marked_reads : Local marked)
    (other_reads : Local other)
    (on_mark : ∀ text rest, skip extended text = mark :: rest → read text = marked rest)
    (otherwise : ∀ text, (∀ rest, skip extended text ≠ mark :: rest) →
      read text = other (skip extended text)) : Local read where
  suffix := by
    intro text found rest result
    have visible := skip_suffix extended text
    by_cases marks : ∃ rest, skip extended text = mark :: rest
    · obtain ⟨inner, same⟩ := marks
      rw [on_mark text inner same] at result
      rw [same] at visible
      exact ((marked_reads.suffix result).trans (List.suffix_cons mark inner)).trans visible
    · rw [otherwise text fun rest same => marks ⟨rest, same⟩] at result
      exact (other_reads.suffix result).trans visible
  unclosed := by
    intro text found rest result
    by_cases marks : ∃ rest, skip extended (text ++ closing) = mark :: rest
    · obtain ⟨further, seen⟩ := marks
      obtain ⟨inner, same, rfl⟩ := skip_eq_cons_of_closing no_end seen
      rw [on_mark _ _ seen] at result
      rw [on_mark text inner same]
      exact marked_reads.unclosed result
    · rw [otherwise _ fun rest same => marks ⟨rest, same⟩] at result
      rcases skip_closing extended text with ended | kept
      · rw [ended] at result
        exact Or.inl (spent_nil.of_suffix (other_reads.suffix result))
      · have unmarked : ∀ rest, skip extended text ≠ mark :: rest := by
          intro rest same
          rw [same, List.cons_append] at kept
          exact marks ⟨_, kept⟩
        rw [kept] at result
        rw [otherwise text unmarked]
        exact other_reads.unclosed result

/-- A reader that goes two ways by the very first character. -/
theorem Local.onFirst {α : Type} {read marked other : List Char → Reading α} (mark : Char)
    (no_end : mark ≠ ')') (marked_reads : Local marked) (other_reads : Local other)
    (on_mark : ∀ rest, read (mark :: rest) = marked rest)
    (otherwise : ∀ text, (∀ rest, text ≠ mark :: rest) → read text = other text) : Local read := by
  refine Local.branch mark false no_end marked_reads other_reads ?_ otherwise
  intro text rest same
  have starts : text = mark :: rest := same
  rw [starts]
  exact on_mark rest

/-! ## Characters of one kind -/

/-- The characters of one kind at the front, with what may be skipped after each. -/
def takeKind (extended : Bool) (kind : Char → Bool) (text : List Char) :
    List Char × List Char :=
  match text with
  | [] => ([], [])
  | c :: rest =>
    if kind c then
      let found := takeKind extended kind (skip extended rest)
      (c :: found.1, found.2)
    else ([], c :: rest)
termination_by text.length
decreasing_by
  have := length_skip_le extended rest
  simp only [List.length_cons]
  omega

theorem takeKind_suffix (extended : Bool) (kind : Char → Bool) (text : List Char) :
    (takeKind extended kind text).2 <:+ text := by
  fun_induction takeKind extended kind text with
  | case1 => exact List.nil_suffix
  | case2 c rest _ found ih =>
    exact (ih.trans (skip_suffix extended rest)).trans (List.suffix_cons c rest)
  | case3 c rest => exact List.suffix_refl _

theorem takeKind_closing (extended : Bool) (kind : Char → Bool) (text : List Char) :
    Spent (takeKind extended kind (text ++ closing)).2 ∨
      takeKind extended kind (text ++ closing) =
        ((takeKind extended kind text).1, (takeKind extended kind text).2 ++ closing) := by
  fun_induction takeKind extended kind text with
  | case1 =>
    by_cases closes : kind ')' = true
    · have inner := (takeKind_suffix extended kind (skip extended ['$'])).trans
        (skip_suffix extended ['$'])
      rw [List.nil_append, closing, takeKind, if_pos closes]
      exact Or.inl inner
    · rw [List.nil_append, closing, takeKind, if_neg closes]
      exact Or.inr rfl
  | case2 c rest of_kind found ih =>
    rw [List.cons_append, takeKind, if_pos of_kind]
    rcases skip_closing extended rest with ended | kept
    · rw [ended, takeKind]
      exact Or.inl spent_nil
    · rw [kept]
      rcases ih with spent | same
      · exact Or.inl spent
      · exact Or.inr (by rw [same])
  | case3 c rest other =>
    rw [List.cons_append, takeKind, if_neg other]
    exact Or.inr rfl

theorem local_takeKind (extended : Bool) (kind : Char → Bool) :
    Local fun text => some (takeKind extended kind text) where
  suffix := by
    intro text found rest result
    have suffix := takeKind_suffix extended kind text
    rw [Option.some.inj result] at suffix
    exact suffix
  unclosed := by
    intro text found rest result
    have same := Option.some.inj result
    rcases takeKind_closing extended kind text with spent | kept
    · rw [same] at spent
      exact Or.inl spent
    · rw [kept] at same
      obtain ⟨rfl, rfl⟩ := Prod.mk.inj same
      exact Or.inr ⟨_, rfl, rfl⟩

theorem decimalDigits_eq (extended : Bool) (text : List Char) :
    decimalDigits extended text = takeKind extended Char.isDigit text := by
  fun_induction decimalDigits extended text with
  | case1 => rw [takeKind]
  | case2 c rest digit found ih =>
    rw [takeKind, if_pos digit, ← ih]
  | case3 c rest other => rw [takeKind, if_neg other]

theorem boundaryNameChars_eq (extended : Bool) (text : List Char) :
    boundaryNameChars extended text = takeKind extended isBoundaryNameChar text := by
  fun_induction boundaryNameChars extended text with
  | case1 => rw [takeKind]
  | case2 c rest inside found ih => rw [takeKind, if_pos inside, ← ih]
  | case3 c rest other => rw [takeKind, if_neg other]

/-- Keeps a name and drops the brace behind it. -/
def pastBrace? (name : List Char) : List Char → Reading (List Char)
  | _ :: rest => some (name, rest)
  | [] => none

theorem local_pastBrace? (name : List Char) : Local (pastBrace? name) := by
  refine Local.of_cons ?_ ?_ fun c => Local.pure name
  · rintro _ _ ⟨⟩
  · rintro _ _ ⟨⟩
    exact Or.inl (List.suffix_refl _)

theorem untilBrace?_eq (extended : Bool) (text : List Char) :
    untilBrace? extended text =
      pastBrace? (takeKind extended (· != '\x7d') text).1
        (takeKind extended (· != '\x7d') text).2 := by
  fun_induction untilBrace? extended text with
  | case1 => simp [takeKind, pastBrace?]
  | case2 rest => simp [takeKind, pastBrace?]
  | case3 c rest other ih =>
    rw [ih, takeKind, if_pos (by simpa using other)]
    cases takeKind extended (· != '\x7d') (skip extended rest) with
    | mk name left => cases left <;> rfl

theorem local_untilBrace? (extended : Bool) : Local (untilBrace? extended) := by
  have same : untilBrace? extended = fun text =>
      (some (takeKind extended (· != '\x7d') text)).bind fun found =>
        pastBrace? found.1 found.2 := funext (untilBrace?_eq extended)
  rw [same]
  exact (local_takeKind extended _).bind local_pastBrace?

/-! ## Numbers -/

theorem Local.dropped {α : Type} {read : List Char → Reading α} (reads : Local read)
    {kind : Char → Bool} (no_end : kind ')' = false) :
    Local fun text => read (text.dropWhile kind) where
  suffix := fun result => (reads.suffix result).trans (List.dropWhile_suffix kind)
  unclosed := by
    intro text found rest result
    have kept : (text ++ closing).dropWhile kind = text.dropWhile kind ++ closing := by
      rw [List.dropWhile_append]
      cases text.dropWhile kind with
      | nil => simp [closing, no_end]
      | cons c further => rfl
    rw [kept] at result
    exact reads.unclosed result

theorem not_whiteSpace_closing : Unicode.isWhiteSpace ')' = false := by
  decide

theorem local_decimal? (extended : Bool) : Local (decimal? extended) := by
  let value (digits : List Char) : Nat :=
    digits.foldl (fun value c => value * 10 + (c.toNat - '0'.toNat)) 0
  have after : ∀ digits : List Char, Local fun text =>
      if digits.isEmpty || decide (Nat.pow 2 32 ≤ value digits) then none
      else some (value digits, text.dropWhile Unicode.isWhiteSpace) := by
    intro digits
    split
    · exact Local.none
    · exact (Local.pure (value digits)).dropped not_whiteSpace_closing
  have digits := (local_takeKind extended Char.isDigit).dropped not_whiteSpace_closing
  have same : decimal? extended = fun text =>
      (some (takeKind extended Char.isDigit (text.dropWhile Unicode.isWhiteSpace))).bind
        fun found =>
          if found.1.isEmpty || decide (Nat.pow 2 32 ≤ value found.1) then none
          else some (value found.1, found.2.dropWhile Unicode.isWhiteSpace) := by
    funext text
    unfold decimal?
    rw [decimalDigits_eq]
    rfl
  rw [same]
  exact digits.bind after

theorem local_fixedHex? (extended : Bool) (count value : Nat) :
    Local (fixedHex? extended count value) := by
  induction count generalizing value with
  | zero => exact Local.pure value
  | succ count ih =>
    refine Local.of_cons ?_ ?_ fun c => ?_
    · rintro _ _ ⟨⟩
    · rintro _ _ ⟨⟩
    · unfold fixedHex?
      cases Hexadecimal.value? c with
      | none => exact Local.none
      | some digit => exact (ih (value * 16 + digit)).skipped extended

theorem local_hexLiteral? (extended : Bool) (count : Nat) :
    Local (hexLiteral? extended count) := by
  have braced := ((local_untilBrace? extended).skipped extended).filterMap fun digits =>
    ((bracedHex? digits).bind charOf?).map fun c => (⟨c, false⟩ : Literal)
  have fixed := (local_fixedHex? extended count 0).filterMap fun code =>
    (charOf? code).map fun c => (⟨c, decide (count = 2)⟩ : Literal)
  refine Local.branch '\x7b' extended (by decide) braced fixed ?_ ?_
  · intro text rest same
    unfold hexLiteral?
    simp only [same]
    cases untilBrace? extended (skip extended rest) with
    | none => rfl
    | some found =>
      simp only [Option.bind_eq_bind, Option.bind_some]
      cases (bracedHex? found.1).bind charOf? <;> rfl
  · intro text unmarked
    unfold hexLiteral?
    split
    · next same => exact absurd same (unmarked _)
    · cases fixedHex? extended count 0 (skip extended text) with
      | none => rfl
      | some found =>
        simp only [Option.bind_eq_bind, Option.bind_some]
        cases charOf? found.1 <;> rfl

/-! ## Property classes -/

theorem local_propertyClass? (extended : Bool) : Local (propertyClass? extended) := by
  have braced := ((local_untilBrace? extended).skipped extended).map propertyName
  have letter : Local fun text : List Char =>
      match text with
      | [] => none
      | c :: rest =>
        if c = '\\' then none else some (PropertyName.plain [c], skip extended rest) := by
    refine Local.of_cons ?_ ?_ fun c => ?_
    · rintro _ _ ⟨⟩
    · rintro _ _ ⟨⟩
      exact Or.inl (skip_suffix extended _)
    · by_cases backslash : c = '\\'
      · simp only [backslash, if_true]
        exact Local.none
      · simp only [backslash, if_false]
        exact (Local.pure (PropertyName.plain [c])).skipped extended
  refine Local.branch '\x7b' extended (by decide) braced letter ?_ ?_
  · intro text rest same
    unfold propertyClass?
    simp only [same]
  · intro text unmarked
    unfold propertyClass?
    split
    · next same => rw [same]
    · next same => exact absurd same (unmarked _)
    · next same => rw [same]

/-! ## Word boundaries -/

/-- A brace that only blanks and comments follow in a pattern. -/
def Stuck (extended : Bool) (rest : List Char) : Prop :=
  ∃ blank, rest = '\x7b' :: (blank ++ closing) ∧ skip extended blank = []

/-- The name of a boundary up to its closing brace. -/
def boundaryName? (extended : Bool) (text : List Char) : Reading Boundary :=
  (some (takeKind extended isBoundaryNameChar text)).bind fun found =>
    match found.2 with
    | '\x7d' :: rest =>
      (boundaryNames.lookup (String.ofList found.1)).map fun boundary => (boundary, rest)
    | _ => none

theorem local_boundaryName? (extended : Bool) : Local (boundaryName? extended) := by
  have brace : ∀ name : List Char, Local fun text : List Char =>
      match text with
      | '\x7d' :: rest =>
        (boundaryNames.lookup (String.ofList name)).map fun boundary => (boundary, rest)
      | _ => none := by
    intro name
    refine Local.onFirst '\x7d' (by decide)
      ((Local.pure ()).filterMap fun _ => boundaryNames.lookup (String.ofList name))
      Local.none (fun _ => rfl) ?_
    intro text unmarked
    split
    · exact absurd rfl (unmarked _)
    · rfl
  exact (local_takeKind extended isBoundaryNameChar).bind brace

theorem boundary?_plain {extended : Bool} {text : List Char}
    (no_brace : ∀ rest, text ≠ '\x7b' :: rest) :
    boundary? extended text = some (.edge, text) := by
  unfold boundary?
  split
  · exact absurd rfl (no_brace _)
  · rfl

theorem boundary?_named {extended : Bool} {rest inner : List Char} {c : Char}
    (visible : skip extended rest = c :: inner) (name_char : isBoundaryNameChar c = true) :
    boundary? extended ('\x7b' :: rest) = boundaryName? extended (c :: inner) := by
  unfold boundary? boundaryName?
  simp only [visible, name_char, if_true, boundaryNameChars_eq, Option.bind_some]
  cases takeKind extended isBoundaryNameChar (c :: inner) with
  | mk name after =>
    split
    · next same =>
      obtain ⟨rfl, rfl⟩ := Prod.mk.inj same
      rfl
    · next unmarked =>
      split
      · next same => exact absurd (congrArg _ same) (unmarked name _)
      · rfl

theorem boundary?_unnamed {extended : Bool} {rest inner : List Char} {c : Char}
    (visible : skip extended rest = c :: inner) (other : isBoundaryNameChar c = false) :
    boundary? extended ('\x7b' :: rest) = some (.edge, '\x7b' :: rest) := by
  unfold boundary?
  simp [visible, other]

theorem boundary?_ended {extended : Bool} {rest : List Char} (ended : skip extended rest = []) :
    boundary? extended ('\x7b' :: rest) = none := by
  unfold boundary?
  simp [ended]

theorem boundary?_suffix {extended : Bool} {text rest : List Char} {found : Boundary}
    (result : boundary? extended text = some (found, rest)) : rest <:+ text := by
  by_cases brace : ∃ inner, text = '\x7b' :: inner
  · obtain ⟨inner, rfl⟩ := brace
    cases visible : skip extended inner with
    | nil => simp [boundary?_ended visible] at result
    | cons c further =>
      have below := skip_suffix extended inner
      rw [visible] at below
      by_cases name_char : isBoundaryNameChar c = true
      · rw [boundary?_named visible name_char] at result
        have named := (local_boundaryName? extended).suffix result
        exact (named.trans below).trans (List.suffix_cons _ inner)
      · rw [boundary?_unnamed visible (Bool.eq_false_iff.2 name_char)] at result
        cases result
        exact List.suffix_refl _
  · rw [boundary?_plain fun inner same => brace ⟨inner, same⟩] at result
    cases result
    exact List.suffix_refl _

/-- With the closing text behind it, a brace at the end of a pattern is left to be a repetition. -/
theorem boundary?_unclosed {extended : Bool} {text rest : List Char} {found : Boundary}
    (result : boundary? extended (text ++ closing) = some (found, rest)) :
    Spent rest ∨ Stuck extended rest ∨
      ∃ left, rest = left ++ closing ∧ boundary? extended text = some (found, left) := by
  by_cases brace : ∃ inner, text = '\x7b' :: inner
  · obtain ⟨inner, rfl⟩ := brace
    rw [List.cons_append] at result
    rcases skip_closing extended inner with ended | kept
    · simp [boundary?_ended ended] at result
    cases visible : skip extended inner with
    | nil =>
      rw [visible] at kept
      have plain : isBoundaryNameChar ')' = false := by decide
      rw [boundary?_unnamed kept plain] at result
      cases result
      exact Or.inr (Or.inl ⟨inner, rfl, visible⟩)
    | cons c further =>
      rw [visible] at kept
      by_cases name_char : isBoundaryNameChar c = true
      · rw [boundary?_named kept name_char] at result
        rw [boundary?_named visible name_char]
        exact ((local_boundaryName? extended).unclosed result).imp_right Or.inr
      · rw [boundary?_unnamed kept (Bool.eq_false_iff.2 name_char)] at result
        rw [boundary?_unnamed visible (Bool.eq_false_iff.2 name_char)]
        cases result
        exact Or.inr (Or.inr ⟨'\x7b' :: inner, rfl, rfl⟩)
  · have no_brace : ∀ inner, text ++ closing ≠ '\x7b' :: inner := by
      intro inner same
      obtain ⟨left, first, -⟩ := cons_of_append_closing same (by decide)
      exact brace ⟨left, first⟩
    rw [boundary?_plain no_brace] at result
    cases result
    exact Or.inr (Or.inr ⟨text, rfl, boundary?_plain fun inner same => brace ⟨inner, same⟩⟩)

/-! ## Escapes -/

theorem local_escape?_cons (extended : Bool) {c : Char} (no_boundary : c ≠ 'b') :
    Local fun text => escape? extended (c :: text) := by
  by_cases two : c = 'x'
  · subst two
    exact (local_hexLiteral? extended 2).map Atom.literal
  by_cases four : c = 'u'
  · subst four
    exact (local_hexLiteral? extended 4).map Atom.literal
  by_cases eight : c = 'U'
  · subst eight
    exact (local_hexLiteral? extended 8).map Atom.literal
  by_cases property : c = 'p'
  · subst property
    exact (local_propertyClass? extended).map fun name => Atom.escape (.property name false)
  by_cases negated : c = 'P'
  · subst negated
    exact (local_propertyClass? extended).map fun name => Atom.escape (.property name true)
  have known : (fun text => escape? extended (c :: text)) =
      fun text => (atomEscape? c).map fun atom => (atom, text) := by
    funext text
    unfold escape?
    split <;> simp_all
  rw [known]
  exact (Local.pure ()).filterMap fun _ => atomEscape? c

theorem escape?_boundary (extended : Bool) (text : List Char) :
    escape? extended ('b' :: text) = (boundary? extended text).map fun found =>
      (.assertion (.word found.1), found.2) :=
  rfl

theorem escape?_suffix {extended : Bool} {text rest : List Char} {atom : Atom}
    (result : escape? extended text = some (atom, rest)) : rest <:+ text := by
  cases text with
  | nil => cases result
  | cons c text =>
    refine List.IsSuffix.trans ?_ (List.suffix_cons c text)
    by_cases boundary : c = 'b'
    · subst boundary
      rw [escape?_boundary] at result
      obtain ⟨found, inner, same⟩ := Option.map_eq_some_iff.1 result
      cases same
      exact boundary?_suffix inner
    · exact (local_escape?_cons extended boundary).suffix result

/-- An escape stops within a pattern, reads on into the closing text, or is a boundary before a
brace at the end. -/
theorem escape?_unclosed {extended : Bool} {text rest : List Char} {atom : Atom}
    (result : escape? extended (text ++ closing) = some (atom, rest)) :
    Spent rest ∨ ((∃ condition, atom = .assertion condition) ∧ Stuck extended rest) ∨
      ∃ left, rest = left ++ closing ∧ escape? extended text = some (atom, left) := by
  cases text with
  | nil =>
    cases result
    exact Or.inl (List.suffix_refl _)
  | cons c text =>
    by_cases boundary : c = 'b'
    · subst boundary
      rw [List.cons_append, escape?_boundary] at result
      obtain ⟨found, inner, same⟩ := Option.map_eq_some_iff.1 result
      cases same
      rcases boundary?_unclosed inner with spent | stuck | ⟨left, kept, read⟩
      · exact Or.inl spent
      · exact Or.inr (Or.inl ⟨⟨_, rfl⟩, stuck⟩)
      · refine Or.inr (Or.inr ⟨left, kept, ?_⟩)
        rw [escape?_boundary, read]
        rfl
    · exact ((local_escape?_cons extended boundary).unclosed result).imp_right Or.inr

end TreeBundle.Pattern
