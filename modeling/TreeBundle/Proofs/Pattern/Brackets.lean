import TreeBundle.Pattern.Brackets
import TreeBundle.Proofs.Pattern.Escape

/-!
# Reading brackets without the closing text

A class that is closed within a pattern is read the same where the closing text is missing. Each
round of the reader takes one part off the front, so the number of rounds does not matter.
-/
namespace TreeBundle.Pattern
set_option autoImplicit false

/-! ## Named classes -/

/-- The name of a class up to its closing colon and bracket. -/
def className? (negated : Bool) (text : List Char) : Reading ClassSet :=
  match text.dropWhile (· != ':') with
  | ':' :: ']' :: after =>
    (asciiClasses.lookup (String.ofList (text.takeWhile (· != ':')))).map fun content =>
      (.ascii content negated, after)
  | _ => none

theorem className?_closing (negated : Bool) (text : List Char) :
    className? negated (text ++ closing) =
      (className? negated text).map fun found => (found.1, found.2 ++ closing) := by
  have no_colon : closing.dropWhile (· != ':') = [] := by decide
  unfold className?
  rw [List.dropWhile_append, List.takeWhile_append]
  cases after_name : text.dropWhile (· != ':') with
  | nil => simp [no_colon]
  | cons c after =>
    have whole := congrArg List.length
      (List.takeWhile_append_dropWhile (p := (· != ':')) (l := text))
    have shorter : (text.takeWhile (· != ':')).length ≠ text.length := by
      rw [after_name, List.length_append, List.length_cons] at whole
      omega
    rw [if_neg shorter]
    by_cases stop : c = ':' ∧ ∃ further, after = ']' :: further
    · obtain ⟨rfl, further, rfl⟩ := stop
      simp [Function.comp_def]
    · have no_stop : ∀ further, c :: after ≠ ':' :: ']' :: further := by
        rintro further same
        obtain ⟨rfl, rfl⟩ := List.cons.inj same
        exact stop ⟨rfl, further, rfl⟩
      have no_later_stop : ∀ further, c :: (after ++ closing) ≠ ':' :: ']' :: further := by
        rintro further same
        obtain ⟨rfl, rest_same⟩ := List.cons.inj same
        obtain ⟨left, rfl, -⟩ := cons_of_append_closing rest_same (by decide)
        exact no_stop left rfl
      simp

theorem className?_suffix {negated : Bool} {text rest : List Char} {item : ClassSet}
    (result : className? negated text = some (item, rest)) : rest <:+ text := by
  unfold className? at result
  split at result
  · next after same =>
    obtain ⟨content, -, found_same⟩ := Option.map_eq_some_iff.1 result
    cases found_same
    have below := List.dropWhile_suffix (· != ':') (l := text)
    rw [same] at below
    exact ((List.suffix_cons _ _).trans (List.suffix_cons _ _)).trans below
  · cases result

theorem asciiClass?_named {text : List Char} (plain : ∀ rest, text ≠ '^' :: rest) :
    asciiClass? (':' :: text) = className? false text := by
  rw [asciiClass?]
  · rfl
  · exact plain

theorem asciiClass?_other {text : List Char} (no_colon : ∀ rest, text ≠ ':' :: rest) :
    asciiClass? text = none := by
  unfold asciiClass?
  split
  · exact absurd rfl (no_colon _)
  · rfl

/-- No named class reaches into the closing text. -/
theorem asciiClass?_closing (text : List Char) :
    asciiClass? (text ++ closing) =
      (asciiClass? text).map fun found => (found.1, found.2 ++ closing) := by
  by_cases colon : ∃ inner, text = ':' :: inner
  · obtain ⟨inner, rfl⟩ := colon
    by_cases negated : ∃ name, inner = '^' :: name
    · obtain ⟨name, rfl⟩ := negated
      exact className?_closing true name
    · have plain : ∀ rest, inner ++ closing ≠ '^' :: rest := by
        intro rest same
        obtain ⟨left, first, -⟩ := cons_of_append_closing same (by decide)
        exact negated ⟨left, first⟩
      rw [List.cons_append, asciiClass?_named plain,
        asciiClass?_named fun rest same => negated ⟨rest, same⟩]
      exact className?_closing false inner
  · have no_colon : ∀ rest, text ++ closing ≠ ':' :: rest := by
      intro rest same
      obtain ⟨left, first, -⟩ := cons_of_append_closing same (by decide)
      exact colon ⟨left, first⟩
    rw [asciiClass?_other no_colon, asciiClass?_other fun rest same => colon ⟨rest, same⟩]
    rfl

theorem asciiClass?_suffix {text rest : List Char} {item : ClassSet}
    (result : asciiClass? text = some (item, rest)) : rest <:+ text := by
  by_cases colon : ∃ inner, text = ':' :: inner
  · obtain ⟨inner, rfl⟩ := colon
    refine List.IsSuffix.trans ?_ (List.suffix_cons ':' inner)
    by_cases negated : ∃ name, inner = '^' :: name
    · obtain ⟨name, rfl⟩ := negated
      exact (className?_suffix result).trans (List.suffix_cons '^' name)
    · rw [asciiClass?_named fun rest same => negated ⟨rest, same⟩] at result
      exact className?_suffix result
  · rw [asciiClass?_other fun rest same => colon ⟨rest, same⟩] at result
    cases result

/-! ## The start of a class -/

theorem leadingHyphens_eq (extended : Bool) (text : List Char) :
    leadingHyphens extended text =
      ((takeKind extended (· == '-') text).1.map fun _ => .literal ⟨'-', false⟩,
        (takeKind extended (· == '-') text).2) := by
  fun_induction leadingHyphens extended text with
  | case1 => simp [takeKind]
  | case2 rest found ih =>
    rw [takeKind, if_pos (by rfl)]
    have same : found = _ := ih
    rw [same]
    rfl
  | case3 c rest other =>
    rw [takeKind, if_neg (by simpa using other)]
    rfl

/-- The items of a class that a closing bracket may start. -/
def openItems (extended negated : Bool) (text : List Char) : OpenClass × List Char :=
  match leadingHyphens extended text with
  | ([], ']' :: rest) => (⟨negated, none, [.literal ⟨']', false⟩]⟩, skip extended rest)
  | (hyphens, rest) => (⟨negated, none, hyphens⟩, rest)

/-- The items of a class behind its hyphens. -/
def itemsBehind (extended negated : Bool) : List ClassSet → List Char → OpenClass × List Char
  | [], ']' :: rest => (⟨negated, none, [.literal ⟨']', false⟩]⟩, skip extended rest)
  | hyphens, rest => (⟨negated, none, hyphens⟩, rest)

theorem local_itemsBehind (extended negated : Bool) (hyphens : List ClassSet) :
    Local fun text => some (itemsBehind extended negated hyphens text) := by
  cases hyphens with
  | cons hyphen others => exact Local.pure (⟨negated, none, hyphen :: others⟩ : OpenClass)
  | nil =>
    have bracket : Local fun text =>
        some ((⟨negated, none, [.literal ⟨']', false⟩]⟩ : OpenClass), skip extended text) :=
      (Local.pure (⟨negated, none, [.literal ⟨']', false⟩]⟩ : OpenClass)).skipped extended
    refine Local.onFirst ']' (by decide) bracket
      (Local.pure (⟨negated, none, []⟩ : OpenClass)) (fun _ => rfl) ?_
    intro text unmarked
    unfold itemsBehind
    split
    · exact absurd rfl (unmarked _)
    · rfl

theorem openItems_eq (extended negated : Bool) (text : List Char) :
    openItems extended negated text =
      itemsBehind extended negated (leadingHyphens extended text).1
        (leadingHyphens extended text).2 := by
  unfold openItems
  cases leadingHyphens extended text with
  | mk hyphens rest =>
    unfold itemsBehind
    split
    · next same =>
      cases same
      rfl
    · next other same =>
      cases same
      split
      · exact (other _ ‹_› ‹_›).elim
      · rfl

theorem local_openItems (extended negated : Bool) :
    Local fun text => some (openItems extended negated text) := by
  have first : Local fun text => some (leadingHyphens extended text) := by
    simp only [leadingHyphens_eq]
    exact (local_takeKind extended (· == '-')).map
      (List.map fun _ => ClassSet.literal ⟨'-', false⟩)
  have same : (fun text => some (openItems extended negated text)) = fun text =>
      (some (leadingHyphens extended text)).bind fun found =>
        some (itemsBehind extended negated found.1 found.2) := by
    funext text
    rw [openItems_eq, Option.bind_some]
  rw [same]
  exact first.bind (local_itemsBehind extended negated)

theorem local_openClass (extended : Bool) : Local fun text => some (openClass extended text) := by
  have negated := (local_openItems extended true).skipped extended
  refine Local.branch '^' extended (by decide) negated (local_openItems extended false) ?_ ?_
  · intro text rest same
    rw [openClass, same]
    rfl
  · intro text unmarked
    unfold openClass
    simp only
    rfl

theorem openClass_suffix (extended : Bool) (text : List Char) :
    (openClass extended text).2 <:+ text := by
  have result : some (openClass extended text) =
      some ((openClass extended text).1, (openClass extended text).2) := rfl
  exact (local_openClass extended).suffix result

theorem openClass_unclosed (extended : Bool) (text : List Char) :
    Spent (openClass extended (text ++ closing)).2 ∨
      ∃ left, (openClass extended (text ++ closing)).2 = left ++ closing ∧
        openClass extended text = ((openClass extended (text ++ closing)).1, left) := by
  have result : some (openClass extended (text ++ closing)) =
      some ((openClass extended (text ++ closing)).1, (openClass extended (text ++ closing)).2) :=
    rfl
  rcases (local_openClass extended).unclosed result with spent | ⟨left, kept, same⟩
  · exact Or.inl spent
  · exact Or.inr ⟨left, kept, Option.some.inj same⟩

/-! ## Items -/

theorem local_classAtom?_plain {extended : Bool} {c : Char} (no_escape : c ≠ '\\') :
    Local fun text => classAtom? extended (c :: text) := by
  have plain : (fun text => classAtom? extended (c :: text)) = fun text =>
      some (plainLiteral c, text) := by
    funext text
    unfold classAtom?
    split <;> simp_all
  rw [plain]
  exact Local.pure (plainLiteral c)

/-- What is read after an atom. No item of a class starts with an assertion. -/
structure AfterAtom {α : Type} (more : Atom → List Char → Reading α) : Prop where
  local_more : ∀ atom, Local (more atom)
  no_assertion : ∀ condition text, more (.assertion condition) text = none

theorem AfterAtom.local_cons {α : Type} {more : Atom → List Char → Reading α}
    (after : AfterAtom more) (extended : Bool) (c : Char) :
    Local fun text => (classAtom? extended (c :: text)).bind fun found => more found.1 found.2 := by
  by_cases escape : c = '\\'
  · subst escape
    have escaped : ∀ text, classAtom? extended ('\\' :: text) = escape? extended text :=
      fun _ => rfl
    constructor
    · intro text found rest both
      obtain ⟨⟨atom, middle⟩, first, last⟩ := Option.bind_eq_some_iff.1 both
      exact ((after.local_more atom).suffix last).trans (escape?_suffix first)
    · intro text found rest both
      obtain ⟨⟨atom, middle⟩, first, last⟩ := Option.bind_eq_some_iff.1 both
      rcases escape?_unclosed first with spent | ⟨⟨condition, same⟩, -⟩ | ⟨left, same, read⟩
      · exact Or.inl (spent.of_suffix ((after.local_more atom).suffix last))
      · rw [same, after.no_assertion] at last
        cases last
      · subst same
        rcases (after.local_more atom).unclosed last with spent | ⟨further, kept, ended⟩
        · exact Or.inl spent
        · exact Or.inr ⟨further, kept, by rw [escaped, read]; exact ended⟩
  · exact (local_classAtom?_plain escape).bind after.local_more

theorem AfterAtom.local_atom {α : Type} {more : Atom → List Char → Reading α}
    (after : AfterAtom more) (extended : Bool) :
    Local fun text => (classAtom? extended text).bind fun found => more found.1 found.2 := by
  refine Local.of_cons ?_ ?_ fun c => after.local_cons extended c
  · rintro _ _ ⟨⟩
  · intro found rest result
    exact Or.inl ((after.local_cons extended ')').suffix result)

/-- The second end of a range that starts with an atom. -/
def rangeTo? (first last : Atom) : Option ClassSet :=
  match first, last with
  | .literal low, .literal high => if low.char ≤ high.char then some (.range low high) else none
  | _, _ => none

def range? (extended : Bool) (first : Atom) (text : List Char) : Reading ClassSet :=
  (classAtom? extended (skip extended text)).bind fun found =>
    (rangeTo? first found.1).map fun range => (range, found.2)

theorem local_range? (extended : Bool) (first : Atom) : Local (range? extended first) := by
  have after : AfterAtom fun last text =>
      (rangeTo? first last).map fun range => (range, text) := by
    constructor
    · intro last
      exact (Local.pure ()).filterMap fun _ => rangeTo? first last
    · intro condition text
      cases first <;> rfl
  exact (after.local_atom extended).skipped extended

/-- Whether a hyphen before this character makes no range. -/
def NoRange (next : Option Char) : Prop :=
  next = some ']' ∨ next = some '-'

instance (next : Option Char) : Decidable (NoRange next) :=
  inferInstanceAs (Decidable (_ ∨ _))

theorem scan_closing (inComment : Bool) (text : List Char) :
    nextVisible?.scan inComment (text ++ closing) =
      (nextVisible?.scan inComment text).or (some ')') := by
  induction text generalizing inComment with
  | nil =>
    have visible : Unicode.isWhiteSpace ')' = false := by decide
    simp [nextVisible?.scan, closing, visible]
  | cons c text ih =>
    rw [List.cons_append, nextVisible?.scan, nextVisible?.scan, ih, ih]
    split
    · rfl
    · split <;> rfl

theorem not_noRange_head {text : List Char} (nothing : nextVisible?.scan false text = none) :
    ¬ NoRange text.head? := by
  rintro (bracket | hyphen)
  · obtain ⟨rest, rfl⟩ := List.head?_eq_some_iff.1 bracket
    have visible : Unicode.isWhiteSpace ']' = false := by decide
    simp [nextVisible?.scan, visible] at nothing
  · obtain ⟨rest, rfl⟩ := List.head?_eq_some_iff.1 hyphen
    have visible : Unicode.isWhiteSpace '-' = false := by decide
    simp [nextVisible?.scan, visible] at nothing

/-- The closing text behind a class does not decide whether a hyphen makes a range. -/
theorem noRange_closing (extended : Bool) (text : List Char) :
    NoRange (nextVisible? extended (text ++ closing)) ↔ NoRange (nextVisible? extended text) := by
  have parenthesis : ¬ NoRange (some ')') := by decide
  have nothing : ¬ NoRange none := by decide
  cases extended with
  | false =>
    cases text with
    | nil => exact iff_of_false parenthesis nothing
    | cons c text => exact Iff.rfl
  | true =>
    unfold nextVisible?
    simp only [if_true, scan_closing]
    cases scanned : nextVisible?.scan false text with
    | some c => exact Iff.rfl
    | none => exact iff_of_false parenthesis (not_noRange_head scanned)

/-- What is read after the first atom of an item: the rest of a range, or nothing. -/
def afterAtom? (extended : Bool) (first : Atom) (text : List Char) : Reading ClassSet :=
  match skip extended text with
  | '-' :: after =>
    if NoRange (nextVisible? extended after) then
      (first.toClassSet?).map fun item => (item, '-' :: after)
    else range? extended first after
  | rest => (first.toClassSet?).map fun item => (item, rest)

theorem afterAtom?_hyphen {extended : Bool} {first : Atom} {text after : List Char}
    (hyphen : skip extended text = '-' :: after) :
    afterAtom? extended first text =
      if NoRange (nextVisible? extended after) then
        (first.toClassSet?).map fun item => (item, '-' :: after)
      else range? extended first after := by
  unfold afterAtom?
  simp only [hyphen]

theorem afterAtom?_plain {extended : Bool} {first : Atom} {text : List Char}
    (no_hyphen : ∀ after, skip extended text ≠ '-' :: after) :
    afterAtom? extended first text =
      (first.toClassSet?).map fun item => (item, skip extended text) := by
  unfold afterAtom?
  split
  · next same => exact absurd same (no_hyphen _)
  · rfl

theorem range?_eq (extended : Bool) (first : Atom) (text : List Char) :
    range? extended first text =
      match first, classAtom? extended (skip extended text) with
      | .literal low, some (.literal high, rest) =>
        if low.char ≤ high.char then some (.range low high, rest) else none
      | _, _ => none := by
  unfold range?
  cases classAtom? extended (skip extended text) with
  | none => cases first <;> rfl
  | some found =>
    obtain ⟨last, rest⟩ := found
    rw [Option.bind_some]
    cases first with
    | literal low =>
      cases last with
      | literal high =>
        unfold rangeTo?
        simp only
        split <;> rfl
      | _ => rfl
    | _ => rfl

theorem classItem?_eq (extended : Bool) (text : List Char) :
    classItem? extended text =
      (classAtom? extended text).bind fun found => afterAtom? extended found.1 found.2 := by
  unfold classItem?
  cases classAtom? extended text with
  | none => rfl
  | some found =>
    obtain ⟨first, rest⟩ := found
    simp only [Option.bind_eq_bind, Option.bind_some]
    by_cases hyphen : ∃ after, skip extended rest = '-' :: after
    · obtain ⟨after, same⟩ := hyphen
      rw [afterAtom?_hyphen same, range?_eq]
      simp only [same]
      rfl
    · rw [afterAtom?_plain fun after same => hyphen ⟨after, same⟩]
      split
      · next same => exact absurd ⟨_, same⟩ hyphen
      · rfl

theorem local_afterAtom? (extended : Bool) (first : Atom) : Local (afterAtom? extended first) := by
  have whole : ∀ item : Option ClassSet, Local fun text : List Char =>
      item.map fun item => (item, text) := by
    intro item
    exact (Local.pure ()).filterMap fun _ => item
  constructor
  · intro text found rest result
    have visible := skip_suffix extended text
    by_cases hyphen : ∃ after, skip extended text = '-' :: after
    · obtain ⟨after, same⟩ := hyphen
      rw [same] at visible
      rw [afterAtom?_hyphen same] at result
      split at result
      · obtain ⟨item, -, found_same⟩ := Option.map_eq_some_iff.1 result
        cases found_same
        exact visible
      · exact (((local_range? extended first).suffix result).trans
          (List.suffix_cons '-' after)).trans visible
    · rw [afterAtom?_plain fun after same => hyphen ⟨after, same⟩] at result
      exact ((whole _).suffix result).trans visible
  · intro text found rest result
    by_cases hyphen : ∃ after, skip extended (text ++ closing) = '-' :: after
    · obtain ⟨further, seen⟩ := hyphen
      obtain ⟨after, same, rfl⟩ := skip_eq_cons_of_closing (by decide) seen
      rw [afterAtom?_hyphen seen] at result
      rw [afterAtom?_hyphen same]
      by_cases no_range : NoRange (nextVisible? extended after)
      · rw [if_pos ((noRange_closing extended after).2 no_range)] at result
        rw [if_pos no_range]
        obtain ⟨item, known, found_same⟩ := Option.map_eq_some_iff.1 result
        cases found_same
        exact Or.inr ⟨'-' :: after, rfl, by rw [known]; rfl⟩
      · rw [if_neg fun later => no_range ((noRange_closing extended after).1 later)] at result
        rw [if_neg no_range]
        exact (local_range? extended first).unclosed result
    · rw [afterAtom?_plain fun after same => hyphen ⟨after, same⟩] at result
      rcases skip_closing extended text with ended | kept
      · rw [ended] at result
        exact Or.inl (spent_nil.of_suffix ((whole _).suffix result))
      · have no_hyphen : ∀ after, skip extended text ≠ '-' :: after := by
          intro after same
          rw [same, List.cons_append] at kept
          exact hyphen ⟨_, kept⟩
        rw [kept] at result
        rw [afterAtom?_plain no_hyphen]
        exact (whole _).unclosed result

theorem afterAtom?_assertion (extended : Bool) (condition : Assertion) (text : List Char) :
    afterAtom? extended (.assertion condition) text = none := by
  have no_range : ∀ after, range? extended (.assertion condition) after = none := by
    intro after
    rw [range?_eq]
  by_cases hyphen : ∃ after, skip extended text = '-' :: after
  · obtain ⟨after, same⟩ := hyphen
    rw [afterAtom?_hyphen same, no_range]
    exact ite_self none
  · rw [afterAtom?_plain fun after same => hyphen ⟨after, same⟩]
    rfl

theorem afterAtom_afterAtom? (extended : Bool) : AfterAtom (afterAtom? extended) where
  local_more := local_afterAtom? extended
  no_assertion := afterAtom?_assertion extended

theorem local_classItem?_cons (extended : Bool) (c : Char) :
    Local fun text => classItem? extended (c :: text) := by
  simp only [classItem?_eq]
  exact (afterAtom_afterAtom? extended).local_cons extended c

/-! ## Parts of a class -/

inductive ClassPart where
  | item (item : ClassSet)
  | opened (inner : OpenClass)
  | closed
  | operation (operation : SetOperation)

/-- The next part of a class, with no blanks before it. -/
def classPart? (extended : Bool) (text : List Char) : Reading ClassPart :=
  match text with
  | [] => none
  | '[' :: rest =>
    match asciiClass? rest with
    | some (item, rest) => some (.item item, rest)
    | none => some (.opened (openClass extended rest).1, (openClass extended rest).2)
  | ']' :: rest => some (.closed, rest)
  | '&' :: '&' :: rest => some (.operation .intersection, rest)
  | '-' :: '-' :: rest => some (.operation .difference, rest)
  | '~' :: '~' :: rest => some (.operation .symmetricDifference, rest)
  | text => (classItem? extended text).map fun found => (.item found.1, found.2)

theorem classRest?_succ (extended : Bool) (fuel : Nat) (current : OpenClass)
    (enclosing : List OpenClass) (text : List Char) :
    classRest? extended (fuel + 1) current enclosing text =
      (classPart? extended (skip extended text)).bind fun found =>
        match found.1, enclosing with
        | .item item, _ => classRest? extended fuel (current.push item) enclosing found.2
        | .opened inner, _ => classRest? extended fuel inner (current :: enclosing) found.2
        | .operation operation, _ =>
          classRest? extended fuel (current.operate operation) enclosing found.2
        | .closed, [] => some ((current.negated, current.content), found.2)
        | .closed, outer :: further =>
          classRest? extended fuel (outer.push (.bracketed current.negated current.content))
            further found.2 := by
  rw [classRest?]
  generalize skip extended text = visible
  split
  · rfl
  · next rest =>
    unfold classPart?
    cases named : asciiClass? rest <;> simp only [named] <;> rfl
  · cases enclosing <;> rfl
  · rfl
  · rfl
  · rfl
  · next nonempty no_bracket no_stop no_and no_hyphens no_tildes =>
    have item : classPart? extended visible =
        (classItem? extended visible).map fun found => (.item found.1, found.2) := by
      unfold classPart?
      split <;> simp_all
    rw [item]
    cases classItem? extended visible <;> rfl

theorem local_classPart?_bracket (extended : Bool) :
    Local fun text => classPart? extended ('[' :: text) := by
  have opened : ∀ text, asciiClass? text = none → classPart? extended ('[' :: text) =
      some (.opened (openClass extended text).1, (openClass extended text).2) := by
    intro text unnamed
    simp only [classPart?, unnamed]
  have named : ∀ text found, asciiClass? text = some found →
      classPart? extended ('[' :: text) = some (.item found.1, found.2) := by
    intro text found known
    simp only [classPart?, known]
  constructor
  · intro text part rest result
    cases known : asciiClass? text with
    | none =>
      rw [opened text known] at result
      obtain ⟨-, rfl⟩ := Prod.mk.inj (Option.some.inj result)
      exact openClass_suffix extended text
    | some found =>
      rw [named text found known] at result
      cases result
      exact asciiClass?_suffix known
  · intro text part rest result
    have later := asciiClass?_closing text
    cases known : asciiClass? text with
    | none =>
      rw [known] at later
      rw [opened _ later] at result
      obtain ⟨rfl, rfl⟩ := Prod.mk.inj (Option.some.inj result)
      rcases openClass_unclosed extended text with spent | ⟨left, kept, same⟩
      · exact Or.inl spent
      · refine Or.inr ⟨left, kept, ?_⟩
        rw [opened text known, same]
    | some found =>
      rw [known] at later
      rw [named _ _ later] at result
      cases result
      exact Or.inr ⟨found.2, rfl, named text found known⟩

/-- One part, read after its first character. -/
theorem local_classPart?_cons (extended : Bool) (c : Char) :
    Local fun text => classPart? extended (c :: text) := by
  have item := (local_classItem?_cons extended c).map ClassPart.item
  by_cases bracket : c = '['
  · subst bracket
    exact local_classPart?_bracket extended
  by_cases stop : c = ']'
  · subst stop
    exact Local.pure ClassPart.closed
  by_cases intersection : c = '&'
  · subst intersection
    refine Local.onFirst '&' (by decide) (Local.pure (ClassPart.operation .intersection)) item
      (fun _ => rfl) ?_
    intro text unmarked
    unfold classPart?
    split <;> simp_all
  by_cases difference : c = '-'
  · subst difference
    refine Local.onFirst '-' (by decide) (Local.pure (ClassPart.operation .difference)) item
      (fun _ => rfl) ?_
    intro text unmarked
    unfold classPart?
    split <;> simp_all
  by_cases symmetric : c = '~'
  · subst symmetric
    refine Local.onFirst '~' (by decide) (Local.pure (ClassPart.operation .symmetricDifference)) item
      (fun _ => rfl) ?_
    intro text unmarked
    unfold classPart?
    split <;> simp_all
  have plain : (fun text => classPart? extended (c :: text)) = fun text =>
      (classItem? extended (c :: text)).map fun found => (.item found.1, found.2) := by
    funext text
    unfold classPart?
    split <;> simp_all
  rw [plain]
  exact item

/-! ## Whole classes -/

theorem classPart?_shorter {extended : Bool} {text rest : List Char} {part : ClassPart}
    (result : classPart? extended (skip extended text) = some (part, rest)) :
    rest <:+ text ∧ rest.length < text.length := by
  have visible := skip_suffix extended text
  cases same : skip extended text with
  | nil =>
    rw [same] at result
    cases result
  | cons c further =>
    rw [same] at result visible
    have below := (local_classPart?_cons extended c).suffix result
    have shorter := below.length_le
    have inside := visible.length_le
    rw [List.length_cons] at inside
    exact ⟨(below.trans (List.suffix_cons c further)).trans visible, by omega⟩

theorem classPart?_unclosed {extended : Bool} {text rest : List Char} {part : ClassPart}
    (result : classPart? extended (skip extended (text ++ closing)) = some (part, rest)) :
    Spent rest ∨ ∃ left, rest = left ++ closing ∧
      classPart? extended (skip extended text) = some (part, left) := by
  rcases skip_closing extended text with ended | kept
  · rw [ended] at result
    cases result
  · rw [kept] at result
    cases visible : skip extended text with
    | nil =>
      rw [visible] at result
      exact Or.inl ((local_classPart?_cons extended ')').suffix result)
    | cons c further =>
      rw [visible] at result
      exact (local_classPart?_cons extended c).unclosed result

theorem classRest?_suffix {extended : Bool} {fuel : Nat} {current : OpenClass}
    {enclosing : List OpenClass} {text rest : List Char} {found : Bool × ClassSet}
    (result : classRest? extended fuel current enclosing text = some (found, rest)) :
    rest <:+ text := by
  induction fuel generalizing current enclosing text with
  | zero => cases result
  | succ fuel ih =>
    rw [classRest?_succ] at result
    obtain ⟨⟨part, after⟩, first, more⟩ := Option.bind_eq_some_iff.1 result
    have below := (classPart?_shorter first).1
    cases part with
    | item item => exact (ih more).trans below
    | opened inner => exact (ih more).trans below
    | operation operation => exact (ih more).trans below
    | closed =>
      cases enclosing with
      | nil =>
        cases more
        exact below
      | cons outer further => exact (ih more).trans below

theorem classRest?_unclosed {extended : Bool} {fuel enough : Nat} {current : OpenClass}
    {enclosing : List OpenClass} {text rest : List Char} {found : Bool × ClassSet}
    (result : classRest? extended fuel current enclosing (text ++ closing) = some (found, rest))
    (long : text.length < enough) :
    Spent rest ∨ ∃ left, rest = left ++ closing ∧
      classRest? extended enough current enclosing text = some (found, left) := by
  induction fuel generalizing enough current enclosing text with
  | zero => cases result
  | succ fuel ih =>
    cases enough with
    | zero => cases long
    | succ enough =>
      rw [classRest?_succ] at result
      rw [classRest?_succ]
      obtain ⟨⟨part, after⟩, first, more⟩ := Option.bind_eq_some_iff.1 result
      rcases classPart?_unclosed first with spent | ⟨left, same, read⟩
      · have below : rest <:+ after := by
          cases part with
          | item item => exact classRest?_suffix more
          | opened inner => exact classRest?_suffix more
          | operation operation => exact classRest?_suffix more
          | closed =>
            cases enclosing with
            | nil =>
              cases more
              exact List.suffix_refl _
            | cons outer further => exact classRest?_suffix more
        exact Or.inl (spent.of_suffix below)
      · have shorter := (classPart?_shorter read).2
        subst same
        have further_enough : left.length < enough := by omega
        rw [read, Option.bind_some]
        cases part with
        | item item => exact ih more further_enough
        | opened inner => exact ih more further_enough
        | operation operation => exact ih more further_enough
        | closed =>
          cases enclosing with
          | nil =>
            cases more
            exact Or.inr ⟨left, rfl, rfl⟩
          | cons outer further => exact ih more further_enough

theorem local_bracketed? (extended : Bool) : Local (bracketed? extended) where
  suffix := fun result => (classRest?_suffix result).trans (openClass_suffix extended _)
  unclosed := by
    intro text found rest result
    have more : classRest? extended ((text ++ closing).length + 1)
        (openClass extended (text ++ closing)).1 [] (openClass extended (text ++ closing)).2 =
          some (found, rest) := result
    rcases openClass_unclosed extended text with spent | ⟨left, same, opened⟩
    · exact Or.inl (spent.of_suffix (classRest?_suffix more))
    · have below := openClass_suffix extended text
      rw [opened] at below
      rw [same] at more
      have long := Nat.lt_succ_of_le below.length_le
      rcases classRest?_unclosed more long with spent | ⟨further, kept, read⟩
      · exact Or.inl spent
      · refine Or.inr ⟨further, kept, ?_⟩
        unfold bracketed?
        rw [opened]
        exact read

end TreeBundle.Pattern
