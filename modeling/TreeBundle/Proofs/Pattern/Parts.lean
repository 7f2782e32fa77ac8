import Mathlib.Data.Option.Basic
import TreeBundle.Pattern.Parser
import TreeBundle.Proofs.Pattern.Brackets

/-!
# The parts of a pattern

A step of the parser reads one part of the text and then changes the draft, whatever the text was.
A part that ends within the pattern is read the same where the closing text is missing.
-/
namespace TreeBundle.Pattern
set_option autoImplicit false

/-! ## Openings of groups -/

theorem flags?_suffix {cleared : Bool} {changes found : FlagChanges} {mark : Char}
    {text rest : List Char} (result : flags? cleared changes text = some (found, mark, rest)) :
    rest <:+ text := by
  induction text generalizing cleared changes with
  | nil => cases result
  | cons c text ih =>
    refine List.IsSuffix.trans ?_ (List.suffix_cons c text)
    unfold flags? at result
    split at result
    · cases result
      exact List.suffix_refl _
    · split at result
      · split at result
        · cases result
        · exact ih result
      · split at result
        · split at result
          · cases result
          · exact ih result
        · cases result

theorem flags?_unclosed {cleared : Bool} {changes found : FlagChanges} {mark : Char}
    {text rest : List Char}
    (result : flags? cleared changes (text ++ closing) = some (found, mark, rest)) :
    Spent rest ∨ ∃ left, rest = left ++ closing ∧
      flags? cleared changes text = some (found, mark, left) := by
  induction text generalizing cleared changes with
  | nil =>
    cases result
    exact Or.inl (List.suffix_refl _)
  | cons c text ih =>
    rw [List.cons_append] at result
    unfold flags? at result ⊢
    split at result
    · next ends =>
      cases result
      exact Or.inr ⟨text, rfl, if_pos ends⟩
    · next goes_on =>
      rw [if_neg goes_on]
      split at result
      · next hyphen =>
        rw [if_pos hyphen]
        split at result
        · cases result
        · next flag_follows =>
          -- A hyphen at the end of the pattern would stand right before the closing parenthesis.
          have same_head : text.head? = (text ++ closing).head? := by
            cases text with
            | nil => simp [closing] at flag_follows
            | cons d text => rfl
          rw [same_head, if_neg flag_follows]
          exact ih result
      · next other =>
        rw [if_neg other]
        split at result
        · split at result
          · cases result
          · next fresh =>
            rw [if_neg fresh]
            exact ih result
        · cases result

/-- What flags and their last mark open. -/
def flagOpening? (changes : FlagChanges) (mark : Char) : Option Opening :=
  if mark = ':' then some (.group changes)
  else if changes = [] then none
  else some (.setFlags changes)

def flagGroup? (text : List Char) : Reading Opening :=
  (flags? false [] text).bind fun found =>
    (flagOpening? found.1 found.2.1).map fun opening => (opening, found.2.2)

theorem flagGroup?_eq (text : List Char) :
    flagGroup? text =
      match flags? false [] text with
      | some (changes, ':', rest) => some (.group changes, rest)
      | some ([], _, _) => none
      | some (changes, _, rest) => some (.setFlags changes, rest)
      | none => none := by
  unfold flagGroup?
  cases flags? false [] text with
  | none => rfl
  | some found =>
    obtain ⟨changes, mark, after⟩ := found
    by_cases colon : mark = ':'
    · subst colon
      rfl
    · cases changes <;> simp [flagOpening?, colon]

theorem local_flagGroup? : Local flagGroup? where
  suffix := by
    intro text opening rest result
    obtain ⟨⟨changes, mark, after⟩, flags, opens⟩ := Option.bind_eq_some_iff.1 result
    obtain ⟨other, -, same⟩ := Option.map_eq_some_iff.1 opens
    cases same
    exact flags?_suffix flags
  unclosed := by
    intro text opening rest result
    obtain ⟨⟨changes, mark, after⟩, flags, opens⟩ := Option.bind_eq_some_iff.1 result
    obtain ⟨other, known, same⟩ := Option.map_eq_some_iff.1 opens
    cases same
    rcases flags?_unclosed flags with spent | ⟨left, kept, read⟩
    · exact Or.inl spent
    · refine Or.inr ⟨left, kept, ?_⟩
      unfold flagGroup?
      simp only at known
      rw [read, Option.bind_some, known]
      rfl

theorem takeKind_false (kind : Char → Bool) (text : List Char) :
    takeKind false kind text = (text.takeWhile kind, text.dropWhile kind) := by
  induction text with
  | nil => rw [takeKind, List.takeWhile_nil, List.dropWhile_nil]
  | cons c text ih =>
    have rest : skip false text = text := rfl
    rw [takeKind, rest, ih, List.takeWhile_cons, List.dropWhile_cons]
    split <;> rfl

def isGroupName : List Char → Bool
  | first :: others => isNameStart first && others.all isNamePart
  | [] => false

/-- The bracket behind the name of a group. -/
def nameEnd? (name : List Char) : List Char → Reading (List Char)
  | _ :: rest => if isGroupName name then some (name, rest) else none
  | [] => none

theorem groupName?_eq (text : List Char) :
    groupName? text = (some (takeKind false (· != '>') text)).bind fun found =>
      nameEnd? found.1 found.2 := by
  unfold groupName?
  rw [takeKind_false, Option.bind_some]
  cases text.takeWhile (· != '>') with
  | nil => cases text.dropWhile (· != '>') <;> rfl
  | cons first others => cases text.dropWhile (· != '>') <;> rfl

theorem local_groupName? : Local groupName? := by
  have ends : ∀ name, Local (nameEnd? name) := by
    intro name
    refine Local.of_cons ?_ ?_ fun c => ?_
    · rintro _ _ ⟨⟩
    · intro found rest result
      have opened : nameEnd? name closing =
          if isGroupName name then some (name, ['$']) else none := rfl
      rw [opened] at result
      split at result
      · cases result
        exact Or.inl (List.suffix_refl _)
      · cases result
    · unfold nameEnd?
      split
      · exact Local.pure name
      · exact Local.none
  have same : groupName? = fun text =>
      (some (takeKind false (· != '>') text)).bind fun found => nameEnd? found.1 found.2 :=
    funext groupName?_eq
  rw [same]
  exact (local_takeKind false _).bind ends

/-! ## Parentheses -/

def looksAround (text : List Char) : Bool :=
  lookAroundMarks.any (·.isPrefixOf text)

theorem looksAround_append {text : List Char} (looks : looksAround text = true)
    (more : List Char) : looksAround (text ++ more) = true := by
  unfold looksAround at looks ⊢
  rw [List.any_eq_true] at looks ⊢
  obtain ⟨mark, known, starts⟩ := looks
  refine ⟨mark, known, ?_⟩
  rw [List.isPrefixOf_iff_prefix] at starts ⊢
  exact starts.trans (List.prefix_append text more)

/-- What follows the question mark of a group. -/
def marked? (text : List Char) : Reading Opening :=
  match text with
  | 'P' :: '<' :: rest => (groupName? rest).map fun found => (.capture (some found.1), found.2)
  | '<' :: rest => (groupName? rest).map fun found => (.capture (some found.1), found.2)
  | rest => flagGroup? rest

theorem marked?_flags {text : List Char} (unnamed : ∀ rest, text ≠ '<' :: rest)
    (no_python_name : ∀ rest, text ≠ 'P' :: '<' :: rest) : marked? text = flagGroup? text := by
  unfold marked?
  split
  · exact absurd rfl (no_python_name _)
  · exact absurd rfl (unnamed _)
  · rfl

theorem local_marked? : Local marked? := by
  have named := local_groupName?.map fun name => Opening.capture (some name)
  have python : Local fun text => marked? ('P' :: text) := by
    have no_flag : ∀ text, flagGroup? ('P' :: text) = none := fun _ => rfl
    refine Local.onFirst '<' (by decide) named Local.none (fun _ => rfl) ?_
    intro text unmarked
    rw [marked?_flags (by rintro _ ⟨⟩) ?_]
    · exact no_flag text
    · rintro rest ⟨⟩
      exact unmarked rest rfl
  have other : Local fun text =>
      if text.head? = some 'P' then marked? text else flagGroup? text := by
    refine Local.onFirst 'P' (by decide) python local_flagGroup? (fun _ => if_pos rfl) ?_
    intro text unmarked
    exact if_neg fun starts => (List.head?_eq_some_iff.1 starts).elim unmarked
  refine Local.onFirst '<' (by decide) named other (fun _ => rfl) ?_
  intro text unmarked
  split
  · rfl
  · next no_python =>
    refine marked?_flags unmarked fun rest same => no_python ?_
    rw [same]
    rfl

theorem opening?_eq (text : List Char) :
    opening? text =
      if looksAround text then none
      else
        match text with
        | '?' :: rest => marked? rest
        | rest => some (.capture none, rest) := by
  unfold opening? looksAround
  split
  · rfl
  · split
    · rfl
    · rfl
    · next no_python unnamed _ =>
      simp only
      rw [marked?_flags unnamed no_python]
      exact (flagGroup?_eq _).symm
    · next no_mark =>
      split
      · exact absurd rfl (no_mark _)
      · rfl

theorem local_opening? : Local opening? := by
  have inner : Local fun text =>
      match text with
      | '?' :: rest => marked? rest
      | rest => some (Opening.capture none, rest) := by
    refine Local.onFirst '?' (by decide) local_marked? (Local.pure (Opening.capture none))
      (fun _ => rfl) ?_
    intro text unmarked
    split
    · exact absurd rfl (unmarked _)
    · rfl
  constructor
  · intro text opening rest result
    rw [opening?_eq] at result
    split at result
    · cases result
    · exact inner.suffix result
  · intro text opening rest result
    rw [opening?_eq] at result
    split at result
    · cases result
    · next no_look =>
      have none_before : ¬ looksAround text = true := fun looks =>
        no_look (looksAround_append looks closing)
      rw [opening?_eq, if_neg none_before]
      exact inner.unclosed result

/-! ## Counts -/

/-- The brace behind the second number. -/
def lastBrace? (least greatest : Nat) (text : List Char) :
    Option ((Nat × Option Nat) × List Char) := do
  guard (least ≤ greatest)
  match text with
  | '\x7d' :: rest => some ((least, some greatest), rest)
  | _ => none

theorem local_lastBrace? (least greatest : Nat) : Local (lastBrace? least greatest) := by
  by_cases ordered : least ≤ greatest
  · have in_order : lastBrace? least greatest = fun text =>
        match text with
        | '\x7d' :: rest => some ((least, some greatest), rest)
        | _ => none := by
      funext text
      simp [lastBrace?, guard, ordered]
    rw [in_order]
    refine Local.onFirst '\x7d' (by decide) (Local.pure (least, some greatest)) Local.none
      (fun _ => rfl) ?_
    intro text unmarked
    split
    · exact absurd rfl (unmarked _)
    · rfl
  · have refused : lastBrace? least greatest = fun _ => none := by
      funext text
      simp [lastBrace?, guard, ordered]
    rw [refused]
    exact Local.none

/-- The rest of counts after their comma. -/
def mostCount? (extended : Bool) (least : Nat) (text : List Char) :
    Reading (Nat × Option Nat) :=
  match skip extended text with
  | '\x7d' :: rest => some ((least, none), rest)
  | text => (decimal? extended text).bind fun found => lastBrace? least found.1 found.2

theorem mostCount?_open {extended : Bool} {least : Nat} {text rest : List Char}
    (brace : skip extended text = '\x7d' :: rest) :
    mostCount? extended least text = some ((least, none), rest) := by
  unfold mostCount?
  simp only [brace]

theorem mostCount?_bounded {extended : Bool} {least : Nat} {text : List Char}
    (no_brace : ∀ rest, skip extended text ≠ '\x7d' :: rest) :
    mostCount? extended least text =
      (decimal? extended (skip extended text)).bind fun found =>
        lastBrace? least found.1 found.2 := by
  unfold mostCount?
  split
  · next same => exact absurd same (no_brace _)
  · rfl

theorem local_mostCount? (extended : Bool) (least : Nat) : Local (mostCount? extended least) :=
  Local.branch '\x7d' extended (by decide) (Local.pure (least, none))
    ((local_decimal? extended).bind (local_lastBrace? least))
    (fun _ _ => mostCount?_open) (fun _ => mostCount?_bounded)

/-- The rest of counts after the first number. -/
def moreCounts? (extended : Bool) (least : Nat) (text : List Char) :
    Reading (Nat × Option Nat) :=
  match text with
  | '\x7d' :: rest => some ((least, some least), rest)
  | ',' :: rest => mostCount? extended least rest
  | _ => none

theorem local_moreCounts? (extended : Bool) (least : Nat) :
    Local (moreCounts? extended least) := by
  have comma : Local fun text =>
      if text.head? = some ',' then mostCount? extended least text.tail else none := by
    refine Local.onFirst ',' (by decide) (local_mostCount? extended least) Local.none
      (fun _ => if_pos rfl) ?_
    intro text unmarked
    exact if_neg fun starts => (List.head?_eq_some_iff.1 starts).elim unmarked
  refine Local.onFirst '\x7d' (by decide) (Local.pure (least, some least)) comma (fun _ => rfl) ?_
  intro text unmarked
  unfold moreCounts?
  split
  · exact absurd rfl (unmarked _)
  · rfl
  · next no_comma =>
    exact (if_neg fun starts => (List.head?_eq_some_iff.1 starts).elim no_comma).symm

theorem counts?_eq (extended : Bool) (text : List Char) :
    counts? extended text = (decimal? extended (skip extended text)).bind fun found =>
      moreCounts? extended found.1 found.2 :=
  rfl

theorem local_counts? (extended : Bool) : Local (counts? extended) := by
  have same : counts? extended = fun text =>
      (decimal? extended (skip extended text)).bind fun found =>
        moreCounts? extended found.1 found.2 := funext (counts?_eq extended)
  rw [same]
  exact ((local_decimal? extended).skipped extended).bind (local_moreCounts? extended)

/-! ## Parts -/

/-- What one step of the parser reads. -/
inductive Part where
  | opening (opening : Opening)
  | close
  | bar
  | item (item : Expression)
  | repeated (least : Nat) (greatest : Option Nat)

def part? (extended : Bool) : List Char → Reading Part
  | '(' :: rest =>
    (opening? (skip extended rest)).map fun found => (.opening found.1, found.2)
  | ')' :: rest => some (.close, rest)
  | '|' :: rest => some (.bar, rest)
  | '[' :: rest =>
    (bracketed? extended rest).map fun found =>
      (.item (.bracketed found.1.1 found.1.2), found.2)
  | '?' :: rest => some (.repeated 0 (some 1), dropLazyMark rest)
  | '*' :: rest => some (.repeated 0 none, dropLazyMark rest)
  | '+' :: rest => some (.repeated 1 none, dropLazyMark rest)
  | '\x7b' :: rest =>
    (counts? extended rest).map fun found =>
      (.repeated found.1.1 found.1.2, dropLazyMark (skip extended found.2))
  | text => (atom? extended text).map fun found => (.item found.1.toExpression, found.2)

/-- The draft with a part added. -/
def Draft.take? (draft : Draft) : Part → Option Draft
  | .opening opening => draft.enter? opening
  | .close => draft.closeGroup?
  | .bar => some draft.nextBranch
  | .item item => some (draft.push item)
  | .repeated least greatest => draft.repeat? least greatest

theorem Draft.step_eq (draft : Draft) (text : List Char) :
    draft.step text = (part? draft.extended text).bind fun found =>
      (draft.take? found.1).map fun next => (next, found.2) := by
  unfold Draft.step
  split
  · next rest =>
    simp only [part?]
    cases opening? (skip draft.extended rest) with
    | none => rfl
    | some found =>
      simp only [Option.bind_eq_bind, Option.bind_some, Option.map_some, Draft.take?]
      cases draft.enter? found.1 <;> rfl
  · rfl
  · rfl
  · next rest =>
    simp only [part?]
    cases bracketed? draft.extended rest <;> rfl
  · rfl
  · rfl
  · rfl
  · next rest =>
    simp only [part?]
    cases counts? draft.extended rest with
    | none => rfl
    | some found =>
      simp only [Option.bind_eq_bind, Option.bind_some, Option.map_some, Draft.take?]
      cases draft.repeat? found.1.1 found.1.2 <;> rfl
  · have item : part? draft.extended text =
        (atom? draft.extended text).map fun found => (.item found.1.toExpression, found.2) := by
      unfold part?
      split <;> simp_all
    rw [item]
    cases atom? draft.extended text <;> rfl

theorem local_dropLazyMark {α : Type} {read : List Char → Reading α} (reads : Local read) :
    Local fun text => (read text).map fun found => (found.1, dropLazyMark found.2) := by
  have lazy : ∀ found : α, Local fun text => some (found, dropLazyMark text) := by
    intro found
    refine Local.onFirst '?' (by decide) (Local.pure found) (Local.pure found) (fun _ => rfl) ?_
    intro text unmarked
    unfold dropLazyMark
    split
    · exact absurd rfl (unmarked _)
    · rfl
  have same : (fun text => (read text).map fun found => (found.1, dropLazyMark found.2)) =
      fun text => (read text).bind fun found => some (found.1, dropLazyMark found.2) := by
    funext text
    cases read text <;> rfl
  rw [same]
  exact reads.bind lazy

theorem atom?_plain (extended : Bool) {c : Char} (no_escape : c ≠ '\\') :
    ∃ atom, ∀ text, atom? extended (c :: text) = some (atom, text) := by
  by_cases dot : c = '.'
  · exact ⟨.dot, fun text => by rw [dot]; rfl⟩
  by_cases start : c = '^'
  · exact ⟨.assertion .lineStart, fun text => by rw [start]; rfl⟩
  by_cases stop : c = '$'
  · exact ⟨.assertion .lineEnd, fun text => by rw [stop]; rfl⟩
  refine ⟨plainLiteral c, fun text => ?_⟩
  unfold atom?
  split <;> simp_all

/-- A part that starts with anything but a backslash. -/
theorem local_part?_cons (extended : Bool) {c : Char} (no_escape : c ≠ '\\') :
    Local fun text => part? extended (c :: text) := by
  by_cases opens : c = '('
  · subst opens
    exact (local_opening?.skipped extended).map Part.opening
  by_cases closes : c = ')'
  · subst closes
    exact Local.pure Part.close
  by_cases bar : c = '|'
  · subst bar
    exact Local.pure Part.bar
  by_cases bracket : c = '['
  · subst bracket
    exact (local_bracketed? extended).map fun found => Part.item (.bracketed found.1 found.2)
  by_cases optional : c = '?'
  · subst optional
    exact local_dropLazyMark (Local.pure (Part.repeated 0 (some 1)))
  by_cases star : c = '*'
  · subst star
    exact local_dropLazyMark (Local.pure (Part.repeated 0 none))
  by_cases plus : c = '+'
  · subst plus
    exact local_dropLazyMark (Local.pure (Part.repeated 1 none))
  by_cases brace : c = '\x7b'
  · subst brace
    have counts : Local fun text => (counts? extended text).bind fun found =>
        some (Part.repeated found.1.1 found.1.2, skip extended found.2) :=
      (local_counts? extended).bind fun found =>
        (Local.pure (Part.repeated found.1 found.2)).skipped extended
    have same : (fun text => part? extended ('\x7b' :: text)) = fun text =>
        ((counts? extended text).bind fun found =>
          some (Part.repeated found.1.1 found.1.2, skip extended found.2)).map fun found =>
            (found.1, dropLazyMark found.2) := by
      funext text
      simp only [part?]
      cases counts? extended text <;> rfl
    rw [same]
    exact local_dropLazyMark counts
  obtain ⟨atom, known⟩ := atom?_plain extended no_escape
  have plain : (fun text => part? extended (c :: text)) = fun text =>
      some (.item atom.toExpression, text) := by
    funext text
    have item : part? extended (c :: text) =
        (atom? extended (c :: text)).map fun found => (.item found.1.toExpression, found.2) := by
      unfold part?
      split <;> simp_all
    rw [item, known]
    rfl
  rw [plain]
  exact Local.pure (Part.item atom.toExpression)

theorem part?_escape (extended : Bool) (text : List Char) :
    part? extended ('\\' :: text) =
      (escape? extended text).map fun found => (.item found.1.toExpression, found.2) :=
  rfl

theorem part?_suffix {extended : Bool} {c : Char} {text rest : List Char} {part : Part}
    (result : part? extended (c :: text) = some (part, rest)) : rest <:+ text := by
  by_cases escape : c = '\\'
  · subst escape
    rw [part?_escape] at result
    obtain ⟨found, inner, same⟩ := Option.map_eq_some_iff.1 result
    cases same
    exact escape?_suffix inner
  · exact (local_part?_cons extended escape).suffix result

theorem part?_close {extended : Bool} {c : Char} {text rest : List Char}
    (result : part? extended (c :: text) = some (.close, rest)) : c = ')' := by
  unfold part? at result
  split at result
  case h_2 inner same => exact (List.cons.inj same).1
  -- No other part is an end of a group.
  all_goals simp at result

/-- A part ends within the pattern. Otherwise it closes no group and reads on into the closing
text, or it is an assertion before a brace at the end. -/
theorem part?_unclosed {extended : Bool} {c : Char} {text rest : List Char} {part : Part}
    (result : part? extended (c :: (text ++ closing)) = some (part, rest)) :
    (part ≠ .close ∧ Spent rest) ∨ ((∃ item, part = .item item) ∧ Stuck extended rest) ∨
      ∃ left, rest = left ++ closing ∧ part? extended (c :: text) = some (part, left) := by
  by_cases closes : c = ')'
  · subst closes
    cases result
    exact Or.inr (Or.inr ⟨text, rfl, rfl⟩)
  have no_close : part ≠ .close := by
    rintro rfl
    exact closes (part?_close result)
  by_cases escape : c = '\\'
  · subst escape
    rw [part?_escape] at result
    obtain ⟨found, inner, same⟩ := Option.map_eq_some_iff.1 result
    cases same
    rcases escape?_unclosed inner with spent | ⟨-, stuck⟩ | ⟨left, kept, read⟩
    · exact Or.inl ⟨no_close, spent⟩
    · exact Or.inr (Or.inl ⟨⟨_, rfl⟩, stuck⟩)
    · refine Or.inr (Or.inr ⟨left, kept, ?_⟩)
      rw [part?_escape, read]
      rfl
  · rcases (local_part?_cons extended escape).unclosed result with spent | kept
    · exact Or.inl ⟨no_close, spent⟩
    · exact Or.inr (Or.inr kept)

end TreeBundle.Pattern
