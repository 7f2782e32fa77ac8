import TreeBundle.Proofs.Path.NormalForm
import TreeBundle.Walk

/-!
# Visits in pre-order

The visits of a directory are its own and then those of the directories that its answer leads to,
one directory after the other in the order of the answer. An answer that is an error is the last
one. So each visit but the first has been led to by an earlier one, what is visited below a
directory comes in the order of its answer, and no directory comes twice unless an answer names it
twice.
-/
namespace TreeBundle
set_option autoImplicit false

variable {ε : Type}

/-- What a visitor was shown, and what it answered. -/
structure Visit (ε : Type) where
  listing : Listing
  answer : Except ε (List String)

namespace Visit

def position (visit : Visit ε) : String :=
  visit.listing.rel

def Answered (visit : Visit ε) : Prop :=
  ∃ names, visit.answer = .ok names

/-- Whether a name was returned that is listed and that no link has. -/
def LeadsTo (visit : Visit ε) (name : String) : Prop :=
  ∃ names, visit.answer = .ok names ∧ name ∈ names ∧
    name ∈ visit.listing.subdirs ∧ name ∉ visit.listing.linked

/-- The positions that are led to, in the order of the answer. -/
def below (visit : Visit ε) : List String :=
  match visit.answer with
  | .ok names => (names.filter visit.listing.canEnter).map (RelPath.join visit.position)
  | .error _ => []

variable {visit : Visit ε} {names : List String}

theorem below_of_ok (answer : visit.answer = .ok names) :
    visit.below = (names.filter visit.listing.canEnter).map (RelPath.join visit.position) := by
  simp only [below, answer]

theorem leadsTo_iff (answer : visit.answer = .ok names) {name : String} :
    visit.LeadsTo name ↔ name ∈ names.filter visit.listing.canEnter := by
  simp only [LeadsTo, answer, Except.ok.injEq, List.mem_filter, Listing.canEnter, Bool.and_eq_true,
    Bool.not_eq_true', List.contains_eq_mem, decide_eq_false_iff_not, decide_eq_true_eq]
  exact ⟨fun ⟨_, same, leads⟩ => same ▸ leads, fun leads => ⟨names, rfl, leads⟩⟩

theorem mem_below_iff {position : String} :
    position ∈ visit.below ↔
      ∃ name, visit.LeadsTo name ∧ position = RelPath.join visit.position name := by
  cases answer : visit.answer with
  | ok names =>
    simp only [below_of_ok answer, leadsTo_iff answer, List.mem_map, eq_comm]
  | error problem =>
    simp [below, LeadsTo, answer]

end Visit

/-- The visits of some directories one after the other, each directory before those below it. They
stop at the first answer that is an error. -/
inductive PreOrder : List String → List (Visit ε) → Option ε → Prop where
  | nothing : PreOrder [] [] none
  | fails {dir : String} {dirs : List String} {visit : Visit ε} {problem : ε}
      (here : visit.position = dir) (answer : visit.answer = .error problem) :
      PreOrder (dir :: dirs) [visit] (some problem)
  | failsBelow {dir : String} {dirs : List String} {visit : Visit ε} {inside : List (Visit ε)}
      {problem : ε} (here : visit.position = dir) (answered : visit.Answered)
      (order : PreOrder visit.below inside (some problem)) :
      PreOrder (dir :: dirs) (visit :: inside) (some problem)
  | goesOn {dir : String} {dirs : List String} {visit : Visit ε} {inside rest : List (Visit ε)}
      {stop : Option ε} (here : visit.position = dir) (answered : visit.Answered)
      (order : PreOrder visit.below inside none) (others : PreOrder dirs rest stop) :
      PreOrder (dir :: dirs) (visit :: (inside ++ rest)) stop

namespace PreOrder

variable {dir : String} {dirs : List String} {visits front back : List (Visit ε)} {visit : Visit ε}
  {stop : Option ε} {problem : ε}

theorem cons {rest : List (Visit ε)} (first : PreOrder [dir] visits none)
    (others : PreOrder dirs rest stop) : PreOrder (dir :: dirs) (visits ++ rest) stop := by
  cases first with
  | goesOn here answered order none_left =>
    cases none_left
    rw [List.append_nil, List.cons_append]
    exact .goesOn here answered order others

theorem cons_of_failed (first : PreOrder [dir] visits (some problem)) (dirs : List String) :
    PreOrder (dir :: dirs) visits (some problem) := by
  cases first with
  | fails here answer => exact .fails here answer
  | failsBelow here answered order => exact .failsBelow here answered order
  | goesOn here answered order none_left => cases none_left

/-- A visit that was answered comes before whatever is visited below it. -/
theorem of_below (answered : visit.Answered) (inside : PreOrder visit.below visits stop) :
    PreOrder [visit.position] (visit :: visits) stop := by
  cases stop with
  | none =>
    have order := PreOrder.goesOn rfl answered inside .nothing
    rwa [List.append_nil] at order
  | some problem => exact .failsBelow rfl answered inside

/-! ## Answers -/

/-- Without a failure each visit was answered; otherwise all but the last, whose answer is it. -/
theorem answers (order : PreOrder dirs visits stop) :
    (stop = none ∧ ∀ visit ∈ visits, visit.Answered) ∨
      ∃ problem front last, stop = some problem ∧ visits = front ++ [last] ∧
        last.answer = .error problem ∧ ∀ visit ∈ front, visit.Answered := by
  induction order with
  | nothing => exact .inl ⟨rfl, by simp⟩
  | @fails _ _ visit problem _ answer => exact .inr ⟨problem, [], visit, rfl, rfl, answer, by simp⟩
  | @failsBelow _ _ visit _ _ _ answered _ ih =>
    obtain ⟨problem, front, last, same, rfl, answer, before⟩ := ih.resolve_left (by simp)
    exact .inr ⟨problem, visit :: front, last, same, rfl, answer,
      List.forall_mem_cons.2 ⟨answered, before⟩⟩
  | @goesOn _ _ visit inside _ _ _ answered _ _ ih others_ih =>
    have inside_answered := (ih.resolve_right (by simp)).2
    rcases others_ih with ⟨rfl, rest_answered⟩ | ⟨problem, front, last, rfl, rfl, answer, before⟩
    · exact .inl ⟨rfl, List.forall_mem_cons.2
        ⟨answered, List.forall_mem_append.2 ⟨inside_answered, rest_answered⟩⟩⟩
    · refine .inr ⟨problem, visit :: (inside ++ front), last, rfl, by simp, answer, ?_⟩
      exact List.forall_mem_cons.2
        ⟨answered, List.forall_mem_append.2 ⟨inside_answered, before⟩⟩

/-! ## Where visits come from -/

/-- A visit in one of two lists stands in the first one or in the second one. -/
theorem split_append {inside rest : List (Visit ε)}
    (split : inside ++ rest = front ++ visit :: back) :
    (∃ more, inside = front ++ visit :: more ∧ back = more ++ rest) ∨
      ∃ before, front = inside ++ before ∧ rest = before ++ visit :: back := by
  rcases List.append_eq_append_iff.1 split with ⟨before, rfl, rest_eq⟩ | ⟨more, rfl, back_eq⟩
  · exact .inr ⟨before, rfl, rest_eq⟩
  · cases more with
    | nil => exact .inr ⟨[], by simp, back_eq.symm⟩
    | cons first more =>
      obtain ⟨rfl, rfl⟩ := List.cons.inj back_eq
      exact .inl ⟨more, rfl, rfl⟩

/-- Whatever is visited was asked for at first, or an earlier visit led to it. -/
theorem led_to (order : PreOrder dirs visits stop) (split : visits = front ++ visit :: back) :
    visit.position ∈ dirs ∨ ∃ parent ∈ front, visit.position ∈ parent.below := by
  induction order generalizing front back with
  | nothing => simp at split
  | fails here _ =>
    cases front with
    | nil =>
      obtain ⟨rfl, -⟩ := List.cons.inj split
      exact .inl (List.mem_cons.2 (.inl here))
    | cons first front => simp at split
  | failsBelow here _ _ ih =>
    cases front with
    | nil =>
      obtain ⟨rfl, -⟩ := List.cons.inj split
      exact .inl (List.mem_cons.2 (.inl here))
    | cons first front =>
      obtain ⟨rfl, behind⟩ := List.cons.inj split
      rcases ih behind with led | ⟨parent, member, led⟩
      · exact .inr ⟨_, List.mem_cons_self, led⟩
      · exact .inr ⟨parent, List.mem_cons_of_mem _ member, led⟩
  | @goesOn _ _ _ inside rest _ here _ _ _ ih others_ih =>
    cases front with
    | nil =>
      obtain ⟨rfl, -⟩ := List.cons.inj split
      exact .inl (List.mem_cons.2 (.inl here))
    | cons first front =>
      obtain ⟨rfl, behind⟩ := List.cons.inj split
      rcases split_append behind with ⟨more, within, -⟩ | ⟨before, rfl, beyond⟩
      · rcases ih within with led | ⟨parent, member, led⟩
        · exact .inr ⟨_, List.mem_cons_self, led⟩
        · exact .inr ⟨parent, List.mem_cons_of_mem _ member, led⟩
      · rcases others_ih beyond with asked | ⟨parent, member, led⟩
        · exact .inl (List.mem_cons_of_mem _ asked)
        · exact .inr ⟨parent, List.mem_cons_of_mem _ (List.mem_append_right _ member), led⟩

/-- The first visit is that of the one directory asked for, and leads to all others. -/
theorem exists_first (order : PreOrder [dir] visits stop) :
    ∃ first others, visits = first :: others ∧ first.position = dir ∧
      ∀ front visit back, others = front ++ visit :: back →
        ∃ parent ∈ first :: front, visit.position ∈ parent.below := by
  have later : ∀ {first : Visit ε} {inside : List (Visit ε)} {stop : Option ε},
      PreOrder first.below inside stop → ∀ front visit back, inside = front ++ visit :: back →
        ∃ parent ∈ first :: front, visit.position ∈ parent.below := by
    intro first inside stop order front visit back split
    rcases order.led_to split with led | ⟨parent, member, led⟩
    · exact ⟨first, List.mem_cons_self, led⟩
    · exact ⟨parent, List.mem_cons_of_mem _ member, led⟩
  cases order with
  | fails here _ => exact ⟨_, [], rfl, here, fun front visit back split => by simp at split⟩
  | failsBelow here _ order => exact ⟨_, _, rfl, here, later order⟩
  | goesOn here _ order none_left =>
    cases none_left
    rw [List.append_nil]
    exact ⟨_, _, rfl, here, later order⟩

/-! ## Where visits lead -/

/-- The directories asked for are visited in their order, as far as it goes: all of them without a
failure. -/
theorem exists_visited (order : PreOrder dirs visits stop) :
    ∃ visited left, dirs = visited ++ left ∧ visited.Sublist (visits.map Visit.position) ∧
      (stop = none → left = []) := by
  induction order with
  | nothing => exact ⟨[], [], rfl, List.Sublist.refl _, fun _ => rfl⟩
  | @fails dir dirs _ _ here _ =>
    exact ⟨[dir], dirs, rfl, by simp [here], fun done => by cases done⟩
  | @failsBelow dir dirs _ _ _ here _ _ _ =>
    exact ⟨[dir], dirs, rfl, by simp [here], fun done => by cases done⟩
  | @goesOn dir _ _ _ _ _ here _ _ _ _ others_ih =>
    obtain ⟨visited, left, rfl, in_order, all⟩ := others_ih
    refine ⟨dir :: visited, left, rfl, ?_, all⟩
    rw [List.map_cons, List.map_append, here]
    exact (in_order.trans (List.sublist_append_right _ _)).cons_cons dir

/-- Behind a visit the directories that it leads to come in the order of its answer, all of them
without a failure. -/
theorem exists_visited_below (order : PreOrder dirs visits stop)
    (split : visits = front ++ visit :: back) :
    ∃ visited left, visit.below = visited ++ left ∧ visited.Sublist (back.map Visit.position) ∧
      (stop = none → left = []) := by
  induction order generalizing front back with
  | nothing => simp at split
  | @fails _ _ parent _ _ answer =>
    cases front with
    | nil =>
      obtain ⟨rfl, rfl⟩ := List.cons.inj split
      exact ⟨[], [], by simp [Visit.below, answer], List.Sublist.refl _, fun _ => rfl⟩
    | cons first front => simp at split
  | failsBelow _ _ order ih =>
    cases front with
    | nil =>
      obtain ⟨rfl, rfl⟩ := List.cons.inj split
      exact order.exists_visited
    | cons first front =>
      obtain ⟨rfl, behind⟩ := List.cons.inj split
      exact ih behind
  | @goesOn _ _ _ inside rest _ _ _ order _ ih others_ih =>
    cases front with
    | nil =>
      obtain ⟨rfl, rfl⟩ := List.cons.inj split
      obtain ⟨visited, left, below_eq, in_order, all⟩ := order.exists_visited
      rw [List.map_append]
      exact ⟨visited, left, below_eq, in_order.trans (List.sublist_append_left _ _),
        fun _ => all rfl⟩
    | cons first front =>
      obtain ⟨rfl, behind⟩ := List.cons.inj split
      rcases split_append behind with ⟨more, within, rfl⟩ | ⟨before, rfl, beyond⟩
      · obtain ⟨visited, left, below_eq, in_order, all⟩ := ih within
        rw [List.map_append]
        exact ⟨visited, left, below_eq, in_order.trans (List.sublist_append_left _ _),
          fun _ => all rfl⟩
      · exact others_ih beyond

/-! ## Positions

A plain name leads to one part more, so the parts of a directory come first in those of all that is
visited below it. Directories of which neither lies below the other have nothing below them in
common.
-/

def PlainNames (visit : Visit ε) : Prop :=
  ∀ name, visit.LeadsTo name → RelPath.IsPlain name.toList

def Apart (left right : String) : Prop :=
  ¬RelPath.parts left <+: RelPath.parts right ∧ ¬RelPath.parts right <+: RelPath.parts left

/-- What lies below a directory that a visit leads to lies below the visit's own, and is another. -/
theorem below_of_led {position : String} {parts : List RelPath.Component}
    (plain : PlainNames visit) (led : position ∈ visit.below)
    (comes_first : RelPath.parts position <+: parts) :
    RelPath.parts visit.position <+: parts ∧ RelPath.parts visit.position ≠ parts := by
  obtain ⟨name, leads, rfl⟩ := Visit.mem_below_iff.1 led
  rw [RelPath.parts_join_of_plain (plain name leads)] at comes_first
  refine ⟨(List.prefix_append _ _).trans comes_first, fun same => ?_⟩
  have longer := comes_first.length_le
  rw [← same, List.length_append, List.length_singleton] at longer
  omega

theorem not_prefix_of_ne {base name other : String} (plain : RelPath.IsPlain name.toList)
    (other_plain : RelPath.IsPlain other.toList) (different : name ≠ other) :
    ¬RelPath.parts (RelPath.join base name) <+: RelPath.parts (RelPath.join base other) := by
  rw [RelPath.parts_join_of_plain plain, RelPath.parts_join_of_plain other_plain]
  intro comes_first
  have same := comes_first.eq_of_length (by simp)
  exact different (String.toList_inj.1 (List.cons.inj (List.append_cancel_left same)).1)

/-- An answer that names nothing twice leads to directories that are apart. -/
theorem pairwise_apart_below (plain : PlainNames visit)
    (once : ∀ names, visit.answer = .ok names → names.Nodup) : visit.below.Pairwise Apart := by
  cases answer : visit.answer with
  | error problem => simp [Visit.below, answer]
  | ok names =>
    rw [Visit.below_of_ok answer]
    refine List.pairwise_map.2 (((once names answer).filter _).imp_of_mem ?_)
    intro name other inside other_inside different
    have name_plain := plain name ((Visit.leadsTo_iff answer).2 inside)
    have other_plain := plain other ((Visit.leadsTo_iff answer).2 other_inside)
    exact ⟨not_prefix_of_ne name_plain other_plain different,
      not_prefix_of_ne other_plain name_plain different.symm⟩

/-- What is visited lies below a directory that was asked for. -/
theorem exists_prefix (order : PreOrder dirs visits stop)
    (plain : ∀ visit ∈ visits, PlainNames visit) :
    ∀ visit ∈ visits, ∃ dir ∈ dirs, RelPath.parts dir <+: RelPath.parts visit.position := by
  induction order with
  | nothing => simp
  | @fails dir _ _ _ here _ =>
    intro visit member
    rw [List.mem_singleton.1 member, here]
    exact ⟨dir, List.mem_cons_self, List.prefix_refl _⟩
  | @failsBelow dir _ _ _ _ here _ _ ih =>
    obtain ⟨parent_plain, inside_plain⟩ := List.forall_mem_cons.1 plain
    subst here
    refine List.forall_mem_cons.2 ⟨⟨_, List.mem_cons_self, List.prefix_refl _⟩, ?_⟩
    intro visit member
    obtain ⟨dir, led, below⟩ := ih inside_plain visit member
    exact ⟨_, List.mem_cons_self, (below_of_led parent_plain led below).1⟩
  | goesOn here _ _ _ ih others_ih =>
    obtain ⟨parent_plain, both_plain⟩ := List.forall_mem_cons.1 plain
    obtain ⟨inside_plain, rest_plain⟩ := List.forall_mem_append.1 both_plain
    subst here
    refine List.forall_mem_cons.2 ⟨⟨_, List.mem_cons_self, List.prefix_refl _⟩, ?_⟩
    refine List.forall_mem_append.2 ⟨fun visit member => ?_, fun visit member => ?_⟩
    · obtain ⟨dir, led, below⟩ := ih inside_plain visit member
      exact ⟨_, List.mem_cons_self, (below_of_led parent_plain led below).1⟩
    · obtain ⟨dir, asked, below⟩ := others_ih rest_plain visit member
      exact ⟨dir, List.mem_cons_of_mem _ asked, below⟩

/-- A directory does not come again among those that are visited below it. -/
theorem not_mem_inside {parent : Visit ε} {inside : List (Visit ε)}
    (order : PreOrder parent.below inside stop) (parent_plain : PlainNames parent)
    (plain : ∀ visit ∈ inside, PlainNames visit) :
    parent.position ∉ inside.map Visit.position := by
  intro again
  obtain ⟨visit, member, same⟩ := List.mem_map.1 again
  obtain ⟨dir, led, below⟩ := order.exists_prefix plain visit member
  exact (below_of_led parent_plain led below).2 (congrArg RelPath.parts same.symm)

/-- What is visited below a directory is not visited below others that are apart from it. -/
theorem not_below_apart (order : PreOrder dirs visits stop)
    (plain : ∀ visit ∈ visits, PlainNames visit) (apart : ∀ other ∈ dirs, Apart dir other)
    {position : String} (below : RelPath.parts dir <+: RelPath.parts position) :
    position ∉ visits.map Visit.position := by
  intro again
  obtain ⟨visit, member, rfl⟩ := List.mem_map.1 again
  obtain ⟨other, asked, other_below⟩ := order.exists_prefix plain visit member
  exact (List.prefix_or_prefix_of_prefix below other_below).elim (apart other asked).1
    (apart other asked).2

theorem nodup_positions (order : PreOrder dirs visits stop)
    (plain : ∀ visit ∈ visits, PlainNames visit)
    (once : ∀ visit ∈ visits, ∀ names, visit.answer = .ok names → names.Nodup)
    (apart : dirs.Pairwise Apart) : (visits.map Visit.position).Nodup := by
  induction order with
  | nothing => exact List.nodup_nil
  | fails _ _ => simp
  | failsBelow _ _ order ih =>
    obtain ⟨parent_plain, inside_plain⟩ := List.forall_mem_cons.1 plain
    obtain ⟨parent_once, inside_once⟩ := List.forall_mem_cons.1 once
    exact List.nodup_cons.2 ⟨order.not_mem_inside parent_plain inside_plain,
      ih inside_plain inside_once (pairwise_apart_below parent_plain parent_once)⟩
  | @goesOn _ _ _ inside rest _ here _ order others ih others_ih =>
    obtain ⟨parent_plain, both_plain⟩ := List.forall_mem_cons.1 plain
    obtain ⟨inside_plain, rest_plain⟩ := List.forall_mem_append.1 both_plain
    obtain ⟨parent_once, both_once⟩ := List.forall_mem_cons.1 once
    obtain ⟨inside_once, rest_once⟩ := List.forall_mem_append.1 both_once
    obtain ⟨parent_apart, others_apart⟩ := List.pairwise_cons.1 apart
    subst here
    have inside_nodup := ih inside_plain inside_once (pairwise_apart_below parent_plain parent_once)
    have rest_nodup := others_ih rest_plain rest_once others_apart
    rw [List.map_cons, List.map_append, List.nodup_cons, List.mem_append, not_or]
    refine ⟨⟨order.not_mem_inside parent_plain inside_plain,
      others.not_below_apart rest_plain parent_apart (List.prefix_refl _)⟩, ?_⟩
    refine List.nodup_append.2 ⟨inside_nodup, rest_nodup, ?_⟩
    intro position member other again same
    obtain ⟨visit, inside_member, rfl⟩ := List.mem_map.1 member
    obtain ⟨dir, led, below⟩ := order.exists_prefix inside_plain visit inside_member
    exact others.not_below_apart rest_plain parent_apart (below_of_led parent_plain led below).1
      (same ▸ again)

end PreOrder
end TreeBundle
