/-!
# Sets of strings

A set keeps its strings sorted by code points and without duplicates, so two sets with the same
members are equal.
-/
namespace TreeBundle
set_option autoImplicit false

structure StringSet where
  toList : List String
  sorted : toList.Pairwise (· < ·)
  deriving DecidableEq

namespace StringSet

/-- Puts a string into its place; one that is there already is not repeated. -/
def place (text : String) : List String → List String
  | [] => [text]
  | first :: rest =>
    if text < first then text :: first :: rest
    else if text = first then first :: rest
    else first :: place text rest

theorem mem_place {text other : String} {items : List String} :
    other ∈ place text items ↔ other = text ∨ other ∈ items := by
  induction items with
  | nil => simp [place]
  | cons first rest ih =>
    rw [place]
    split
    · simp
    · split
      · next same => subst same; simp
      · simp only [List.mem_cons, ih]
        exact ⟨fun h => by rcases h with h | h | h <;> simp [h],
          fun h => by rcases h with h | h | h <;> simp [h]⟩

theorem sorted_place {text : String} {items : List String} (h : items.Pairwise (· < ·)) :
    (place text items).Pairwise (· < ·) := by
  induction items with
  | nil => simp [place]
  | cons first rest ih =>
    rw [List.pairwise_cons] at h
    rw [place]
    split
    · next before =>
      refine List.pairwise_cons.2 ⟨fun other member => ?_, List.pairwise_cons.2 h⟩
      rcases List.mem_cons.1 member with rfl | member
      · exact before
      · exact String.lt_trans before (h.1 other member)
    · next notBefore =>
      split
      · exact List.pairwise_cons.2 h
      · next different =>
        refine List.pairwise_cons.2 ⟨fun other member => ?_, ih h.2⟩
        rcases mem_place.1 member with rfl | member
        · rcases Decidable.em (first < other) with after | notAfter
          · exact after
          · exact absurd
              (String.le_antisymm (String.not_lt.1 notAfter) (String.not_lt.1 notBefore)) different
        · exact h.1 other member

def empty : StringSet := ⟨[], List.Pairwise.nil⟩

def insert (set : StringSet) (text : String) : StringSet :=
  ⟨place text set.toList, sorted_place set.sorted⟩

def ofList (items : List String) : StringSet :=
  items.foldl insert empty

theorem mem_foldl_insert {text : String} (items : List String) (set : StringSet) :
    text ∈ (items.foldl insert set).toList ↔ text ∈ set.toList ∨ text ∈ items := by
  induction items generalizing set with
  | nil => simp
  | cons first rest ih =>
    rw [List.foldl_cons, ih]
    simp only [insert, mem_place, List.mem_cons]
    exact ⟨fun h => by rcases h with (h | h) | h <;> simp [h],
      fun h => by rcases h with h | h | h <;> simp [h]⟩

theorem mem_ofList {text : String} {items : List String} :
    text ∈ (ofList items).toList ↔ text ∈ items := by
  simp [ofList, mem_foldl_insert, empty]

end StringSet
end TreeBundle
