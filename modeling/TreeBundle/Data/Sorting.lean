/-!
# Sorting

A list is sorted by putting its items into their places one by one, the last one first. The
result is a permutation of the list and in order, and items of equal rank keep their order.
-/
namespace TreeBundle.Sorting
set_option autoImplicit false

variable {α : Type}

/-- Puts an item before the first one that it need not follow. -/
def place (le : α → α → Bool) (item : α) : List α → List α
  | [] => [item]
  | first :: rest =>
    if le item first then item :: first :: rest else first :: place le item rest

def sort (le : α → α → Bool) (items : List α) : List α :=
  items.foldr (place le) []

theorem perm_place (le : α → α → Bool) (item : α) (items : List α) :
    (place le item items).Perm (item :: items) := by
  induction items with
  | nil => exact List.Perm.refl _
  | cons first rest ih =>
    rw [place]
    split
    · exact List.Perm.refl _
    · exact (ih.cons first).trans (List.Perm.swap item first rest)

theorem perm_sort (le : α → α → Bool) (items : List α) : (sort le items).Perm items := by
  induction items with
  | nil => exact List.Perm.refl _
  | cons first rest ih => exact (perm_place le first (sort le rest)).trans (ih.cons first)

theorem pairwise_place {le : α → α → Bool}
    (trans : ∀ a b c, le a b = true → le b c = true → le a c = true)
    (total : ∀ a b, le a b = true ∨ le b a = true) (item : α) {items : List α}
    (ordered : items.Pairwise fun a b => le a b = true) :
    (place le item items).Pairwise fun a b => le a b = true := by
  induction items with
  | nil => exact List.pairwise_singleton _ _
  | cons first rest ih =>
    obtain ⟨least, ordered⟩ := List.pairwise_cons.1 ordered
    rw [place]
    split
    · next before =>
      refine List.pairwise_cons.2 ⟨fun other member => ?_, List.pairwise_cons.2 ⟨least, ordered⟩⟩
      rcases List.mem_cons.1 member with rfl | member
      · exact before
      · exact trans item first other before (least other member)
    · next after =>
      refine List.pairwise_cons.2 ⟨fun other member => ?_, ih ordered⟩
      rcases List.mem_cons.1 ((perm_place le item rest).mem_iff.1 member) with rfl | member
      · exact (total first other).resolve_right after
      · exact least other member

theorem pairwise_sort {le : α → α → Bool}
    (trans : ∀ a b c, le a b = true → le b c = true → le a c = true)
    (total : ∀ a b, le a b = true ∨ le b a = true) (items : List α) :
    (sort le items).Pairwise fun a b => le a b = true := by
  induction items with
  | nil => exact List.Pairwise.nil
  | cons first rest ih => exact pairwise_place trans total first ih

section Map

variable {β : Type} {read : α → β} {le : α → α → Bool} {le' : β → β → Bool}
  (same : ∀ a b, le' (read a) (read b) = le a b)

include same

theorem map_place (item : α) (items : List α) :
    (place le item items).map read = place le' (read item) (items.map read) := by
  induction items with
  | nil => rfl
  | cons first rest ih =>
    rw [place, List.map_cons, place, same]
    split
    · rfl
    · rw [List.map_cons, ih]

/-- What the order goes by can be read off before sorting. -/
theorem map_sort (items : List α) : (sort le items).map read = sort le' (items.map read) := by
  induction items with
  | nil => rfl
  | cons first rest ih =>
    have sorted : sort le (first :: rest) = place le first (sort le rest) := rfl
    rw [sorted, map_place same, ih]
    rfl

end Map

end TreeBundle.Sorting
