import TreeBundle.Proofs.FileSystem.Locate

/-!
# What lies where a lookup is refused

A path may name a file that nobody gets to see by it, because something on the way is locked or too
many links are followed. What lies there is found where nothing is locked, with as many links as it
takes. A lookup that succeeds finds just that.
-/
namespace TreeBundle
set_option autoImplicit false

namespace Node

mutual

/-- The same node, and all below it, open to everyone. -/
def unlocked : Node → Node
  | .lockedFile contents => .file contents
  | .lockedDirectory entries => .directory (unlockedEntries entries)
  | .directory entries => .directory (unlockedEntries entries)
  | node => node

def unlockedEntries : List (Bytes × Node) → List (Bytes × Node)
  | [] => []
  | (name, node) :: rest => (name, node.unlocked) :: unlockedEntries rest

end

theorem lookup_unlockedEntries (name : Bytes) (entries : NodeEntries) :
    (unlockedEntries entries).lookup name = (entries.lookup name).map unlocked := by
  induction entries with
  | nil => rfl
  | cons entry rest ih =>
    obtain ⟨other, node⟩ := entry
    rw [unlockedEntries, List.lookup_cons, List.lookup_cons, ih]
    cases name == other <;> rfl

theorem at?_unlocked {node found : Node} {place : Place} (held : node.at? place = some found) :
    node.unlocked.at? place = some found.unlocked := by
  induction place generalizing node with
  | nil =>
    obtain rfl := Option.some.inj held
    rfl
  | cons name rest ih =>
    obtain ⟨entries, child, rfl, looked_up, at_rest⟩ := directory_of_at?_cons held
    rw [unlocked, at?_directory_cons, lookup_unlockedEntries, looked_up]
    exact ih at_rest

end Node

namespace FileSystem

/-- The same files, open to everyone. -/
def unlocked (files : FileSystem) : FileSystem :=
  { files with root := files.root.unlocked }

/-- A path leads to a regular file that holds this, no matter who may look there and how many links
are on the way. -/
def FileLiesAt (files : FileSystem) (path : NativePath) (contents : Bytes) : Prop :=
  ∃ links place, files.unlocked.follow .target links
      (if path.isAbsolute then [] else files.working) (stepsOf path) =
    .ok (.found place (.file contents))

variable {files : FileSystem} {purpose : Purpose} {links : Nat} {place found : Place}
  {steps : List Step} {node : Node}

/-! ## Lookups where nothing is locked -/

/-- What a stop comes to once nothing is locked: the same, unless it was a failure. -/
inductive Stop.Unlocks : Stop → Stop → Prop where
  | found (place : Place) (node : Node) :
    Unlocks (.ended (.ok (.found place node))) (.ended (.ok (.found place node.unlocked)))
  | link (directory : Place) (target : NativePath) (rest : List Step) :
    Unlocks (.link directory target rest) (.link directory target rest)
  | failed (result : Except IoError Resolved) (other : Stop)
    (nothing : ∀ place node, result ≠ .ok (.found place node)) : Unlocks (.ended result) other

theorem unlocks_advance (files : FileSystem) (place : Place) (steps : List Step) :
    (files.advance .target place steps).Unlocks (files.unlocked.advance .target place steps) := by
  induction steps generalizing place with
  | nil =>
    rw [advance, advance]
    cases here : files.at? place with
    | none => exact .failed _ _ (by simp)
    | some node =>
      have opened : files.unlocked.at? place = some node.unlocked := Node.at?_unlocked here
      rw [opened]
      exact .found place node
  | cons step rest ih =>
    rw [advance, advance]
    cases here : files.at? place with
    | none => exact .failed _ _ (by simp)
    | some node =>
      have opened : files.unlocked.at? place = some node.unlocked := Node.at?_unlocked here
      rw [opened]
      cases node with
      | directory entries =>
        cases step with
        | stay => exact ih place
        | slash => exact ih place
        | up => exact ih place.dropLast
        | name name =>
          simp only [Node.unlocked, Node.lookup_unlockedEntries]
          cases entries.lookup name with
          | none =>
            refine .failed _ _ fun place node => ?_
            split <;> simp
          | some child =>
            cases child with
            | link target => exact .link place target rest
            | _ => exact ih (place ++ [name])
      | lockedDirectory entries =>
        cases step with
        | slash => exact ih place
        | _ => exact .failed _ _ (by simp)
      | _ => exact .failed _ _ (by simp)

/-- What a lookup finds is found where nothing is locked. -/
theorem follow_unlocked
    (followed : files.follow .target links place steps = .ok (.found found node)) :
    files.unlocked.follow .target links place steps = .ok (.found found node.unlocked) := by
  rw [← follows_iff] at followed ⊢
  induction followed with
  | @ended links place steps stops =>
    have unlocks := files.unlocks_advance place steps
    rw [stops] at unlocks
    generalize opened_stops : files.unlocked.advance .target place steps = opened at unlocks
    cases unlocks with
    | found => exact .ended opened_stops
    | failed _ _ nothing => exact absurd rfl (nothing found node)
  | @linked links place directory target steps rest stops _ ih =>
    have unlocks := files.unlocks_advance place steps
    rw [stops] at unlocks
    generalize opened_stops : files.unlocked.advance .target place steps = opened at unlocks
    cases unlocks
    exact .linked opened_stops ih

/-- How many links may be followed has no influence on what is found. -/
theorem follow_unique {more : Nat} {resolved other : Resolved}
    (followed : files.follow purpose links place steps = .ok resolved)
    (followed_too : files.follow purpose more place steps = .ok other) : other = resolved := by
  rw [← follows_iff] at followed followed_too
  induction followed generalizing more with
  | ended stops =>
    cases followed_too with
    | ended same =>
      cases stops.symm.trans same
      rfl
    | linked same => cases stops.symm.trans same
  | linked stops _ ih =>
    cases followed_too with
    | ended same => cases stops.symm.trans same
    | linked same on =>
      cases stops.symm.trans same
      exact ih on

/-- Where a lookup succeeds, it finds what lies there. -/
theorem fileLiesAt_iff_of_node {path : NativePath} {contents : Bytes}
    (looked_up : files.node path = .ok node) :
    files.FileLiesAt path contents ↔ node.unlocked = .file contents := by
  obtain ⟨place, located⟩ := locate_of_node looked_up
  have opened := follow_unlocked (follow_of_resolve (resolve_of_locate located)).2.2
  constructor
  · rintro ⟨links, other, lies⟩
    exact (Resolved.found.inj (follow_unique opened lies)).2.symm
  · intro same
    exact ⟨linkLimit, place, same ▸ opened⟩

/-- A path that follows one link again and again, once more than links are followed. -/
def longWay : NativePath :=
  .ofParts (List.replicate (linkLimit + 1) (Utf8.ofString "s"))

end FileSystem
end TreeBundle
