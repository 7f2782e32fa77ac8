import Mathlib.Logic.Relation
import TreeBundle.Proofs.Pack.Record

/-!
# The directories that a walk reaches

A walk goes from the root on to the subdirectories that it enters, under whatever paths their
names make up. In any tree, what it writes are the files that it chooses from the listings of the
directories that it reaches.
-/
namespace TreeBundle.PackJob
set_option autoImplicit false

variable {σ δ : Type}

/-- Whether the walk goes on from one directory to another. -/
def Enters (job : PackJob σ δ) (files : FileSystem) (dir below : String) : Prop :=
  ∃ name ∈ job.entered (job.listing files dir), below = RelPath.join dir name

/-- Whether the walk reaches a directory from the root. -/
def Reaches (job : PackJob σ δ) (files : FileSystem) (rel : String) : Prop :=
  Relation.ReflTransGen (job.Enters files) RelPath.root rel

/-- Whether the walk comes to a path and writes the file there. -/
def WalksTo (job : PackJob σ δ) (files : FileSystem) (rel : String) : Prop :=
  ∃ dir name, job.Reaches files dir ∧ name ∈ job.chosenIn files (job.listing files dir) ∧
    rel = RelPath.join dir name

variable {job : PackJob σ δ} {files : FileSystem} {out : σ} {diag : δ}

theorem normalize_of_reaches {rel : String} (reached : job.Reaches files rel) :
    RelPath.normalize rel = rel := by
  induction reached with
  | refl => rfl
  | tail _ enters _ =>
    obtain ⟨name, -, rfl⟩ := enters
    exact RelPath.normalize_normalize _

theorem exists_reached_of_mem_walked {depth : Nat} {dir rel : String}
    (member : rel ∈ job.walked files depth dir) :
    ∃ below name, Relation.ReflTransGen (job.Enters files) dir below ∧
      name ∈ job.chosenIn files (job.listing files below) ∧ rel = RelPath.join below name := by
  induction depth generalizing dir with
  | zero => cases member
  | succ depth ih =>
    rw [walked, List.mem_append] at member
    rcases member with member | member
    · obtain ⟨name, chosen, rfl⟩ := List.mem_map.1 member
      exact ⟨dir, name, .refl, chosen, rfl⟩
    · obtain ⟨next, entered, member⟩ := List.mem_flatMap.1 member
      obtain ⟨below, name, reached, chosen, same⟩ := ih member
      exact ⟨below, name, .head ⟨next, entered, rfl⟩ reached, chosen, same⟩

/-- A walk that ends has come to all that it reaches. -/
theorem mem_walked_of_reached {depth : Nat} {dir below name : String}
    (ends : job.endsWithin files depth dir = true)
    (reached : Relation.ReflTransGen (job.Enters files) dir below)
    (chosen : name ∈ job.chosenIn files (job.listing files below)) :
    RelPath.join below name ∈ job.walked files depth dir := by
  induction depth generalizing dir with
  | zero => cases ends
  | succ depth ih =>
    rw [walked, List.mem_append]
    rcases reached.cases_head with rfl | ⟨_, ⟨next, entered, rfl⟩, reached⟩
    · exact Or.inl (List.mem_map_of_mem chosen)
    · rw [endsWithin, List.all_eq_true] at ends
      exact Or.inr (List.mem_flatMap.2 ⟨next, entered, ih (ends next entered) reached⟩)

theorem mem_firstPass_iff_walksTo {depth : Nat} {rel : String}
    (ends : job.endsWithin files depth RelPath.root = true) :
    rel ∈ job.firstPass files ↔ job.WalksTo files rel := by
  rw [firstPass_of_ends ends]
  constructor
  · exact exists_reached_of_mem_walked
  · rintro ⟨dir, name, reached, chosen, rfl⟩
    exact mem_walked_of_reached ends reached chosen

end TreeBundle.PackJob
