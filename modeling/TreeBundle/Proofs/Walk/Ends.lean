import Mathlib.Data.List.Dedup
import Mathlib.Logic.Relation
import Mathlib.Order.WellFounded
import TreeBundle.Proofs.FileSystem.LinkBound
import TreeBundle.Proofs.FileSystem.Listing
import TreeBundle.Proofs.Pack.Contents
import TreeBundle.Proofs.Walk.Outcome

/-!
# Which walks end

A walk goes on from a directory under a path that is made up from the directory's own and a name.
It ends for all visitors exactly if no endless path can be made up that way. A name without a
backslash leads to a directory further down, which no link stands for. A name with backslashes may
lead elsewhere: as long as it leads down, only so many links can be passed on the way; but it may
lead back up, and one that stands for nothing leads to the directory that it was found in.
-/
namespace TreeBundle
set_option autoImplicit false

namespace RelPath

/-- A name stands for some components, and does not lead up. -/
def LeadsDown (name : String) : Prop :=
  parts name ≠ [] ∧ up ∉ parts name

theorem leadsDown_of_plain {name : String} (plain : IsPlain name.toList) : LeadsDown name := by
  have single := parts_of_plain plain
  refine ⟨by simp [single], ?_⟩
  rw [single, List.mem_singleton]
  exact plain.2.2.1.symm

end RelPath

section Visitors

variable {σ ε : Type}

/-- The same files are there to be listed at any time. -/
def Visitor.Shows (visitor : Visitor σ ε) (files : FileSystem) : Prop :=
  ∀ state, visitor.files state = files

/-- A visitor goes on with some of the subdirectories that are listed, with none of them twice. -/
def Visitor.PicksListed (visitor : Visitor σ ε) : Prop :=
  ∀ state listing names, (visitor.visit state listing).2 = .ok names →
    names.Nodup ∧ ∀ name ∈ names, name ∈ listing.subdirs

/-- Goes on with all subdirectories. -/
def Visitor.everything (files : FileSystem) : Visitor Unit Empty where
  files _ := files
  note state _ := state
  visit state listing := (state, .ok listing.subdirs.dedup)

end Visitors

namespace FileSystem

variable {files : FileSystem} {root : NativePath} {dir below name : String}

/-- Whether a name of a directory can be entered. -/
def CanEnter (files : FileSystem) (root : NativePath) (dir name : String) : Prop :=
  (files.list (root.join (.ofRelative dir)) dir).1.canEnter name = true

/-- Whether a walk can go on from one directory to another. -/
def Descends (files : FileSystem) (root : NativePath) (dir below : String) : Prop :=
  ∃ name, files.CanEnter root dir name ∧ below = RelPath.join dir name

/-- Whether a walk can reach a directory. -/
def Reaches (files : FileSystem) (root : NativePath) (dir : String) : Prop :=
  Relation.ReflTransGen (files.Descends root) RelPath.root dir

/-- Every walk ends, whatever the visitor picks of what is listed. -/
def WalkEnds (files : FileSystem) (root : NativePath) : Prop :=
  ∀ (σ ε : Type) (visitor : Visitor σ ε), visitor.Shows files → visitor.PicksListed →
    ∀ state, ∃ depth, walk visitor root depth state ≠ .tooDeep

/-- Nothing can be entered from a directory after so many steps down. -/
def EndsWithin (files : FileSystem) (root : NativePath) : Nat → String → Prop
  | 0, _ => False
  | depth + 1, dir =>
    ∀ name, files.CanEnter root dir name → EndsWithin files root depth (RelPath.join dir name)

theorem EndsWithin.mono {depth larger : Nat} (ends : files.EndsWithin root depth dir)
    (le : depth ≤ larger) : files.EndsWithin root larger dir := by
  induction depth generalizing dir larger with
  | zero => exact ends.elim
  | succ depth ih =>
    obtain ⟨larger, rfl⟩ : ∃ above, larger = above + 1 := ⟨larger - 1, by omega⟩
    intro name enters
    exact ih (ends name enters) (by omega)

/-! ## Walks of a given depth -/

/-- No walk goes deeper than directories can be entered. -/
theorem walkFrom_ne_tooDeep {σ ε : Type} {visitor : Visitor σ ε} {depth : Nat}
    (shows_files : visitor.Shows files) (ends : files.EndsWithin root depth dir) (state : σ) :
    walkFrom visitor root depth dir state ≠ .tooDeep := by
  induction depth generalizing dir state with
  | zero => exact ends.elim
  | succ depth ih =>
    rw [walkFrom, shows_files]
    generalize visitor.visit (visitor.note state (files.list (root.join (.ofRelative dir)) dir).2)
      (files.list (root.join (.ofRelative dir)) dir).1 = visited
    obtain ⟨state, result⟩ := visited
    cases result with
    | error problem => simp
    | ok names =>
      refine WalkOutcome.foldl_ne_tooDeep (fun name member state => ?_) state
      have enters : files.CanEnter root dir name := (List.mem_filter.1 member).2
      exact ih (ends name enters) state

theorem mem_everything (listing : Listing) (enters : listing.canEnter name = true) :
    name ∈ listing.subdirs.dedup.filter listing.canEnter := by
  refine List.mem_filter.2 ⟨?_, enters⟩
  simp only [Listing.canEnter, Bool.and_eq_true, List.contains_iff_mem] at enters
  exact List.mem_dedup.2 enters.1

/-- Going on with all subdirectories is as deep as it gets. -/
theorem walkFrom_everything {depth : Nat} (endless : ¬files.EndsWithin root depth dir) :
    walkFrom (.everything files) root depth dir () = .tooDeep := by
  induction depth generalizing dir with
  | zero => rfl
  | succ depth ih =>
    simp only [EndsWithin, not_forall] at endless
    obtain ⟨name, enters, endless⟩ := endless
    have too_deep := ih endless
    have member := mem_everything _ enters
    rw [walkFrom]
    simp only [Visitor.everything] at too_deep ⊢
    generalize List.filter _ _ = names at member
    -- With nothing to fail, each subdirectory before this one is gone through, or is too deep.
    induction names with
    | nil => cases member
    | cons other names on =>
      rw [List.foldl_cons, WalkOutcome.andThen]
      rcases List.mem_cons.1 member with rfl | member
      · rw [too_deep]
        exact WalkOutcome.foldl_tooDeep
      · generalize walkFrom _ root depth (RelPath.join dir other) () = outcome
        cases outcome with
        | done => exact on member
        | failed _ problem => exact problem.elim
        | tooDeep => exact WalkOutcome.foldl_tooDeep

/-! ## Endless paths -/

/-- A directory has only so many names, so the walks below it have a common bound. -/
theorem exists_endsWithin_of_names (names : List String)
    (ends : ∀ name ∈ names, ∃ depth, files.EndsWithin root depth (RelPath.join dir name)) :
    ∃ depth, ∀ name ∈ names, files.EndsWithin root depth (RelPath.join dir name) := by
  induction names with
  | nil => exact ⟨0, by simp⟩
  | cons first names ih =>
    obtain ⟨depth, first_ends⟩ := ends first List.mem_cons_self
    obtain ⟨larger, rest_ends⟩ := ih fun name member => ends name (List.mem_cons_of_mem _ member)
    refine ⟨max depth larger, fun name member => ?_⟩
    rcases List.mem_cons.1 member with rfl | member
    · exact first_ends.mono (Nat.le_max_left _ _)
    · exact (rest_ends name member).mono (Nat.le_max_right _ _)

theorem exists_endsWithin_iff_acc :
    (∃ depth, files.EndsWithin root depth dir) ↔
      Acc (fun below dir => files.Descends root dir below) dir := by
  constructor
  · rintro ⟨depth, ends⟩
    induction depth generalizing dir with
    | zero => exact ends.elim
    | succ depth ih =>
      refine ⟨dir, ?_⟩
      rintro _ ⟨name, enters, rfl⟩
      exact ih (ends name enters)
  · intro accessible
    induction accessible with
    | intro dir _ ih =>
      let listing := (files.list (root.join (.ofRelative dir)) dir).1
      have each : ∀ name ∈ listing.subdirs.dedup.filter listing.canEnter,
          ∃ depth, files.EndsWithin root depth (RelPath.join dir name) :=
        fun name member => ih _ ⟨name, (List.mem_filter.1 member).2, rfl⟩
      obtain ⟨depth, ends⟩ := exists_endsWithin_of_names _ each
      exact ⟨depth + 1, fun name enters => ends name (mem_everything _ enters)⟩

theorem picksListed_everything : (Visitor.everything files).PicksListed := by
  rintro state listing names ⟨⟩
  exact ⟨List.nodup_dedup _, fun name member => List.mem_dedup.1 member⟩

/-- Walks end exactly if they have a common bound. -/
theorem walkEnds_iff_exists_endsWithin :
    files.WalkEnds root ↔ ∃ depth, files.EndsWithin root depth RelPath.root := by
  constructor
  · intro ends
    obtain ⟨depth, not_too_deep⟩ :=
      ends Unit Empty (.everything files) (fun _ => rfl) picksListed_everything ()
    refine ⟨depth, ?_⟩
    by_contra endless
    exact not_too_deep (walkFrom_everything endless)
  · rintro ⟨depth, ends⟩ σ ε visitor shows_files - state
    exact ⟨depth, walkFrom_ne_tooDeep shows_files ends state⟩

theorem walkEnds_iff_acc :
    files.WalkEnds root ↔ Acc (fun below dir => files.Descends root dir below) RelPath.root :=
  walkEnds_iff_exists_endsWithin.trans exists_endsWithin_iff_acc

/-! ## Names that lead down -/

theorem normalize_of_reaches (reached : files.Reaches root dir) : RelPath.normalize dir = dir := by
  cases reached with
  | refl => rfl
  | tail _ descends =>
    obtain ⟨name, -, rfl⟩ := descends
    exact RelPath.normalize_normalize _

/-- A directory that something can be entered from lies where its path leads. -/
theorem exists_located_of_canEnter (enters : files.CanEnter root dir name) :
    ∃ place entries, files.directoryEntries (root.join (.ofRelative dir)) = .ok entries ∧
      files.locate .target (root.join (.ofRelative dir)) = .ok (place, .directory entries) := by
  have listed : name ∈ (files.list (root.join (.ofRelative dir)) dir).1.subdirs :=
    List.contains_iff_mem.1 (Bool.and_eq_true_iff.1 enters).1
  obtain ⟨child, inside, -⟩ := (mem_subdirs_iff rfl).1 listed
  have nonempty := List.ne_nil_of_mem inside
  have found := entries_of_listable nonempty rfl
  obtain ⟨place, located⟩ := locate_of_entries nonempty found
  exact ⟨place, _, found, located⟩

theorem mem_of_canEnter (proper : files.Proper) (enters : files.CanEnter root dir name) :
    ∃ place entries below, files.at? place = some (.directory entries) ∧
      (Utf8.ofString name, below) ∈ entries := by
  obtain ⟨place, entries, found, located⟩ := exists_located_of_canEnter enters
  have here := at?_of_locate (by simp) located
  have entries_proper : ProperEntries entries := proper place entries here
  obtain ⟨below, looked_up, -⟩ :=
    (canEnter_iff entries_proper.unique (listable_of_entries found)).1 enters
  exact ⟨place, entries, below, here, Node.mem_of_lookup looked_up⟩

theorem isEntryName_of_canEnter (proper : files.Proper) (enters : files.CanEnter root dir name) :
    IsEntryName (Utf8.ofString name) := by
  obtain ⟨place, entries, below, here, member⟩ := mem_of_canEnter proper enters
  exact (proper place entries here).names _ member

theorem no_backslash_of_canEnter (proper : files.Proper) (no_backslash : files.NoBackslash)
    (enters : files.CanEnter root dir name) : '\\' ∉ name.toList := by
  obtain ⟨place, entries, below, here, member⟩ := mem_of_canEnter proper enters
  exact fun inside => no_backslash place entries here _ member (byte_mem_ofString rfl inside)

/-- A directory that something can be entered from has a path with few parts, if it does not lead
up. -/
theorem length_parts_le (normal : RelPath.normalize dir = dir)
    (no_up : RelPath.up ∉ RelPath.parts dir) (enters : files.CanEnter root dir name) :
    (RelPath.parts dir).length ≤ (linkLimit + 1) * files.root.size := by
  obtain ⟨place, entries, -, located⟩ := exists_located_of_canEnter enters
  have proper := NativePath.isPart_of_parts dir
  have encoded_no_up := mt NativePath.up_mem_map_encode.1 no_up
  rw [NativePath.ofRelative_eq normal] at located
  have few := length_le_of_locate (by simp) proper encoded_no_up located
  rwa [List.length_map] at few

/-- Where all names lead down, each step adds to the parts of a path, which are bounded. -/
theorem endsWithin_of_leadsDown {steps depth : Nat} (reached : files.Reaches root dir)
    (down : ∀ dir name, files.Reaches root dir → files.CanEnter root dir name →
      RelPath.LeadsDown name)
    (no_up : RelPath.up ∉ RelPath.parts dir) (gone : steps ≤ (RelPath.parts dir).length)
    (left : steps + depth = (linkLimit + 1) * files.root.size + 1) :
    files.EndsWithin root (depth + 1) dir := by
  induction depth generalizing dir steps with
  | zero =>
    intro name enters
    have few := length_parts_le (normalize_of_reaches reached) no_up enters
    omega
  | succ depth ih =>
    intro name enters
    obtain ⟨nonempty, name_no_up⟩ := down dir name reached enters
    have joined : RelPath.parts (RelPath.join dir name) = RelPath.parts dir ++ RelPath.parts name :=
      RelPath.parts_join_of_no_up name_no_up
    have below_reached : files.Reaches root (RelPath.join dir name) :=
      reached.tail ⟨name, enters, rfl⟩
    have below_no_up : RelPath.up ∉ RelPath.parts (RelPath.join dir name) := by
      rw [joined, List.mem_append]
      exact fun inside => inside.elim no_up name_no_up
    have more_gone : steps + 1 ≤ (RelPath.parts (RelPath.join dir name)).length := by
      have some_parts := List.length_pos_of_ne_nil nonempty
      rw [joined, List.length_append]
      omega
    exact ih below_reached below_no_up more_gone (by omega)

/-! ## What a step leads to -/

/-- A name without a backslash leads to the directory of that name, right below the one that it was
found in and no link. -/
theorem locate_of_canEnter (proper : files.Proper) (normal : RelPath.normalize dir = dir)
    (enters : files.CanEnter root dir name) (no_backslash : '\\' ∉ name.toList) :
    ∃ place entries child,
      files.locate .target (root.join (.ofRelative dir)) = .ok (place, .directory entries) ∧
      files.locate .itself (root.join (.ofRelative (RelPath.join dir name))) =
        .ok (place ++ [Utf8.ofString name], child) ∧ child.isDirectory = true := by
  obtain ⟨place, entries, found, located⟩ := exists_located_of_canEnter enters
  have here := at?_of_locate (by simp) located
  have entries_proper : ProperEntries entries := proper place entries here
  have entry_name := isEntryName_of_canEnter proper enters
  obtain ⟨child, looked_up, is_directory⟩ :=
    (canEnter_iff entries_proper.unique (listable_of_entries found)).1 enters
  obtain ⟨links, leads⟩ := exists_leadsTo located
  refine ⟨place, entries, child, located, ?_, is_directory⟩
  rw [NativePath.join_ofRelative_join root normal (isPlain_of_entryName entry_name no_backslash)]
  exact leads.locate_child here entry_name looked_up

/-- A name that stands for nothing leads to where it was found, again and again. -/
theorem not_walkEnds_of_parts_eq_nil (reached : files.Reaches root dir)
    (enters : files.CanEnter root dir name) (nothing : RelPath.parts name = []) :
    ¬files.WalkEnds root := by
  rw [walkEnds_iff_acc]
  intro accessible
  have same : RelPath.join dir name = dir :=
    RelPath.join_of_parts_eq_nil (normalize_of_reaches reached) nothing
  have again : files.Descends root dir dir := ⟨name, enters, same.symm⟩
  have dir_accessible : Acc (fun below dir => files.Descends root dir below) dir := by
    clear enters same again
    induction reached with
    | refl => exact accessible
    | tail _ descends ih => exact ih.inv descends
  induction dir_accessible with
  | intro dir _ ih => exact ih dir again reached enters same again

/-- Walks end exactly if no path goes on endlessly from one directory to the next. They do where
the names with a backslash that are reached lead down, within a depth that the links and the size of
the tree bound. A name without a backslash leads to a directory right below; one that stands for
nothing has the walk never end. -/
theorem walkEnds_iff (files : FileSystem) (root : NativePath) (proper : files.Proper) :
    (files.WalkEnds root ↔ ¬∃ path : Nat → String, path 0 = RelPath.root ∧
      ∀ count, files.Descends root (path count) (path (count + 1))) ∧
    ((∀ dir name, files.Reaches root dir → files.CanEnter root dir name → '\\' ∈ name.toList →
        RelPath.LeadsDown name) →
      ∀ (σ ε : Type) (visitor : Visitor σ ε), visitor.Shows files → ∀ depth state,
        (linkLimit + 1) * files.root.size + 2 ≤ depth →
        walk visitor root depth state ≠ .tooDeep) ∧
    (∀ dir name, files.Reaches root dir → files.CanEnter root dir name → '\\' ∉ name.toList →
      ∃ place entries child,
        files.locate .target (root.join (.ofRelative dir)) = .ok (place, .directory entries) ∧
        files.locate .itself (root.join (.ofRelative (RelPath.join dir name))) =
          .ok (place ++ [Utf8.ofString name], child) ∧ child.isDirectory = true) ∧
    (∀ dir name, files.Reaches root dir → files.CanEnter root dir name →
      RelPath.parts name = [] → ¬files.WalkEnds root) := by
  refine ⟨?_, ?_, ?_, ?_⟩
  · have endless : ¬Acc (fun below dir => files.Descends root dir below) RelPath.root ↔
        ∃ path : Nat → String, path 0 = RelPath.root ∧
          ∀ count, files.Descends root (path count) (path (count + 1)) :=
      not_acc_iff_exists_descending_chain
    rw [walkEnds_iff_acc, ← endless, not_not]
  · intro down σ ε visitor shows_files depth state deep
    have leads_down : ∀ dir name, files.Reaches root dir → files.CanEnter root dir name →
        RelPath.LeadsDown name := by
      intro dir name reached enters
      by_cases backslash : '\\' ∈ name.toList
      · exact down dir name reached enters backslash
      · exact RelPath.leadsDown_of_plain
          (isPlain_of_entryName (isEntryName_of_canEnter proper enters) backslash)
    have ends : files.EndsWithin root ((linkLimit + 1) * files.root.size + 1 + 1) RelPath.root :=
      endsWithin_of_leadsDown .refl leads_down (by decide) (Nat.zero_le _) (Nat.zero_add _)
    exact walkFrom_ne_tooDeep shows_files (ends.mono deep) state
  · intro dir name reached enters no_backslash
    exact locate_of_canEnter proper (normalize_of_reaches reached) enters no_backslash
  · intro dir name reached enters nothing
    exact not_walkEnds_of_parts_eq_nil reached enters nothing

/-- A directory inside of a root has a name that stands for the root. -/
def selfNamed : FileSystem where
  root := .directory [(Utf8.ofString "\\", .directory [])]
  working := []

/-- The name of a directory below `d` leads to the directory beside `d`. -/
def doubled : FileSystem where
  root := .directory
    [(Utf8.ofString "c", .directory [(Utf8.ofString "x.c", .file [])]),
      (Utf8.ofString "d", .directory [(Utf8.ofString "..\\c", .directory [])])]
  working := []

theorem proper_selfNamed : selfNamed.Proper :=
  Node.everyDirectory_of_check (by decide +kernel)

theorem canEnter_selfNamed : selfNamed.CanEnter (.ofString "/") RelPath.root "\\" := by
  unfold CanEnter
  decide +kernel

theorem walkEnds_iff_vendored :
    (∀ (σ ε : Type) (visitor : Visitor σ ε), visitor.Shows vendored → ∀ depth state,
      (linkLimit + 1) * vendored.root.size + 2 ≤ depth →
      walk visitor (.ofString "/") depth state ≠ .tooDeep) ∧
    ¬selfNamed.WalkEnds (.ofString "/") := by
  have ends := (walkEnds_iff vendored (.ofString "/") proper_vendored).2.1
  have endless := (walkEnds_iff selfNamed (.ofString "/") proper_selfNamed).2.2.2
  refine ⟨ends fun dir name _ enters backslash => ?_, ?_⟩
  · exact absurd backslash (no_backslash_of_canEnter proper_vendored noBackslash_vendored enters)
  · exact endless RelPath.root "\\" .refl canEnter_selfNamed (by decide +kernel)

end FileSystem

namespace PackJob

/-- Packs the same from a tree with a directory whose name stands for its own. -/
def ownSourcesSelfNamed : PackJob Memory Unit :=
  { ownSources with output := Memory.output .selfNamed }

theorem not_endsWithin_selfNamed (depth : Nat) :
    ownSourcesSelfNamed.endsWithin .selfNamed depth RelPath.root = false := by
  induction depth with
  | zero => rfl
  | succ depth ih =>
    have entered : ownSourcesSelfNamed.entered
        (ownSourcesSelfNamed.listing .selfNamed RelPath.root) = ["\\"] := by decide +kernel
    have again : RelPath.join RelPath.root "\\" = RelPath.root := by decide +kernel
    rw [endsWithin, entered, List.all_cons, again, ih]
    rfl

/-- No depth is enough to pack a directory with a subdirectory whose name stands for its own. And a
name may lead from one directory to another that is not below it. -/
theorem backslash_walks_forever :
    FileSystem.selfNamed.Proper ∧
    (∀ depth, walk ownSourcesSelfNamed.visitor (.ofString "/") depth
      (.initial (.ofLimit none) ()) = .tooDeep) ∧
    FileSystem.doubled.Proper ∧
    FileSystem.doubled.Descends (.ofString "/") RelPath.root "d" ∧
    FileSystem.doubled.Descends (.ofString "/") "d" "c" := by
  refine ⟨FileSystem.proper_selfNamed, fun depth => ?_,
    Node.everyDirectory_of_check (by decide +kernel), ⟨"d", ?_, by decide +kernel⟩,
    ⟨"..\\c", ?_, by decide +kernel⟩⟩
  · exact walkFrom_of_not_ends _ (Memory.takesAll_output _) (not_endsWithin_selfNamed depth)
  · unfold FileSystem.CanEnter
    decide +kernel
  · unfold FileSystem.CanEnter
    decide +kernel

end PackJob
end TreeBundle
