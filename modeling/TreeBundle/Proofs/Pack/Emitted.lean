import TreeBundle.Proofs.FileSystem.Entry
import TreeBundle.Proofs.Pack.Reached

/-!
# Classified and emitted files

A listed file is classified where it is listed, and its block is read from a path that is made up
anew from the root. The two paths lead to one entry exactly if the name holds no backslash, for a
backslash in a name turns into a slash of the path.
-/
namespace TreeBundle
set_option autoImplicit false

namespace PackJob

variable {σ δ : Type} {job : PackJob σ δ} {files : FileSystem} {tables : RuleTables} {out : σ}
  {diag : δ} {place : Place} {links : Nat} {entries : NodeEntries} {rel name : String}

/-- A listed file lies where it is listed. -/
theorem locate_listed (proper : files.Proper) (listed : name ∈ (job.listing files rel).files) :
    IsEntryName (Utf8.ofString name) ∧ ∃ place child,
      files.locate .itself ((job.listing files rel).path.join (.ofString name)) =
        .ok (place ++ [Utf8.ofString name], child) ∧ child.isDirectory = false := by
  have found_at : (job.listing files rel).path = job.filePath rel := FileSystem.path_list _ _
  rw [found_at]
  obtain ⟨child, inside, kind⟩ := (FileSystem.mem_files_iff rfl).1 listed
  have nonempty := List.ne_nil_of_mem inside
  obtain ⟨place, links, leads, here⟩ :=
    FileSystem.exists_leadsTo_of_entries nonempty (FileSystem.entries_of_listable nonempty rfl)
  have entries_proper : ProperEntries (files.listable (job.filePath rel)) := proper place _ here
  have entry_name := entries_proper.names _ inside
  have looked_up := Node.lookup_of_mem entries_proper.unique inside
  refine ⟨entry_name, place, child, leads.locate_child here entry_name looked_up, ?_⟩
  have no_directory : ¬child.isDirectory = true := by
    rw [← FileSystem.kindIn_eq_directory_iff, kind]
    exact nofun
  simpa using no_directory

/-- The steps of a path in normal form end with the step of its last component. -/
theorem exists_last_step {items : List RelPath.Component} (normal : RelPath.IsNormal items) :
    ∃ front last, FileSystem.stepsBelow (items.map Utf8.encode) = front ++ [last] ∧
      ∀ name, last = .name name → ∃ item : List Char, '\\' ∉ item ∧ name = Utf8.encode item := by
  rcases List.eq_nil_or_concat items with rfl | ⟨front, item, rfl⟩
  · exact ⟨[], .slash, rfl, fun name same => by cases same⟩
  · rw [List.concat_eq_append] at normal ⊢
    refine ⟨(front.map Utf8.encode).map FileSystem.stepOfPart,
      FileSystem.stepOfPart (Utf8.encode item), ?_, ?_⟩
    · rw [FileSystem.stepsBelow, if_neg (by simp), List.map_append, List.map_append]
      rfl
    · intro name same
      rw [FileSystem.stepOfPart] at same
      split at same
      · cases same
      · cases same
        refine ⟨item, fun inside => ?_, rfl⟩
        have free := RelPath.separator_free_of_normal normal item (by simp) '\\' inside
        exact absurd free (by decide)

/-- A path in normal form never leads to an entry with a backslash in its name, unless to a
directory. -/
theorem no_backslash_of_locate {found : Place} {child : Node} (nonempty : job.root.bytes ≠ [])
    (normal : RelPath.normalize rel = rel) (no_directory : child.isDirectory = false)
    (located : files.locate .itself (job.filePath rel) =
      .ok (found ++ [Utf8.ofString name], child)) : '\\' ∉ name.toList := by
  have items_normal := RelPath.isNormal_parts rel
  rw [filePath_of_normal normal] at located
  obtain ⟨-, -, resolved⟩ := FileSystem.follow_of_resolve (FileSystem.resolve_of_locate located)
  obtain ⟨front, last, steps, last_name⟩ := exists_last_step items_normal
  rw [FileSystem.stepsOf_join nonempty (NativePath.isPart_of_normal items_normal), steps,
    ← List.append_assoc] at resolved
  have ending := FileSystem.endsAt_of_follow resolved
  cases last with
  | name entry =>
    obtain ⟨directory, same⟩ := ending
    obtain ⟨item, free, rfl⟩ := last_name entry rfl
    have same_name : Utf8.ofString name = Utf8.encode item :=
      (List.cons.inj (List.append_inj' same rfl).2).1
    rw [Utf8.encode_inj same_name]
    exact free
  | _ =>
    rw [show child.isDirectory = true from ending] at no_directory
    cases no_directory

/-- A listed file is emitted from the entry that was classified exactly if its name holds no
backslash. -/
theorem sameEntry_iff_no_backslash (proper : files.Proper) (nonempty : job.root.bytes ≠ [])
    (reached : job.Reaches files rel) (listed : name ∈ (job.listing files rel).files) :
    files.SameEntry (job.filePath (RelPath.join rel name))
        ((job.listing files rel).path.join (.ofString name)) ↔ '\\' ∉ name.toList := by
  obtain ⟨entry_name, place, child, located, no_directory⟩ := locate_listed proper listed
  constructor
  · rintro ⟨found, node, emitted, classified⟩
    rw [located] at classified
    cases classified
    exact no_backslash_of_locate nonempty (RelPath.normalize_normalize _) no_directory emitted
  · intro no_backslash
    have plain := isPlain_of_entryName entry_name no_backslash
    have same_path : job.filePath (RelPath.join rel name) =
        (job.listing files rel).path.join (.ofString name) := by
      rw [show (job.listing files rel).path = job.filePath rel from FileSystem.path_list _ _]
      exact NativePath.join_ofRelative_join _ (normalize_of_reaches reached) plain
    exact ⟨_, _, same_path ▸ located, located⟩

/-! ## The blocks of a walk -/

/-- Each block of a walk is that of a file which a directory that the walk reaches lists and which
the rules admit there. -/
theorem exists_listed_of_read {depth : Nat} {middle : PackState (σ × List Bytes) δ}
    {block : Bytes × Bytes} (takes : job.output.TakesAll files out)
    (walked : walk job.recorded.visitor job.root depth (.initial (out, []) diag) = .done middle)
    (inside : block ∈ Block.read middle.out.2) :
    ∃ rel name, job.Reaches files rel ∧ name ∈ (job.listing files rel).files ∧
      job.rules.admits files name (job.listing files rel).path = true ∧
      block = (Utf8.ofString (NativePath.ofRelative (RelPath.join rel name)).text,
        Utf8.ofString (shownText files (job.filePath (RelPath.join rel name)))) := by
  rw [(record_of_walk takes walked).2, read_flatMap_blockOf, List.mem_map] at inside
  obtain ⟨_, member, rfl⟩ := inside
  obtain ⟨rel, name, reached, chosen, rfl⟩ := exists_reached_of_mem_walked member
  rw [chosenIn] at chosen
  split at chosen
  · obtain ⟨listed, written⟩ := List.mem_filter.1 chosen
    rw [writes, Bool.and_eq_true, Bool.and_eq_true] at written
    exact ⟨rel, name, reached, listed, written.1.2, rfl⟩
  · cases chosen

/-- The entry of a selected file lies below the root, at its trail. -/
theorem locate_of_selects {top : Node} {trail : Trail}
    (rooted : files.RootedAt job.root place links top)
    (selected : job.Selects files top [] trail) :
    ∃ child, files.locate .itself (job.filePath trail.rel) =
      .ok (place ++ trail.place, child) := by
  obtain ⟨front, name, rfl, -⟩ := selected.admitted
  obtain ⟨child, held⟩ := Option.isSome_iff_exists.1 selected.held
  rw [List.nil_append] at held
  have proper := Trail.isFileName_of_at? rooted.proper rooted.no_backslash held
  rw [Trail.place_append, Node.at?_append, Option.bind_eq_some_iff] at held
  obtain ⟨directory, at_front, at_name⟩ := held
  obtain ⟨entries, found, rfl, looked_up, -⟩ := Node.directory_of_at?_cons at_name
  refine ⟨found, ?_⟩
  rw [filePath_rel proper]
  exact rooted.leads.locate_entry (by simp) rooted.held
    (fun other member => proper other (List.mem_append_left _ member)) (proper name (by simp))
    at_front looked_up (Or.inl rfl)

/-- A file is emitted from the entry that was classified exactly if its name holds no backslash.
In a tree without such names the walk heads no two blocks alike, and the entry of each block lies
below the root with no excluded directory above it. -/
theorem packed_is_classified_iff (proper : files.Proper)
    (located : files.locate .target job.root = .ok (place, .directory entries))
    (takes : job.output.TakesAll files out) :
    (∀ rel name, job.Reaches files rel → name ∈ (job.listing files rel).files →
      (files.SameEntry (job.filePath (RelPath.join rel name))
        ((job.listing files rel).path.join (.ofString name)) ↔ '\\' ∉ name.toList)) ∧
    (∀ (depth : Nat) (middle : PackState (σ × List Bytes) δ),
      walk job.recorded.visitor job.root depth (.initial (out, []) diag) = .done middle →
      ∀ block ∈ Block.read middle.out.2, ∃ rel name, job.Reaches files rel ∧
        name ∈ (job.listing files rel).files ∧
        job.rules.admits files name (job.listing files rel).path = true ∧
        block = (Utf8.ofString (NativePath.ofRelative (RelPath.join rel name)).text,
          Utf8.ofString (shownText files (job.filePath (RelPath.join rel name))))) ∧
    (files.NoBackslash → ∃ middle : PackState (σ × List Bytes) δ,
      walk job.recorded.visitor job.root files.root.size (.initial (out, []) diag) =
        .done middle ∧
      (Block.headers middle.out.2).Nodup ∧
      ∀ block ∈ Block.read middle.out.2, ∃ trail child,
        job.Selects files (.directory entries) [] trail ∧
        files.locate .itself (job.filePath trail.rel) = .ok (place ++ trail.place, child) ∧
        block = (Utf8.ofString trail.rel,
          Utf8.ofString (shownText files (job.filePath trail.rel)))) := by
  obtain ⟨links, leads⟩ := FileSystem.exists_leadsTo located
  refine ⟨fun rel name => sameEntry_iff_no_backslash proper leads.nonempty,
    fun depth middle walked block => exists_listed_of_read takes walked, fun no_backslash => ?_⟩
  obtain ⟨links, rooted⟩ := FileSystem.exists_rootedAt_place proper no_backslash located
  have ends := endsWithin_size rooted
  have recorded_ends : job.recorded.endsWithin files files.root.size RelPath.root = true :=
    endsWithin_recorded.trans ends
  obtain ⟨middle, walked, -⟩ :=
    walkFrom_spec (.initial (out, []) diag) (takes.recorded []) recorded_ends
  have record : middle.out.2 = (job.firstPass files).flatMap (job.blockOf files) := by
    rw [(record_of_walk takes walked).2, firstPass_of_ends ends]
  refine ⟨middle, walked, ?_, ?_⟩
  · have heads : Block.headers middle.out.2 = (job.firstPass files).map Utf8.ofString := by
      rw [record]
      exact headers_flatMap_blockOf fun rel => proper_of_mem_walked
    rw [heads]
    exact List.pairwise_map.2 ((nodup_firstPass rooted).imp fun different same =>
      different (Utf8.ofString_inj same))
  · intro block inside
    rw [record, read_flatMap_blockOf, List.mem_map] at inside
    obtain ⟨rel, member, rfl⟩ := inside
    obtain ⟨normal, not_root⟩ := proper_of_mem_walked member
    obtain ⟨trail, rfl, selects⟩ := (mem_firstPass_iff_selects rooted).1 member
    obtain ⟨child, lies⟩ := locate_of_selects rooted selects
    refine ⟨trail, child, selects, lies, ?_⟩
    rw [NativePath.text_ofRelative normal not_root]

theorem packed_is_classified_iff_own :
    (∀ rel name, ownSources.Reaches .vendored rel →
      name ∈ (ownSources.listing .vendored rel).files →
      (FileSystem.vendored.SameEntry (ownSources.filePath (RelPath.join rel name))
        ((ownSources.listing .vendored rel).path.join (.ofString name)) ↔ '\\' ∉ name.toList)) ∧
    (∀ (depth : Nat) (middle : PackState (Memory × List Bytes) Unit),
      walk ownSources.recorded.visitor ownSources.root depth (.initial (.ofLimit none, []) ()) =
        .done middle →
      ∀ block ∈ Block.read middle.out.2, ∃ rel name, ownSources.Reaches .vendored rel ∧
        name ∈ (ownSources.listing .vendored rel).files ∧
        RuleSet.forOwnSources.admits .vendored name (ownSources.listing .vendored rel).path = true ∧
        block = (Utf8.ofString (NativePath.ofRelative (RelPath.join rel name)).text,
          Utf8.ofString (shownText .vendored (ownSources.filePath (RelPath.join rel name))))) ∧
    (FileSystem.vendored.NoBackslash → ∃ middle : PackState (Memory × List Bytes) Unit,
      walk ownSources.recorded.visitor ownSources.root FileSystem.vendored.root.size
        (.initial (.ofLimit none, []) ()) = .done middle ∧
      (Block.headers middle.out.2).Nodup ∧
      ∀ block ∈ Block.read middle.out.2, ∃ trail child,
        ownSources.Selects .vendored FileSystem.vendored.root [] trail ∧
        FileSystem.vendored.locate .itself (ownSources.filePath trail.rel) =
          .ok ([] ++ trail.place, child) ∧
        block = (Utf8.ofString trail.rel,
          Utf8.ofString (shownText .vendored (ownSources.filePath trail.rel)))) :=
  packed_is_classified_iff FileSystem.proper_vendored rfl (Memory.takesAll_output _)

/-- Packs the same from a tree with a file whose name reads as the path of a vendored one. -/
def ownSourcesBackslashed : PackJob Memory Unit :=
  { ownSources with output := Memory.output .backslashed }

/-- The file beside the vendored directory is classified, but the one inside of it is packed, out
of a directory that is excluded. -/
theorem backslash_emits_excluded :
    FileSystem.backslashed.Proper ∧
    "vendor\\x.c" ∈ (ownSourcesBackslashed.listing .backslashed RelPath.root).files ∧
    RuleSet.forOwnSources.admits .backslashed "vendor\\x.c" (.ofString "/") = true ∧
    ¬FileSystem.backslashed.SameEntry
      (ownSourcesBackslashed.filePath (RelPath.join RelPath.root "vendor\\x.c"))
      ((NativePath.ofString "/").join (.ofString "vendor\\x.c")) ∧
    RuleSet.forOwnSources.isExcludedDir "vendor" = true ∧
    ∃ middle, walk ownSourcesBackslashed.recorded.visitor (.ofString "/")
        FileSystem.backslashed.root.size (.initial (.ofLimit none, []) ()) = .done middle ∧
      Block.read middle.out.2 = [(Utf8.ofString "vendor/x.c", Utf8.ofString "inner")] := by
  refine ⟨Node.everyDirectory_of_check (by decide +kernel), by decide +kernel, by decide +kernel,
    ?_, by decide +kernel, WalkOutcome.exists_done (by decide +kernel)⟩
  rintro ⟨place, node, emitted, classified⟩
  have emitted_at : FileSystem.backslashed.locate .itself
      (ownSourcesBackslashed.filePath (RelPath.join RelPath.root "vendor\\x.c")) =
        .ok ([Utf8.ofString "vendor", Utf8.ofString "x.c"], .file (Utf8.ofString "inner")) :=
    rfl
  have classified_at : FileSystem.backslashed.locate .itself
      ((NativePath.ofString "/").join (.ofString "vendor\\x.c")) =
        .ok ([Utf8.ofString "vendor\\x.c"], .file (Utf8.ofString "outer")) :=
    rfl
  rw [emitted_at] at emitted
  rw [classified_at] at classified
  cases emitted
  cases classified

end PackJob
end TreeBundle
