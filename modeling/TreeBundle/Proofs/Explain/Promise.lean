import TreeBundle.Proofs.Explain.FirstPass
import TreeBundle.Proofs.Pack.Reached

/-!
# What explanations promise

An explanation takes its path as a text: `..` cancels names unseen, links are looked through, and
an absolute path outside of the root is read as one below it. A run does none of this, so not each
file that is explained as written is written. It is exactly if the run comes to the same file on
a path that is always included or that the tree holds.
-/
namespace TreeBundle
set_option autoImplicit false

/-- Whether two paths lead to one regular file. -/
def FileSystem.SameFile (files : FileSystem) (left right : NativePath) : Prop :=
  ∃ place bytes, files.locate .target left = .ok (place, .file bytes) ∧
    files.locate .target right = .ok (place, .file bytes)

theorem relativeForm_ofString {root : NativePath} {rel : String}
    (normal : RelPath.normalize rel = rel) : relativeForm root (.ofString rel) = rel := by
  have relative : (NativePath.ofString rel).isAbsolute = false := by
    by_cases root : rel = RelPath.root
    · rw [root]
      decide
    · rw [NativePath.ofString_eq_ofParts normal root]
      exact NativePath.isAbsolute_ofParts (NativePath.isPart_of_parts rel)
  rw [relativeForm, relative, NativePath.text_ofString]
  exact normal

namespace PackJob

variable {σ δ : Type} {job : PackJob σ δ} {files : FileSystem} {tables : RuleTables} {out : σ}
  {diag : δ} {place : Place} {links : Nat} {entries : NodeEntries}

/-- Whether one of the blocks in some pieces is that of the file that a path leads to. -/
def Shows (job : PackJob σ δ) (files : FileSystem) (pieces : List Bytes) (path : NativePath) :
    Prop :=
  ∃ rel found bytes,
    (Utf8.ofString rel, Utf8.ofString (Utf8.lossyString bytes)) ∈ Block.read pieces ∧
    files.locate .target (job.filePath rel) = .ok (found, .file bytes) ∧
    files.locate .target path = .ok (found, .file bytes)

theorem shownText_of_locate {path : NativePath} {found : Place} {bytes : Bytes}
    (located : files.locate .target path = .ok (found, .file bytes)) :
    shownText files path = Utf8.lossyString bytes := by
  rw [shownText, FileSystem.regularBytes, FileSystem.node, located]
  rfl

section Recorded

variable {depth : Nat} {middle state : PackState (σ × List Bytes) δ} {rel : String} {bytes : Bytes}
  {path : NativePath} (compiled : RuleSet.compile tables = .ok job.rules)
  (run : RecordedRun job files out diag depth middle state)

include compiled run

theorem mem_read_iff (located : files.locate .target (job.filePath rel) = .ok (place, .file bytes)) :
    (Utf8.ofString rel, Utf8.ofString (Utf8.lossyString bytes)) ∈ Block.read state.out.2 ↔
      rel ∈ job.firstPass files ++ job.secondPass files := by
  have both_proper := proper_of_mem_passes files compiled
  rw [run.second, run.first, ← List.flatMap_append, read_flatMap_blockOf, List.mem_map]
  constructor
  · rintro ⟨other, member, same⟩
    obtain ⟨normal, not_root⟩ := both_proper other member
    have header := congrArg Prod.fst same
    rw [NativePath.text_ofRelative normal not_root] at header
    rwa [← Utf8.ofString_inj header]
  · intro member
    obtain ⟨normal, not_root⟩ := both_proper rel member
    exact ⟨rel, member, by
      rw [NativePath.text_ofRelative normal not_root, shownText_of_locate located]⟩

/-- A run shows a file exactly if it writes some path that leads to it. -/
theorem shows_iff :
    job.Shows files state.out.2 path ↔
      ∃ rel ∈ job.firstPass files ++ job.secondPass files,
        files.SameFile (job.filePath rel) path := by
  constructor
  · rintro ⟨rel, place, bytes, block, located, named⟩
    exact ⟨rel, (mem_read_iff compiled run located).1 block, place, bytes, located, named⟩
  · rintro ⟨rel, member, place, bytes, located, named⟩
    exact ⟨rel, place, bytes, (mem_read_iff compiled run located).2 member, located, named⟩

end Recorded

theorem isReadable_of_sameFile {left right : NativePath} (same : files.SameFile left right) :
    files.isReadable left = true := by
  obtain ⟨place, bytes, located, -⟩ := same
  exact FileSystem.isReadable_iff_located.2 ⟨place, bytes, located⟩

/-- In any tree, a run whose walk ends writes the files that are always included or walked to and
may be opened. -/
theorem mem_passes_iff_walksTo {rel : String} {depth : Nat} (unskipped : job.skip = none)
    (ends : job.endsWithin files depth RelPath.root = true) :
    rel ∈ job.firstPass files ++ job.secondPass files ↔
      files.isReadable (job.filePath rel) = true ∧
        (job.rules.isAlwaysIncluded rel = true ∨ job.WalksTo files rel) := by
  rw [List.mem_append, mem_secondPass_iff unskipped]
  by_cases first : rel ∈ job.firstPass files
  · have readable : files.isReadable (job.filePath rel) = true := isReadable_of_mem_walked first
    have walked := (mem_firstPass_iff_walksTo ends).1 first
    exact ⟨fun _ => ⟨readable, Or.inr walked⟩, fun _ => Or.inl first⟩
  · have not_walked := mt (mem_firstPass_iff_walksTo ends).2 first
    simp [first, not_walked, and_comm]

/-- A run writes a path in normal form exactly if it is explained as written, the file may be
opened, and the path is always included or held by the tree. -/
theorem mem_passes_iff_of_normal {rel : String}
    (rooted : files.RootedAt job.root place links (.directory entries))
    (unskipped : job.skip = none) (normal : RelPath.normalize rel = rel) :
    rel ∈ job.firstPass files ++ job.secondPass files ↔
      (explain job.rules files job.root (.ofString rel)).1.written = true ∧
        files.isReadable (job.filePath rel) = true ∧
        (job.rules.isAlwaysIncluded rel = true ∨ HoldsAt (.directory entries) rel) := by
  have same_path : (explain job.rules files job.root (.ofString rel)).1.path = rel :=
    relativeForm_ofString normal
  have told_so := mem_passes_iff rooted unskipped
    (Eq.refl (explain job.rules files job.root (.ofString rel)).1)
  rwa [same_path] at told_so

/-- A file that is explained as written gets its block under the explained path exactly if it may
be opened and that path is always included or walked to, and it gets a block at all exactly if some
path of this kind leads to it. In a tree without backslashes in its names, the paths walked to are
those explained as written which the tree itself holds. -/
theorem promise_kept_iff {path : NativePath} {told : Explanation}
    (compiled : RuleSet.compile tables = .ok job.rules)
    (found : files.node job.root = .ok (.directory entries))
    (takes : job.output.TakesAll files out) (unskipped : job.skip = none)
    (explained : (explain job.rules files job.root path).1 = told)
    (promised : told.written = true) :
    (∀ state : PackState (σ × List Bytes) δ, job.recorded.run (out, []) diag = .done state →
      (Utf8.ofString told.path ∈ Block.headers state.out.2 ↔
        files.isReadable (job.filePath told.path) = true ∧
          (job.rules.isAlwaysIncluded told.path = true ∨ job.WalksTo files told.path)) ∧
      (job.Shows files state.out.2 (job.root.join path) ↔
        ∃ rel, (job.rules.isAlwaysIncluded rel = true ∨ job.WalksTo files rel) ∧
          files.SameFile (job.filePath rel) (job.root.join path))) ∧
    (files.Proper → files.NoBackslash → ∃ state : PackState (σ × List Bytes) δ,
      job.recorded.run (out, []) diag = .done state ∧
      (Utf8.ofString told.path ∈ Block.headers state.out.2 ↔
        files.isReadable (job.filePath told.path) = true ∧
          (job.rules.isAlwaysIncluded told.path = true ∨
            HoldsAt (.directory entries) told.path)) ∧
      (job.Shows files state.out.2 (job.root.join path) ↔
        ∃ rel, RelPath.normalize rel = rel ∧
          (explain job.rules files job.root (.ofString rel)).1.written = true ∧
          (job.rules.isAlwaysIncluded rel = true ∨ HoldsAt (.directory entries) rel) ∧
          files.SameFile (job.filePath rel) (job.root.join path))) := by
  constructor
  · intro state ran
    obtain ⟨depth, middle, run⟩ := recordedRun_of_run compiled takes ran
    have ends := (record_of_walk takes run.walked).1
    constructor
    · rw [(run.headers_passes compiled).2.2, ofString_mem_map,
        mem_passes_iff_walksTo unskipped ends]
    · rw [shows_iff compiled run]
      constructor
      · rintro ⟨rel, member, same⟩
        exact ⟨rel, ((mem_passes_iff_walksTo unskipped ends).1 member).2, same⟩
      · rintro ⟨rel, kept, same⟩
        exact ⟨rel, (mem_passes_iff_walksTo unskipped ends).2 ⟨isReadable_of_sameFile same, kept⟩,
          same⟩
  · intro proper no_backslash
    obtain ⟨place, links, rooted⟩ := FileSystem.exists_rootedAt proper no_backslash found
    obtain ⟨middle, state, run⟩ := recordedRun_of_ends diag compiled takes (endsWithin_size rooted)
    refine ⟨state, run.ran, ?_, ?_⟩
    · rw [(run.headers_passes compiled).2.2, ofString_mem_map,
        mem_passes_iff rooted unskipped explained]
      exact ⟨And.right, fun kept => ⟨promised, kept⟩⟩
    rw [shows_iff compiled run]
    constructor
    · rintro ⟨rel, member, same⟩
      have normal := (proper_of_mem_passes files compiled rel member).1
      obtain ⟨written, -, kept⟩ := (mem_passes_iff_of_normal rooted unskipped normal).1 member
      exact ⟨rel, normal, written, kept, same⟩
    · rintro ⟨rel, normal, written, kept, same⟩
      have readable := isReadable_of_sameFile same
      exact ⟨rel, (mem_passes_iff_of_normal rooted unskipped normal).2 ⟨written, readable, kept⟩,
        same⟩

theorem promise_kept_iff_own :
    (∀ state : PackState (Memory × List Bytes) Unit,
      ownSources.recorded.run (.ofLimit none, []) () = .done state →
      (Utf8.ofString "src/x.c" ∈ Block.headers state.out.2 ↔
        FileSystem.vendored.isReadable (ownSources.filePath "src/x.c") = true ∧
          (RuleSet.forOwnSources.isAlwaysIncluded "src/x.c" = true ∨
            ownSources.WalksTo .vendored "src/x.c")) ∧
      (ownSources.Shows .vendored state.out.2 (ownSources.root.join (.ofString "./src//x.c")) ↔
        ∃ rel, (RuleSet.forOwnSources.isAlwaysIncluded rel = true ∨
            ownSources.WalksTo .vendored rel) ∧
          FileSystem.vendored.SameFile (ownSources.filePath rel)
            (ownSources.root.join (.ofString "./src//x.c")))) ∧
    (FileSystem.vendored.Proper → FileSystem.vendored.NoBackslash →
      ∃ state : PackState (Memory × List Bytes) Unit,
        ownSources.recorded.run (.ofLimit none, []) () = .done state ∧
        (Utf8.ofString "src/x.c" ∈ Block.headers state.out.2 ↔
          FileSystem.vendored.isReadable (ownSources.filePath "src/x.c") = true ∧
            (RuleSet.forOwnSources.isAlwaysIncluded "src/x.c" = true ∨
              HoldsAt FileSystem.vendored.root "src/x.c")) ∧
        (ownSources.Shows .vendored state.out.2 (ownSources.root.join (.ofString "./src//x.c")) ↔
          ∃ rel, RelPath.normalize rel = rel ∧
            (explain .forOwnSources .vendored ownSources.root (.ofString rel)).1.written = true ∧
            (RuleSet.forOwnSources.isAlwaysIncluded rel = true ∨
              HoldsAt FileSystem.vendored.root rel) ∧
            FileSystem.vendored.SameFile (ownSources.filePath rel)
              (ownSources.root.join (.ofString "./src//x.c")))) :=
  promise_kept_iff RuleSet.compile_ownSources rfl (Memory.takesAll_output _) rfl
    (show _ = (⟨"src/x.c", none, .byRule .includeExtension, false, true⟩ : Explanation) by
      decide +kernel) rfl

/-- A file behind a link to a directory is explained as written, but no run enters the link. -/
theorem promise_broken_through_link :
    (explain .forOwnSources .vendored (.ofString "/") (.ofString "lib/x.c")).1.written = true ∧
      ∃ state, ownSources.recorded.run (.ofLimit none, []) () = .done state ∧
        ¬ownSources.Shows .vendored state.out.2
          ((NativePath.ofString "/").join (.ofString "lib/x.c")) := by
  have outcome : (ownSources.recorded.runWithin 2 (.initial (.ofLimit none, []) ())).state?.map
      (fun state => Block.read state.out.2) =
        some [(Utf8.ofString "src/x.c", Utf8.ofString "own")] := by
    decide +kernel
  obtain ⟨state, ran, blocks⟩ := exists_run_of_within outcome
  refine ⟨by decide +kernel, state, ran, ?_⟩
  rintro ⟨rel, found, bytes, block, -, located⟩
  have named : FileSystem.vendored.locate .target
      ((NativePath.ofString "/").join (.ofString "lib/x.c")) =
        .ok ([Utf8.ofString "vendor", Utf8.ofString "x.c"], .file (Utf8.ofString "other")) :=
    rfl
  rw [named] at located
  cases located
  rw [blocks, List.mem_singleton] at block
  have contents : Utf8.ofString (Utf8.lossyString (Utf8.ofString "other")) =
      Utf8.ofString "own" := congrArg Prod.snd block
  exact absurd contents (by decide +kernel)

end PackJob
end TreeBundle
