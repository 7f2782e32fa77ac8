import TreeBundle.Pack.Artifact
import TreeBundle.Proofs.FileSystem.Canonical
import TreeBundle.Proofs.FileSystem.Created
import TreeBundle.Proofs.Pack.Contents
import TreeBundle.Proofs.Pack.Invariant
import TreeBundle.Proofs.Pack.Record
import TreeBundle.Proofs.Rules.RuleSet

/-!
# Artifacts that contain themselves

A file is skipped if its path below the root spells the canonical path of the artifact. So the
artifact is left out under its own path, but not where a link or `..` leads to it: then what has
been written of it so far is packed into it.
-/
namespace TreeBundle
set_option autoImplicit false

variable {δ : Type}

/-! ## Packing into a file -/

/-- The job of packing into a file, given the files once it has been created. -/
def PackJob.intoFile (rules : RuleSet) (root output : NativePath) (diagnostics : Writer δ)
    (files : FileSystem) : PackJob BufferedFile δ where
  rules := rules
  root := root
  skip := (files.canonicalize output).toOption
  start := some (FileSystem.pathOf files.working)
  output := BufferedFile.output
  diagnostics := diagnostics

/-- What packing into a file comes to, by the run that does it. -/
def ArtifactRun.ofRun (files : FileSystem) (diag : δ) :
    WalkOutcome (PackState BufferedFile δ) IoError → ArtifactRun δ
  | .done state => .close state
  | .failed state problem =>
    ⟨state.out.flush.1.files, state.diag, state.log, .error (.write problem)⟩
  | .tooDeep => ⟨files, diag, [], .error .endless⟩

theorem packToFile_of_create {rules : RuleSet} {root output : NativePath} {diagnostics : Writer δ}
    {files after : FileSystem} {place : Place} (diag : δ)
    (created : files.create output = .ok (after, place)) :
    packToFile rules root output diagnostics files diag =
      .ofRun after diag
        ((PackJob.intoFile rules root output diagnostics after).run (.opened after place) diag) := by
  unfold packToFile
  rw [created]
  rfl

/-- What a bounded run is seen to leave in a file is what packing into it leaves. -/
theorem packToFile_of_within {τ : Type} {rules : RuleSet} {root output : NativePath}
    {diagnostics : Writer δ} {files after : FileSystem} {place : Place} {diag : δ}
    {view : ArtifactRun δ → τ} {seen : τ} (depth : Nat)
    (created : files.create output = .ok (after, place))
    (viewed : ((PackJob.intoFile rules root output diagnostics after).runWithin depth
      (.initial (.opened after place) diag)).state?.map (fun state => view (.close state)) =
        some seen) :
    view (packToFile rules root output diagnostics files diag) = seen := by
  obtain ⟨state, done, same⟩ := PackJob.exists_run_of_within viewed
  rw [packToFile_of_create diag created, done]
  exact same

namespace BufferedFile

variable {files : FileSystem} {file : BufferedFile}

theorem sameShape_flush (same : files.SameShape file.files) :
    files.SameShape file.flush.1.files := by
  have sent : files.SameShape (file.send file.pending).1.files :=
    same.trans (file.files.sameShape_append file.place file.pending)
  unfold flush
  split
  · exact same
  · generalize file.send file.pending = result at sent
    obtain ⟨middle, problem⟩ := result
    cases problem with
    | none => exact sent
    | some problem => exact sent

/-- Writing to the artifact changes nothing but what it holds. -/
theorem sameShape_write (same : files.SameShape file.files) (bytes : Bytes) :
    files.SameShape (file.write bytes).1.files := by
  unfold write
  split
  · exact same
  simp only
  have flushed : files.SameShape
      (if file.pending.length + bytes.length > capacity then file.flush
        else (file, none)).1.files := by
    split
    · exact sameShape_flush same
    · exact same
  generalize (if file.pending.length + bytes.length > capacity then file.flush
    else (file, none)) = result at flushed
  obtain ⟨middle, problem⟩ := result
  cases problem with
  | some problem => exact flushed
  | none =>
    simp only
    split
    · exact flushed
    · exact flushed.trans (middle.files.sameShape_append middle.place bytes)

end BufferedFile

/-! ## The artifact under its own path -/

/-- Whether a name on a relative path is that of a link, the last one included. -/
def CrossesLink (top : Node) (rel : String) : Prop :=
  ∃ front back target, RelPath.parts rel = front ++ back ∧ front ≠ [] ∧
    top.at? (front.map Utf8.encode) = some (.link target)

namespace PackJob

section Skipping

variable {σ : Type} {job : PackJob σ δ} {files : FileSystem} {rel : String} {top : Node}
  {above whole : Place}

/-- A file is skipped exactly if its path spells the place of the artifact. -/
theorem isSkipped_filePath_iff (skips : job.skip = some (FileSystem.pathOf whole))
    (rooted : job.root = FileSystem.pathOf above) (whole_spelled : FileSystem.IsSpelled whole)
    (above_spelled : FileSystem.IsSpelled above) (normal : RelPath.normalize rel = rel) :
    job.isSkipped (job.filePath rel) = true ↔
      whole = above ++ (RelPath.parts rel).map Utf8.encode := by
  unfold isSkipped
  rw [skips, filePath_of_normal normal, rooted]
  exact FileSystem.same_pathOf_join_iff whole_spelled above_spelled (NativePath.isPart_of_parts rel)

/-- A path that leads to the artifact and is not skipped goes up or crosses a link. -/
theorem up_or_crossesLink {place : Place} {node : Node}
    (skips : job.skip = some (FileSystem.pathOf place))
    (rooted : job.root = FileSystem.pathOf above) (above_spelled : FileSystem.IsSpelled above)
    (located : files.locate .target job.root = .ok (above, top))
    (normal : RelPath.normalize rel = rel)
    (unskipped : job.isSkipped (job.filePath rel) = false)
    (leads_there : files.locate .target (job.filePath rel) = .ok (place, node)) :
    RelPath.up ∈ RelPath.parts rel ∨ CrossesLink top rel := by
  by_cases up : RelPath.up ∈ RelPath.parts rel
  · exact Or.inl up
  by_cases crosses : CrossesLink top rel
  · exact Or.inr crosses
  exfalso
  have proper := NativePath.isPart_of_parts rel
  have no_up := mt NativePath.up_mem_map_encode.1 up
  have no_link : ∀ front back, (RelPath.parts rel).map Utf8.encode = front ++ back → front ≠ [] →
      ∀ target, top.at? front ≠ some (.link target) := by
    intro front back split nonempty target held
    obtain ⟨before, after, parts_split, rfl, rfl⟩ := List.map_eq_append_iff.1 split
    exact crosses ⟨before, after, target, parts_split, by simpa using nonempty, held⟩
  obtain ⟨links, leads⟩ := FileSystem.exists_leadsTo located
  have here := FileSystem.at?_of_locate (by simp) located
  rw [filePath_of_normal normal] at leads_there
  have spelled := FileSystem.found_of_no_link leads here proper no_up no_link leads_there
  subst spelled
  -- The artifact's place is spelled by the root and the path, so the path is skipped.
  have whole_spelled : FileSystem.IsSpelled (above ++ (RelPath.parts rel).map Utf8.encode) := by
    intro part member
    rcases List.mem_append.1 member with member | member
    · exact above_spelled part member
    · exact ⟨proper part member, fun same => no_up (same ▸ member)⟩
  have skipped := (isSkipped_filePath_iff skips rooted whole_spelled above_spelled normal).2 rfl
  rw [skipped] at unskipped
  cases unskipped

/-- A path that is skipped goes straight to the artifact. -/
theorem not_up_nor_crossesLink {contents : Bytes}
    (skips : job.skip = some (FileSystem.pathOf whole))
    (rooted : job.root = FileSystem.pathOf above) (whole_spelled : FileSystem.IsSpelled whole)
    (above_spelled : FileSystem.IsSpelled above) (here : files.at? above = some top)
    (held : files.at? whole = some (.file contents))
    (normal : RelPath.normalize rel = rel) (skipped : job.isSkipped (job.filePath rel) = true) :
    ¬(RelPath.up ∈ RelPath.parts rel ∨ CrossesLink top rel) := by
  have spelled :=
    (isSkipped_filePath_iff skips rooted whole_spelled above_spelled normal).1 skipped
  subst spelled
  rw [FileSystem.at?_append, here, Option.bind_some] at held
  rintro (up | ⟨front, back, target, split, -, crossed⟩)
  · have inside := NativePath.up_mem_map_encode.2 up
    exact (whole_spelled _ (List.mem_append_right _ inside)).2 rfl
  · rw [split, List.map_append, Node.at?_append, crossed, Option.bind_some] at held
    cases back with
    | nil => cases held
    | cons part rest => cases held

end Skipping

/-! ## Runs -/

variable {rules : RuleSet} {tables : RuleTables} {root output : NativePath}
  {diagnostics : Writer δ} {files after : FileSystem} {place : Place}

theorem skip_intoFile {node : Node} (located : after.locate .target output = .ok (place, node)) :
    (intoFile rules root output diagnostics after).skip = some (FileSystem.pathOf place) := by
  rw [intoFile, FileSystem.canonicalize, located]
  rfl

/-- What holds of a run into a file: nothing but the artifact changes, and only files are written
that are not skipped. -/
def WritesUnskipped (job : PackJob BufferedFile δ) (after : FileSystem) (file : BufferedFile)
    (seen : List NativePath) : Prop :=
  after.SameShape file.files ∧ ∀ path ∈ seen, ∃ rel, path = job.filePath rel ∧
    RelPath.normalize rel = rel ∧ job.isSkipped path = false ∧ after.isReadable path = true

theorem keeps_writesUnskipped (rules : RuleSet) (root output : NativePath)
    (diagnostics : Writer δ) (after : FileSystem) :
    (intoFile rules root output diagnostics after).Keeps
      (WritesUnskipped (intoFile rules root output diagnostics after) after) where
  write file seen bytes holds := ⟨BufferedFile.sameShape_write holds.1 bytes, holds.2⟩
  add before file seen rel holds after_holds normal unskipped readable := by
    refine ⟨after_holds.1, fun path member => ?_⟩
    rcases List.mem_cons.1 member with rfl | member
    · exact ⟨rel, rfl, normal, unskipped, holds.1.symm.isReadable readable⟩
    · exact after_holds.2 path member

/-- The state in which a run ended or failed. -/
def StopsIn (job : PackJob BufferedFile δ) (out : BufferedFile) (diag : δ)
    (state : PackState BufferedFile δ) : Prop :=
  job.run out diag = .done state ∨ ∃ problem, job.run out diag = .failed state problem

theorem writesUnskipped_of_run {diag : δ} {state : PackState BufferedFile δ}
    (compiled : RuleSet.compile tables = .ok rules)
    (stops :
      (intoFile rules root output diagnostics after).StopsIn (.opened after place) diag state) :
    WritesUnskipped (intoFile rules root output diagnostics after) after state.out state.seen := by
  have normal : ∀ rel ∈ (intoFile rules root output diagnostics after).rules.alwaysIncludeFiles,
      RelPath.normalize rel = rel := RuleSet.normalize_alwaysIncludeFiles compiled
  have start : WritesUnskipped (intoFile rules root output diagnostics after) after
      (.opened after place) [] := ⟨.refl after, by simp⟩
  have kept := (keeps_writesUnskipped rules root output diagnostics after).run normal diag start
  rcases stops with done | ⟨problem, failed⟩
  · rw [done] at kept
    exact kept
  · rw [failed] at kept
    exact kept

/-- Once a run is over, a file that can be read and is always included has been written exactly if
it is not skipped. -/
theorem mem_seen_iff {diag : δ} {state : PackState BufferedFile δ} {rel : String}
    (compiled : RuleSet.compile tables = .ok rules) (nonempty : root.bytes ≠ [])
    (member : rel ∈ rules.alwaysIncludeFiles)
    (readable :
      after.isReadable ((intoFile rules root output diagnostics after).filePath rel) = true)
    (done : (intoFile rules root output diagnostics after).run (.opened after place) diag =
      .done state) :
    (intoFile rules root output diagnostics after).filePath rel ∈ state.seen ↔
      (intoFile rules root output diagnostics after).isSkipped
        ((intoFile rules root output diagnostics after).filePath rel) = false := by
  have normal : ∀ rel ∈ rules.alwaysIncludeFiles, RelPath.normalize rel = rel :=
    RuleSet.normalize_alwaysIncludeFiles compiled
  have written := (writesUnskipped_of_run compiled (Or.inl done)).2
  constructor
  · intro seen
    obtain ⟨other, -, -, unskipped, -⟩ := written _ seen
    exact unskipped
  · intro unskipped
    have keeps := keeps_writesUnskipped rules root output diagnostics after
    obtain ⟨depth, middle, walked, forced⟩ := exists_walked_of_run done
    have start : HoldsOf (WritesUnskipped (intoFile rules root output diagnostics after) after)
        (PackState.initial (.opened after place : BufferedFile) diag) :=
      ⟨.refl after, fun path member => absurd member List.not_mem_nil⟩
    have kept := keeps.walk depth start
    rw [walked] at kept
    have seen := seen_of_emitForced keeps normal kept
      (fun out seen holds => holds.1.isReadable readable) member unskipped forced
    obtain ⟨path, inside, same⟩ := List.any_eq_true.1 seen
    obtain ⟨other, rfl, other_normal, -⟩ := written path inside
    have same_rel := (same_filePath_iff nonempty (normal rel member) other_normal).1 same
    rwa [same_rel]

/-- Packing into a file changes nothing but the file. A file that is written from a path that leads
to the artifact has a path that goes up or crosses a link. Once the run is over, such a path that is
always included has been written from, and any other has not. -/
theorem artifact_packed_iff (diagnostics : Writer δ) (diag : δ)
    (compiled : RuleSet.compile tables = .ok rules) (canonical : files.canonicalize root = .ok root)
    (created : files.create output = .ok (after, place)) :
    ∃ top, after.node root = .ok top ∧
      packToFile rules root output diagnostics files diag =
        .ofRun after diag
          ((intoFile rules root output diagnostics after).run (.opened after place) diag) ∧
      (∀ state,
        (intoFile rules root output diagnostics after).StopsIn (.opened after place) diag state →
        after.SameShape state.out.files ∧
        ∀ path ∈ state.seen, ∃ rel,
          path = (intoFile rules root output diagnostics after).filePath rel ∧
          RelPath.normalize rel = rel ∧ after.isReadable path = true ∧
          ∀ node, after.locate .target path = .ok (place, node) →
            RelPath.up ∈ RelPath.parts rel ∨ CrossesLink top rel) ∧
      (FileSystem.IsSpelled files.working → ∀ state,
        (intoFile rules root output diagnostics after).run (.opened after place) diag = .done state →
        ∀ rel ∈ rules.alwaysIncludeFiles, ∀ contents,
          after.locate .target ((intoFile rules root output diagnostics after).filePath rel) =
            .ok (place, .file contents) →
          ((intoFile rules root output diagnostics after).filePath rel ∈ state.seen ↔
            RelPath.up ∈ RelPath.parts rel ∨ CrossesLink top rel)) := by
  obtain ⟨ext, artifact, located⟩ := FileSystem.create_spec created
  obtain ⟨above, old_top, above_spelled, spells, old_rooted⟩ :=
    FileSystem.exists_spelling_of_canonical canonical
  obtain ⟨top, rooted, -⟩ := ext.locate (by simp) old_rooted
  have skips : (intoFile rules root output diagnostics after).skip =
      some (FileSystem.pathOf place) := skip_intoFile located
  refine ⟨top, FileSystem.node_of_locate rooted, packToFile_of_create diag created, ?_, ?_⟩
  · intro state stops
    obtain ⟨same, written⟩ := writesUnskipped_of_run compiled stops
    refine ⟨same, fun path member => ?_⟩
    obtain ⟨rel, rfl, normal, unskipped, readable⟩ := written path member
    exact ⟨rel, rfl, normal, readable, fun node leads_there =>
      up_or_crossesLink skips spells above_spelled rooted normal unskipped leads_there⟩
  · intro working_spelled state done rel member contents leads_there
    have normal := RuleSet.normalize_alwaysIncludeFiles compiled rel member
    have place_spelled : FileSystem.IsSpelled place :=
      FileSystem.spelled_of_locate (Or.inr (ext.working ▸ working_spelled)) located
    have held := FileSystem.at?_of_locate (by simp) leads_there
    have here := FileSystem.at?_of_locate (by simp) rooted
    have readable := FileSystem.isReadable_iff_located.2 ⟨place, contents, leads_there⟩
    rw [mem_seen_iff compiled (spells ▸ FileSystem.bytes_pathOf_ne_nil _) member readable done]
    constructor
    · intro unskipped
      exact up_or_crossesLink skips spells above_spelled rooted normal unskipped leads_there
    · intro apart
      by_contra skipped
      exact not_up_nor_crossesLink skips spells place_spelled above_spelled here held normal
        (Bool.not_eq_false _ ▸ skipped) apart

end PackJob

namespace FileSystem

/-- A tree with two links to where an artifact is going to be. -/
def linkedBack : FileSystem where
  root := .directory
    [(Utf8.ofString "a.c", .file (Utf8.ofString "a")),
      (Utf8.ofString "b.c", .link (.ofString "out.md")),
      (Utf8.ofString "latest", .link (.ofString "/out.md"))]
  working := []

/-- The same tree once the artifact has been created. -/
def linkedBackCreated : FileSystem where
  root := .directory
    [(Utf8.ofString "a.c", .file (Utf8.ofString "a")),
      (Utf8.ofString "b.c", .link (.ofString "out.md")),
      (Utf8.ofString "latest", .link (.ofString "/out.md")),
      (Utf8.ofString "out.md", .file [])]
  working := []

theorem create_linkedBack :
    linkedBack.create (.ofString "out.md") = .ok (linkedBackCreated, [Utf8.ofString "out.md"]) :=
  rfl

end FileSystem

namespace RuleSet

/-- Tables that admit C files and always include one more. -/
def latestToo : RuleTables :=
  { ownSources with alwaysIncludeFiles := ["latest"] }

/-- The rules that `latestToo` compile to. -/
def forLatestToo : RuleSet :=
  { forOwnSources with alwaysIncludeFiles := ["latest"] }

theorem compile_latestToo : compile latestToo = .ok forLatestToo :=
  rfl

end RuleSet

namespace PackJob

/-- Packs the tree with the links into the artifact that they lead to. -/
def linkedBack : PackJob BufferedFile Unit :=
  intoFile .forLatestToo (.ofString "/") (.ofString "out.md") .sink .linkedBackCreated

theorem locate_linkedBack {rel : String} (member : rel ∈ ["b.c", "latest"]) :
    FileSystem.linkedBackCreated.locate .target (linkedBack.filePath rel) =
      .ok ([Utf8.ofString "out.md"], .file []) := by
  simp only [List.mem_cons, List.not_mem_nil, or_false] at member
  rcases member with rfl | rfl
  · rfl
  · rfl

/-- All files of the tree are written, the artifact among them under the names of the links. -/
theorem exists_run_linkedBack :
    ∃ state, linkedBack.run (.opened .linkedBackCreated [Utf8.ofString "out.md"]) () = .done state ∧
      (state.seen, ((ArtifactRun.close state).files.bytes (.ofString "out.md")).toOption) =
        (["latest", "b.c", "a.c"].map linkedBack.filePath,
          some (Block.bytes "a.c" "a" ++ Block.bytes "b.c" "" ++ Block.bytes "latest" "")) := by
  have viewed : (linkedBack.runWithin 2 (.initial
      (.opened .linkedBackCreated [Utf8.ofString "out.md"]) ())).state?.map (fun state =>
        (state.seen, ((ArtifactRun.close state).files.bytes (.ofString "out.md")).toOption)) =
      some (["latest", "b.c", "a.c"].map linkedBack.filePath,
        some (Block.bytes "a.c" "a" ++ Block.bytes "b.c" "" ++ Block.bytes "latest" "")) := by
    decide +kernel
  exact exists_run_of_within viewed

theorem artifact_packed_iff_linkedBack :
    ∃ state, linkedBack.run (.opened .linkedBackCreated [Utf8.ofString "out.md"]) () = .done state ∧
      linkedBack.filePath "latest" ∈ state.seen := by
  have canonical : FileSystem.linkedBack.canonicalize (.ofString "/") = .ok (.ofString "/") := rfl
  have spelled : FileSystem.IsSpelled FileSystem.linkedBack.working := by
    intro name member
    cases member
  obtain ⟨top, found, -, -, packed_iff⟩ := artifact_packed_iff .sink () RuleSet.compile_latestToo
    canonical FileSystem.create_linkedBack
  obtain ⟨state, done, -⟩ := exists_run_linkedBack
  refine ⟨state, done, ?_⟩
  have link : CrossesLink top "latest" := by
    have root_node : FileSystem.linkedBackCreated.node (.ofString "/") =
        .ok FileSystem.linkedBackCreated.root := rfl
    obtain rfl := Except.ok.inj (root_node.symm.trans found)
    exact ⟨["latest".toList], [], .ofString "/out.md", by decide +kernel, by simp, rfl⟩
  exact (packed_iff spelled state done "latest" (by decide) [] (locate_linkedBack (by simp))).2
    (Or.inr link)

/-- Both passes pack the artifact into itself: the walk does through a link that it lists, and the
second pass through one that is always included. -/
theorem links_pack_artifact :
    FileSystem.linkedBack.canonicalize (.ofString "/") = .ok (.ofString "/") ∧
    FileSystem.linkedBack.create (.ofString "out.md") =
      .ok (.linkedBackCreated, [Utf8.ofString "out.md"]) ∧
    (∃ state,
      linkedBack.run (.opened .linkedBackCreated [Utf8.ofString "out.md"]) () = .done state ∧
      ∀ rel ∈ ["b.c", "latest"], linkedBack.filePath rel ∈ state.seen ∧
        FileSystem.linkedBackCreated.locate .target (linkedBack.filePath rel) =
          .ok ([Utf8.ofString "out.md"], .file [])) ∧
    ((packToFile .forLatestToo (.ofString "/") (.ofString "out.md") .sink .linkedBack
      ()).files.bytes (.ofString "out.md")).toOption =
        some (Block.bytes "a.c" "a" ++ Block.bytes "b.c" "" ++ Block.bytes "latest" "") := by
  obtain ⟨state, done, written⟩ := exists_run_linkedBack
  have packed : packToFile .forLatestToo (.ofString "/") (.ofString "out.md") .sink .linkedBack () =
      .close state := by
    rw [packToFile_of_create () FileSystem.create_linkedBack,
      show intoFile .forLatestToo (.ofString "/") (.ofString "out.md") .sink .linkedBackCreated =
        linkedBack from rfl, done]
    rfl
  have seen : state.seen = ["latest", "b.c", "a.c"].map linkedBack.filePath :=
    congrArg Prod.fst written
  refine ⟨rfl, rfl, ⟨state, done, fun rel member => ⟨?_, locate_linkedBack member⟩⟩, ?_⟩
  · rw [seen]
    refine List.mem_map_of_mem ?_
    simp only [List.mem_cons, List.not_mem_nil, or_false] at member ⊢
    rcases member with rfl | rfl <;> simp
  · rw [packed]
    exact congrArg Prod.snd written

end PackJob
end TreeBundle
