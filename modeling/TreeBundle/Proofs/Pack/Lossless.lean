import TreeBundle.Proofs.Pack.Buffered
import TreeBundle.Proofs.Pack.Cutoff
import TreeBundle.Proofs.Pack.Diagnostics

/-!
# Artifacts that lose nothing

An artifact shows a beginning of the blocks that have been written, and so nothing that a rule would
read as a script. Unless it is packed itself, a run into it performs the same acts as a run into
memory. It succeeds exactly if the artifact takes all the bytes that the other run has written.
-/
namespace TreeBundle
set_option autoImplicit false

variable {δ ε : Type}

/-! ## Beginnings of blocks -/

namespace Block

/-- The byte that a block begins with. -/
def fence : UInt8 := 0x60

/-- Bytes that blocks may begin with. -/
def Opens (bytes : Bytes) : Prop :=
  ∀ first ∈ bytes.head?, first = fence

variable {front back : Bytes}

theorem opens_nil : Opens [] := by
  intro first member
  cases member

theorem Opens.of_append (opens : Opens (front ++ back)) : Opens front := by
  cases front with
  | nil => exact opens_nil
  | cons first rest => exact opens

theorem Opens.append (front_opens : Opens front) (back_opens : Opens back) :
    Opens (front ++ back) := by
  cases front with
  | nil => exact back_opens
  | cons first rest => exact front_opens

theorem opens_pieces (header contents : String) : Opens (pieces header contents).flatten := by
  intro first member
  have begins : (pieces header contents).flatten.head? = some fence := rfl
  rw [begins] at member
  exact (Option.some.inj member).symm

end Block

/-- Blocks do not start with `#!`. -/
theorem FileSystem.no_shebang_of_opens {bytes : Bytes} (opens : Block.Opens bytes) :
    RuleSet.shebangMark.isPrefixOf (firstLineOf firstLineLimit bytes).toList = false := by
  cases bytes with
  | nil =>
    have nothing : firstLineOf firstLineLimit [] = "" := Utf8.lossyString_nil
    rw [nothing]
    rfl
  | cons first rest =>
    obtain rfl : first = Block.fence := opens first rfl
    have line : firstLineOf firstLineLimit (Block.fence :: rest) =
        Utf8.lossyString (Utf8.encodeChar '\x60' ++
          (rest.take 255).takeWhile (· != lineFeed)) := rfl
    rw [line, Utf8.lossyString, String.toList_ofList, Utf8.decodeLossy_encodeChar]
    rfl

namespace RuleSet

variable {rules : RuleSet} {files : FileSystem} {name : String} {dir : NativePath}

theorem hasShebang_of_opens {bytes : Bytes} (opens : Block.Opens bytes)
    (found : files.regularBytes (dir.join (.ofString name)) = .ok bytes) :
    rules.hasShebang files name dir = false := by
  have plain := FileSystem.no_shebang_of_opens opens
  simp [hasShebang, FileSystem.firstLine, found, Except.map, plain]

/-- An artifact that was empty is decided in the same way once blocks have been written to it. -/
theorem admits_append {place : Place} {sent : Bytes}
    (emptied : ∀ contents, files.at? place = some (.file contents) → contents = [])
    (opens : Block.Opens sent) :
    rules.admits (files.append place sent) name dir = rules.admits files name dir := by
  rw [admits, admits]
  by_cases leads : ∃ node,
      files.locate .target (dir.join (.ofString name)) = .ok (place, node)
  · obtain ⟨node, located⟩ := leads
    have found := FileSystem.node_of_locate located
    have found_after := FileSystem.node_of_locate (FileSystem.locate_append located sent)
    cases node with
    | file contents =>
      obtain rfl := emptied contents (FileSystem.at?_of_locate (by simp) located)
      have bytes : files.regularBytes (dir.join (.ofString name)) = .ok [] := by
        rw [FileSystem.regularBytes, found]
      have bytes_after : (files.append place sent).regularBytes (dir.join (.ofString name)) =
          .ok sent := by
        rw [FileSystem.regularBytes, found_after]
        rfl
      rw [decide_of_hasShebang ((hasShebang_of_opens opens bytes_after).trans
        (hasShebang_of_opens Block.opens_nil bytes).symm)]
    | _ =>
      rw [decide_of_regularBytes]
      rw [FileSystem.regularBytes, FileSystem.regularBytes, found, found_after]
      rfl
  · rw [decide_of_regularBytes]
    exact FileSystem.regularBytes_append (fun node located => leads ⟨node, located⟩) sent

end RuleSet

theorem ArtifactRun.result_close (state : PackState BufferedFile δ) :
    (close state).result =
      match state.out.flush.2 with
      | none => .ok state.report
      | some problem => .error (.write problem) :=
  rfl

namespace FileSystem

/-- The tree with vendored files once an artifact has been created in it. -/
def vendoredCreated : FileSystem :=
  vendored.alterAt [Utf8.ofString "out.md"] fun _ => some (.file [])

theorem create_vendored :
    vendored.create (.ofString "out.md") = .ok (vendoredCreated, [Utf8.ofString "out.md"]) :=
  rfl

end FileSystem

namespace PackJob

variable {rules : RuleSet} {root output : NativePath} {files after : FileSystem} {place : Place}

/-! ## Runs into the artifact -/

theorem files_intoFile {diagnostics : Writer δ} {file : BufferedFile} :
    (intoFile rules root output diagnostics after).output.files file = file.files :=
  rfl

/-- While the artifact is written, it presents the files as they were when it had been created, as
long as it is not packed itself. -/
theorem presents_intoFile (rules : RuleSet) (root output : NativePath) (diagnostics : Writer δ)
    (emptied : ∀ contents, after.at? place = some (.file contents) → contents = []) :
    (intoFile rules root output diagnostics after).Presents after
      (fun rel => ∀ node, after.locate .target
        ((intoFile rules root output diagnostics after).filePath rel) ≠ .ok (place, node))
      (fun file => ∃ total, BufferedFile.Holds after place total file ∧ Block.Opens total) where
  list file path rel := by
    rintro ⟨total, ⟨sent, is_sent, -, -⟩, -⟩
    rw [files_intoFile, is_sent.appended, FileSystem.list_append]
  admits file path name := by
    rintro ⟨total, ⟨sent, is_sent, -, rfl⟩, opens⟩
    rw [files_intoFile, is_sent.appended]
    exact RuleSet.admits_append emptied opens.of_append
  isReadable file rel := by
    rintro ⟨total, ⟨sent, is_sent, -, -⟩, -⟩
    rw [files_intoFile, is_sent.appended, (after.sameShape_append place sent).isReadable_eq]
  bytes file rel := by
    rintro ⟨total, ⟨sent, is_sent, -, -⟩, -⟩ elsewhere
    rw [files_intoFile, is_sent.appended, FileSystem.regularBytes_append elsewhere]
  write file packed := by
    rintro ⟨total, holds, opens⟩ - success
    rcases holds.writeAll_cases packed.pieces with ⟨-, now_holds⟩ | ⟨fails, -⟩
    · exact ⟨_, now_holds, opens.append (Block.opens_pieces _ _)⟩
    · have failure : (BufferedFile.output.writeAll packed.pieces file).2 = none := success
      rw [fails] at failure
      cases failure

/-- Packs into memory what would be packed into a file. -/
def inMemory (rules : RuleSet) (root output : NativePath) (start : Option NativePath)
    (diagnostics : Writer ε) (files : FileSystem) : PackJob Memory ε where
  rules := rules
  root := root
  skip := (files.canonicalize output).toOption
  start := start
  output := Memory.output files
  diagnostics := diagnostics

/-- What a run into memory has come to, as its acts have it. -/
theorem acts_of_memory {σ : Type} (job : PackJob σ δ) {others : Writer ε}
    {start : Option NativePath} {memo : ε} {state : PackState Memory ε}
    (done : ((job.into (Memory.output files) others).telling others start).run (.ofLimit none)
      memo = .done state) :
    ∃ depth, .stop ∉ job.runActs files depth ∧
      state.out.taken = ((job.runActs files depth).flatMap Act.pieces).flatten ∧
      state.seen = (packed (job.runActs files depth)).reverse.map
        (fun file => job.filePath file.rel) ∧
      state.report = (job.runActs files depth).foldl Act.count .empty := by
  have related := ((job.into (Memory.output files) others).simulates_telling others start).run
    (.ofLimit none) (.ofLimit none) memo memo rfl trivial
  rw [done] at related
  obtain ⟨first, ran, alike⟩ := related.exists_of_done
  have takes : (job.into (Memory.output files) others).output.TakesAll files (.ofLimit none) :=
    Memory.takesAll_output files
  have ends : (job.into (Memory.output files) others).run (.ofLimit none) memo ≠ .tooDeep := by
    simp [ran]
  obtain ⟨depth, same⟩ := exists_runWithin_of_run ends
  rw [← same] at ends
  rw [ran] at same
  obtain ⟨goes_on, _, also_done, performed⟩ := runWithin_of_takesAll takes ends
  cases same.symm.trans also_done
  rw [runActs_into] at goes_on performed
  refine ⟨depth, goes_on, ?_, ?_, ?_⟩
  · have out : first.out = ((Memory.output files).writeAll
        ((job.runActs files depth).flatMap Act.pieces) ⟨[], none⟩).1 :=
      congrArg PackState.out performed
    rw [← alike.out, out, Memory.writeAll_output, List.nil_append]
  · have seen : first.seen = (packed (job.runActs files depth)).reverse.map
        (fun file => job.filePath file.rel) ++ [] := congrArg PackState.seen performed
    rw [alike.seen, seen, List.append_nil]
  · have report : first.report = (job.runActs files depth).foldl Act.count .empty :=
      congrArg PackState.report performed
    rw [alike.report, report]

/-- What a run into the artifact comes to that performs acts, once the artifact is closed. -/
theorem ofRun_cases {diagnostics : Writer δ} {diag : δ} {acts : List Act}
    {outcome : WalkOutcome (PackState BufferedFile δ) IoError}
    (performs : (intoFile rules root output diagnostics after).Performs acts
      (.initial (.opened after place) diag) outcome)
    (goes_on : .stop ∉ acts) :
    (after.Takes place (acts.flatMap Act.pieces).flatten.length ∧
      (ArtifactRun.ofRun after diag outcome).result = .ok (acts.foldl Act.count .empty) ∧
      (ArtifactRun.ofRun after diag outcome).files =
        after.append place (acts.flatMap Act.pieces).flatten) ∨
    (¬after.Takes place (acts.flatMap Act.pieces).flatten.length ∧
      (ArtifactRun.ofRun after diag outcome).result = .error (.write .noSpace)) := by
  rcases (BufferedFile.holds_opened after place).writeAll_cases (acts.flatMap Act.pieces) with
    ⟨success, holds⟩ | ⟨failure, too_much⟩
  · obtain ⟨final, rfl, performed⟩ := performs.done goes_on success
    have out : final.out =
        (BufferedFile.output.writeAll (acts.flatMap Act.pieces) (.opened after place)).1 :=
      congrArg PackState.out performed
    have report : final.report = acts.foldl Act.count .empty :=
      congrArg PackState.report performed
    rw [← out, List.nil_append] at holds
    rw [← report]
    -- All blocks are written, but the end of them may still be in the buffer.
    rcases holds.flush_cases with ⟨flushed, takes, is_sent, -⟩ | ⟨fails, too_much⟩
    · refine Or.inl ⟨takes, ?_, is_sent.appended⟩
      rw [ArtifactRun.ofRun, ArtifactRun.result_close, flushed]
    · refine Or.inr ⟨too_much, ?_⟩
      rw [ArtifactRun.ofRun, ArtifactRun.result_close, fails]
  · obtain ⟨front, forced, file, back, final, -, -, -, rfl, -⟩ := performs.failed goes_on failure
    exact Or.inr ⟨too_much, rfl⟩

/-- What packing into a file comes to, given what is packed into memory. -/
theorem packToFile_cases (diagnostics : Writer δ) (others : Writer ε) (diag : δ) (memo : ε)
    (start : Option NativePath) (created : files.create output = .ok (after, place))
    {state : PackState Memory ε}
    (done : (inMemory rules root output start others after).run (.ofLimit none) memo =
      .done state)
    (apart : ∀ path ∈ state.seen, ∀ node, after.locate .target path ≠ .ok (place, node)) :
    (after.Takes place state.out.taken.length ∧
      (packToFile rules root output diagnostics files diag).result = .ok state.report ∧
      (packToFile rules root output diagnostics files diag).files =
        after.append place state.out.taken) ∨
    (¬after.Takes place state.out.taken.length ∧
      (packToFile rules root output diagnostics files diag).result =
        .error (.write .noSpace)) := by
  obtain ⟨depth, goes_on, full, seen, report⟩ :=
    acts_of_memory (intoFile rules root output diagnostics after) done
  have emptied (contents : Bytes) (held : after.at? place = some (.file contents)) :
      contents = [] := FileSystem.empty_of_create created held
  have presents := presents_intoFile rules root output diagnostics emptied
  have start_holds : ∃ total, BufferedFile.Holds after place total (.opened after place) ∧
      Block.Opens total := ⟨[], BufferedFile.holds_opened after place, Block.opens_nil⟩
  have all_packed : AllPacked (fun rel => ∀ node, after.locate .target
      ((intoFile rules root output diagnostics after).filePath rel) ≠ .ok (place, node))
      ((intoFile rules root output diagnostics after).runActs after depth) := by
    intro file member
    refine apart _ ?_
    rw [seen]
    exact List.mem_map_of_mem (List.mem_reverse.2 member)
  have performs := presents.runWithin start_holds depth diag all_packed
  rw [full, report, packToFile_of_create diag created,
    run_of_runWithin (performs.ne_tooDeep goes_on)]
  exact ofRun_cases performs goes_on

/-- Packing into a file succeeds exactly if the file takes all that is packed into memory, and then
it holds just that. Otherwise it fails for want of space. This is so as long as the file itself is
not packed, be it under another name. -/
theorem packToFile_ok_iff (diagnostics : Writer δ) (others : Writer ε) (diag : δ) (memo : ε)
    (start : Option NativePath) (created : files.create output = .ok (after, place))
    {state : PackState Memory ε}
    (done : (inMemory rules root output start others after).run (.ofLimit none) memo =
      .done state)
    (apart : ∀ path ∈ state.seen, ∀ node, after.locate .target path ≠ .ok (place, node)) :
    ((∃ report, (packToFile rules root output diagnostics files diag).result = .ok report) ↔
      after.Takes place state.out.taken.length) ∧
    (after.Takes place state.out.taken.length →
      (packToFile rules root output diagnostics files diag).result = .ok state.report ∧
      (packToFile rules root output diagnostics files diag).files =
        after.append place state.out.taken ∧
      ∀ contents, after.at? place = some (.file contents) →
        (packToFile rules root output diagnostics files diag).files.at? place =
          some (.file state.out.taken)) ∧
    (¬after.Takes place state.out.taken.length →
      (packToFile rules root output diagnostics files diag).result =
        .error (.write .noSpace)) := by
  rcases packToFile_cases diagnostics others diag memo start created done apart with
    ⟨takes, succeeds, left⟩ | ⟨too_much, fails⟩
  · refine ⟨⟨fun _ => takes, fun _ => ⟨_, succeeds⟩⟩, fun _ => ⟨succeeds, left, ?_⟩, absurd takes⟩
    intro contents held
    obtain rfl := FileSystem.empty_of_create created held
    rw [left, FileSystem.append_of_at? held]
    exact Node.at?_alterAt held
  · refine ⟨⟨?_, fun takes => absurd takes too_much⟩, fun takes => absurd takes too_much,
      fun _ => fails⟩
    rintro ⟨report, succeeds⟩
    rw [fails] at succeeds
    cases succeeds

/-- Of a tree with vendored files, an empty artifact in it takes the one block. -/
theorem packToFile_ok_iff_vendored :
    ∃ state : PackState Memory Unit,
      (inMemory .forOwnSources (.ofString "/") (.ofString "out.md") none .sink
        .vendoredCreated).run (.ofLimit none) () = .done state ∧
      state.out.taken = Block.bytes "src/x.c" "own" ∧
      (packToFile .forOwnSources (.ofString "/") (.ofString "out.md") .sink .vendored
        ()).files.at? [Utf8.ofString "out.md"] = some (.file state.out.taken) := by
  have packs : ((inMemory .forOwnSources (.ofString "/") (.ofString "out.md") none .sink
      .vendoredCreated).runWithin 2 (.initial (.ofLimit none) ())).state?.map
        (fun state : PackState Memory Unit => (state.seen, state.out.taken)) =
      some ([NativePath.ofString "/src/x.c"], Block.bytes "src/x.c" "own") := by decide +kernel
  obtain ⟨state, done, viewed⟩ := exists_run_of_within packs
  have seen : state.seen = [NativePath.ofString "/src/x.c"] := congrArg Prod.fst viewed
  refine ⟨state, done, congrArg Prod.snd viewed, ?_⟩
  have apart : ∀ path ∈ state.seen, ∀ node,
      FileSystem.vendoredCreated.locate .target path ≠ .ok ([Utf8.ofString "out.md"], node) := by
    intro path member node leads
    rw [seen, List.mem_singleton] at member
    subst member
    cases leads
  have takes : FileSystem.vendoredCreated.Takes [Utf8.ofString "out.md"]
      state.out.taken.length := by
    intro room held
    cases held
  exact ((packToFile_ok_iff .sink .sink () () none FileSystem.create_vendored done
    apart).2.1 takes).2.2 [] rfl

/-- The block is kept in the buffer, and only the last flush finds that the device is too small. -/
example :
    (packToFile .forOwnSources (.ofString "/") (.ofString "small") .sink
      (FileSystem.vendored.alterAt [Utf8.ofString "small"] fun _ => some (.device (some 23)))
      ()).result = .error (.write .noSpace) :=
  packToFile_of_within 2 rfl (by decide +kernel)

end PackJob
end TreeBundle
