import TreeBundle.CommandLine.Run
import TreeBundle.Proofs.FileSystem.Changed
import TreeBundle.Proofs.Pack.Again

/-!
# What a command changes

Only packing changes files, and only the file that its output path denotes. That file is created
once the rules have been found and compiled, so a run that fails before leaves it as it is.
-/
namespace TreeBundle
set_option autoImplicit false

/-! ## Packing -/

/-- Packing into a file changes nothing but that file. -/
theorem changedAt_packToFile {δ : Type} (rules : RuleSet) (root : NativePath) {output : NativePath}
    (diagnostics : Writer δ) {files after : FileSystem} (diag : δ) {place : Place}
    (created : files.create output = .ok (after, place)) :
    files.ChangedAt (packToFile rules root output diagnostics files diag).files place := by
  obtain ⟨sent, left⟩ := exists_files_packToFile rules root diagnostics diag created
  rw [left]
  exact (FileSystem.changedAt_of_create created).append sent

theorem packToFile_of_create_error {δ : Type} (rules : RuleSet) (root : NativePath)
    {output : NativePath} (diagnostics : Writer δ) {files : FileSystem} (diag : δ)
    {problem : IoError} (refused : files.create output = .error problem) :
    packToFile rules root output diagnostics files diag =
      ⟨files, diag, [], .error (.outputOpen output problem)⟩ := by
  rw [packToFile, refused]

namespace CommandLine

variable {files : FileSystem} {invocation : Invocation} {rules : RuleSet}

theorem files_runPack (files : FileSystem) (log : List Event) (root : NativePath)
    (rules : RuleSet) (output : NativePath) (quiet stats : Bool) :
    (runPack files log root rules output quiet stats).files =
      (packToFile rules root output Memory.writer files (.ofLimit none)).files := by
  simp only [runPack]
  split <;> rfl

/-! ## Commands -/

/-- The root of a run. -/
def Invocation.rootPath (invocation : Invocation) (files : FileSystem) : NativePath :=
  (files.canonicalize (.ofString invocation.root)).toOption.getD (.ofString invocation.root)

/-- The tables of a run and the file they come from. -/
def Invocation.discovered (invocation : Invocation) (files : FileSystem) :
    Except RulesError (RuleTables × Option NativePath) :=
  RuleTables.discover files (invocation.rootPath files) (invocation.rules.map NativePath.ofString)

/-- The rules of a run, or why it has none. -/
def Invocation.ruleSet (invocation : Invocation) (files : FileSystem) :
    Except CommandError RuleSet :=
  match invocation.discovered files with
  | .error problem => .error (.rules problem)
  | .ok (tables, _) => (RuleSet.compile tables).mapError .badPattern

/-- How the rules of a run are arrived at: tables are found and compiled, or one of that fails. -/
theorem Invocation.ruleSet_cases (invocation : Invocation) (files : FileSystem) :
    (∃ problem, invocation.discovered files = .error problem ∧
      invocation.ruleSet files = .error (.rules problem)) ∨
    ∃ tables source, invocation.discovered files = .ok (tables, source) ∧
      ((∃ problem, RuleSet.compile tables = .error problem ∧
        invocation.ruleSet files = .error (.badPattern problem)) ∨
      ∃ rules, RuleSet.compile tables = .ok rules ∧ invocation.ruleSet files = .ok rules) := by
  rw [ruleSet]
  cases found : invocation.discovered files with
  | error problem => exact .inl ⟨problem, rfl, rfl⟩
  | ok loaded =>
    obtain ⟨tables, source⟩ := loaded
    refine .inr ⟨tables, source, rfl, ?_⟩
    simp only
    cases compiled : RuleSet.compile tables with
    | error problem => exact .inl ⟨problem, rfl, rfl⟩
    | ok rules => exact .inr ⟨rules, rfl, rfl⟩

/-- A run whose tables cannot be found or read ends before anything is done. -/
theorem run_of_undiscovered {problem : RulesError}
    (failed : invocation.discovered files = .error problem) :
    run files invocation = .failed files [] (.rules problem) := by
  simp only [Invocation.discovered, Invocation.rootPath] at failed
  simp only [run, failed]

/-- Packing begins once the tables have been compiled. -/
theorem run_pack_of_discovered {path : String} {stats : Bool} {tables : RuleTables}
    {source : Option NativePath} (packs : invocation.command = .pack path stats)
    (found : invocation.discovered files = .ok (tables, source)) :
    run files invocation =
      match RuleSet.compile tables with
      | .error problem =>
        .failed files (source.map Event.rulesLoaded).toList (.badPattern problem)
      | .ok rules =>
        runPack files (source.map Event.rulesLoaded).toList (invocation.rootPath files) rules
          (.ofString path) invocation.quiet stats := by
  simp only [Invocation.discovered, Invocation.rootPath] at found
  cases compiled : RuleSet.compile tables with
  | error problem => simp only [run, found, packs, compiled]
  | ok rules => simp only [run, found, packs, compiled, Invocation.rootPath]

/-- Without rules nothing is packed. -/
theorem run_pack_of_error {path : String} {stats : Bool} {problem : CommandError}
    (packs : invocation.command = .pack path stats)
    (no_rules : invocation.ruleSet files = .error problem) :
    (run files invocation).files = files ∧ (run files invocation).result = .error problem := by
  rcases invocation.ruleSet_cases files with ⟨cause, failed, result⟩ |
    ⟨tables, source, found, ⟨bad, refused, result⟩ | ⟨rules, -, result⟩⟩
  · cases no_rules.symm.trans result
    rw [run_of_undiscovered failed]
    exact ⟨rfl, rfl⟩
  · cases no_rules.symm.trans result
    rw [run_pack_of_discovered packs found, refused]
    exact ⟨rfl, rfl⟩
  · cases no_rules.symm.trans result

/-- With rules it is begun. -/
theorem run_pack_of_ruleSet {path : String} {stats : Bool}
    (packs : invocation.command = .pack path stats)
    (has_rules : invocation.ruleSet files = .ok rules) :
    ∃ log, run files invocation =
      runPack files log (invocation.rootPath files) rules (.ofString path) invocation.quiet
        stats := by
  rcases invocation.ruleSet_cases files with ⟨cause, -, result⟩ |
    ⟨tables, source, found, ⟨bad, -, result⟩ | ⟨others, compiled, result⟩⟩
  · cases has_rules.symm.trans result
  · cases has_rules.symm.trans result
  · cases has_rules.symm.trans result
    refine ⟨(source.map Event.rulesLoaded).toList, ?_⟩
    rw [run_pack_of_discovered packs found, compiled]

theorem files_run_explain {paths : List String} {pretty : Bool}
    (explains : invocation.command = .explain paths pretty) :
    (run files invocation).files = files := by
  simp only [run, explains]
  split
  · rfl
  · split <;> rfl

theorem files_run_rules (prints : invocation.command = .rules) :
    (run files invocation).files = files := by
  simp only [run, prints]
  split <;> rfl

/-- Arguments that name no command ask for packing. -/
theorem command_of_read {arguments : List String} {environment : Option String} {said : Said}
    (unnamed : readLevel .top false .nothing arguments = .ok (said, none))
    (result : read arguments environment = .ok invocation) :
    invocation.command = .pack defaultOutput false := by
  rw [read, unnamed] at result
  simp only [bind, Except.bind] at result
  split at result
  · cases result
  · cases result
    rfl

/-- A command touches nothing but the artifact, and that only once its rules are known to be good.
Explaining and printing the rules change no file. Packing, also where it is asked for by naming no
command, changes none if its rules cannot be found, read or compiled, or its output cannot be
created. Otherwise what changes is the file that the output path denotes, by being there or by what
it holds. -/
theorem run_changes_artifact_only (files : FileSystem) (invocation : Invocation) :
    (∀ paths pretty, invocation.command = .explain paths pretty →
      (run files invocation).files = files) ∧
    (invocation.command = .rules → (run files invocation).files = files) ∧
    (∀ arguments environment said, readLevel .top false .nothing arguments = .ok (said, none) →
      read arguments environment = .ok invocation →
      invocation.command = .pack defaultOutput false) ∧
    ∀ path stats, invocation.command = .pack path stats →
      (∀ problem, invocation.ruleSet files = .error problem →
        (run files invocation).files = files ∧
          (run files invocation).result = .error problem) ∧
      ∀ rules, invocation.ruleSet files = .ok rules →
        (∀ problem, files.create (.ofString path) = .error problem →
          (run files invocation).files = files ∧
            (run files invocation).result =
              .error (.pack (.outputOpen (.ofString path) problem))) ∧
        ∀ after place, files.create (.ofString path) = .ok (after, place) →
          files.Denotes (.ofString path) place ∧
            files.ChangedAt (run files invocation).files place := by
  refine ⟨fun paths pretty => files_run_explain, files_run_rules, fun _ _ _ => command_of_read,
    fun path stats packs => ⟨fun problem => run_pack_of_error packs, fun rules found => ?_⟩⟩
  obtain ⟨log, ran⟩ := run_pack_of_ruleSet packs found
  rw [ran]
  refine ⟨fun problem refused => ?_, fun after place created => ⟨?_, ?_⟩⟩
  · rw [runPack, packToFile_of_create_error rules _ Memory.writer (.ofLimit none) refused]
    exact ⟨rfl, rfl⟩
  · exact FileSystem.denotes_of_create created
  · rw [files_runPack]
    exact changedAt_packToFile rules _ Memory.writer (.ofLimit none) created

/-- A working directory whose name is no text, with a rules file and an artifact. -/
def ruledBy (document : String) : FileSystem where
  root := .directory [([0xE9], .directory
    [(Utf8.ofString RuleTables.fileName, .file (Utf8.ofString document)),
      (Utf8.ofString defaultOutput, .file (Utf8.ofString "kept"))])]
  working := [[0xE9]]

def unfinished : FileSystem :=
  ruledBy "exclude_dirs"

def patternless : FileSystem :=
  ruledBy "include_regexes = []\nexclude_regexes = []\n"

/-- Packs the working directory. -/
def packHere : Invocation where
  root := "."
  rules := none
  quiet := true
  verbose := false
  command := .pack defaultOutput false

/-- A rules file that breaks off leaves the artifact as it was. One that gives no patterns has it
written, and nothing else is. -/
theorem run_changes_artifact_only_packHere :
    ((run unfinished packHere).files = unfinished ∧
      (run unfinished packHere).result =
        .error (.rules (.unusable (FileSystem.pathOf [[0xE9], Utf8.ofString RuleTables.fileName])
          .malformed))) ∧
    patternless.ChangedAt (run patternless packHere).files
      [[0xE9], Utf8.ofString defaultOutput] := by
  have broken := (run_changes_artifact_only unfinished packHere).2.2.2 _ _ rfl
  have sound := (run_changes_artifact_only patternless packHere).2.2.2 _ _ rfl
  have undiscovered : packHere.discovered unfinished = .error (.unusable
      (FileSystem.pathOf [[0xE9], Utf8.ofString RuleTables.fileName]) .malformed) := by
    decide +kernel
  have no_rules : packHere.ruleSet unfinished = .error (.rules (.unusable
      (FileSystem.pathOf [[0xE9], Utf8.ofString RuleTables.fileName]) .malformed)) := by
    rw [Invocation.ruleSet, undiscovered]
  have has_rules : (packHere.ruleSet patternless).toOption.isSome = true := by decide +kernel
  refine ⟨broken.1 _ no_rules, ?_⟩
  cases found : packHere.ruleSet patternless with
  | error problem =>
    rw [found] at has_rules
    cases has_rules
  | ok rules => exact ((sound.2 rules found).2 _ _ rfl).2

end CommandLine
end TreeBundle
