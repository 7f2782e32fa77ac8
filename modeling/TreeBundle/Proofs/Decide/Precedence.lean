import TreeBundle.Decide.Classify
import TreeBundle.Proofs.Decide.Extension
import TreeBundle.Proofs.Rules.Patterns
import TreeBundle.Proofs.Rules.RuleSet
import TreeBundle.Proofs.Text.Lossy

/-!
# The order of the rules on configured tables

Each rule has a condition that can be read off the tables as they are configured, with or without
the dots of their extensions. A file is decided by the first rule whose condition holds. Only the
condition of the shebang rule speaks of what the file holds.
-/
namespace TreeBundle
set_option autoImplicit false

namespace RuleSet

/-! ## Extensions in tables -/

theorem normalizeExtension_ne_empty (entry : String) : normalizeExtension entry ≠ "" := by
  intro empty
  rw [normalizeExtension] at empty
  split at empty
  · next dotted =>
    rw [empty] at dotted
    cases dotted
  · exact absurd (congrArg String.toList empty) (by simp)

/-- Behind its only dot an extension is compared as it stands, and so is one with its dot. -/
theorem normalizeExtension_eq_iff {entry bare : String} (no_dot : '.' ∉ bare.toList) :
    normalizeExtension entry = "." ++ bare ↔ entry = "." ++ bare ∨ entry = bare := by
  have dotted : ("." ++ bare).toList.head? = some '.' := by simp
  have undotted : bare.toList.head? ≠ some '.' := fun first => no_dot (List.mem_of_mem_head? first)
  rw [normalizeExtension]
  split
  · next starts =>
    refine ⟨Or.inl, fun either => either.resolve_right fun same => undotted ?_⟩
    rw [← same, starts]
  · next starts =>
    constructor
    · intro same
      exact .inr (String.append_right_inj "." |>.1 same)
    · rintro (rfl | rfl)
      · exact absurd dotted starts
      · rfl

/-- Whether some configured extensions hold one, with its dot or without. -/
def ListsExtension (entries : StringSet) (extension : String) : Prop :=
  extension ≠ "" ∧ (extension ∈ entries.toList ∨ ∃ bare ∈ entries.toList, "." ++ bare = extension)

theorem contains_extension_iff (entries : StringSet) (name : String) :
    (entries.toList.map normalizeExtension).contains (FileName.extension name) = true ↔
      ListsExtension entries (FileName.extension name) := by
  rw [List.contains_iff_mem, List.mem_map, ListsExtension]
  rcases FileName.extension_cases name with none | ⟨bare, spelled, no_dot⟩
  · rw [none]
    constructor
    · rintro ⟨entry, -, empty⟩
      exact absurd empty (normalizeExtension_ne_empty entry)
    · exact fun listed => absurd rfl listed.1
  · have nonempty : "." ++ bare ≠ "" := fun empty =>
      absurd (congrArg String.toList empty) (by simp)
    rw [spelled]
    constructor
    · rintro ⟨entry, member, same⟩
      rcases (normalizeExtension_eq_iff no_dot).1 same with rfl | rfl
      · exact ⟨nonempty, .inl member⟩
      · exact ⟨nonempty, .inr ⟨entry, member, rfl⟩⟩
    · rintro ⟨-, member | ⟨entry, member, same⟩⟩
      · exact ⟨_, member, (normalizeExtension_eq_iff no_dot).2 (.inl rfl)⟩
      · exact ⟨entry, member,
          (normalizeExtension_eq_iff no_dot).2 (.inr (String.append_right_inj "." |>.1 same))⟩

/-! ## Shebangs -/

/-- The limit on what is inspected leaves room for the mark. -/
theorem prefix_firstLineOf_iff (bytes : Bytes) :
    shebangMark <+: (FileSystem.firstLineOf FileSystem.firstLineLimit bytes).toList ↔
      Utf8.encode shebangMark <+: bytes.takeWhile (· != FileSystem.lineFeed) := by
  have faithful : Utf8.replacement ∉ shebangMark := by decide
  have fits : (Utf8.encode shebangMark).length ≤ FileSystem.firstLineLimit := by decide
  rw [FileSystem.firstLineOf, Utf8.lossyString, String.toList_ofList,
    Utf8.prefix_decodeLossy_iff faithful, ← List.take_takeWhile, List.prefix_take_iff]
  exact and_iff_left fits

end RuleSet

/-- Whether a regular file starts with `#!`. -/
def FileSystem.StartsWithMark (files : FileSystem) (path : NativePath) : Prop :=
  ∃ bytes, files.regularBytes path = .ok bytes ∧
    Utf8.encode RuleSet.shebangMark <+: bytes.takeWhile (· != lineFeed)

/-- The condition of a rule, on the tables as they are configured. -/
def RuleTables.Meets (tables : RuleTables) (files : FileSystem) (name : String)
    (dir : NativePath) : RuleKind → Prop
  | .excludeFilename => name ∈ tables.excludeFilenames.toList
  | .excludeExtension =>
    RuleSet.ListsExtension tables.excludeExtensions (FileName.extension name)
  | .excludeRegex => ∃ pattern ∈ tables.excludeRegexes, Pattern.Contributes pattern name
  | .includeFilename => name ∈ tables.includeFilenames.toList
  | .includeExtension =>
    RuleSet.ListsExtension tables.includeExtensions (FileName.extension name)
  | .includeRegex => ∃ pattern ∈ tables.includeRegexes, Pattern.Contributes pattern name
  | .shebang => tables.includeShebang = true ∧ FileName.extension name = "" ∧
      files.StartsWithMark (dir.join (.ofString name))
  | .byDefault => True

namespace RuleSet

variable {tables : RuleTables} {rules : RuleSet}

theorem hasShebang_iff (files : FileSystem) (name : String) (dir : NativePath) :
    rules.hasShebang files name dir = true ↔
      rules.includeShebang = true ∧ FileName.extension name = "" ∧
        files.StartsWithMark (dir.join (.ofString name)) := by
  rw [hasShebang, FileSystem.StartsWithMark, FileSystem.firstLine]
  cases files.regularBytes (dir.join (.ofString name)) with
  | error problem => simp [Except.map]
  | ok bytes => simp [Except.map, prefix_firstLineOf_iff, and_assoc]

/-- A compiled rule applies exactly where its condition on the tables holds. -/
theorem applies_iff_meets (compiled : compile tables = .ok rules) (files : FileSystem)
    (name : String) (dir : NativePath) (kind : RuleKind) :
    rules.applies files name dir kind = true ↔ tables.Meets files name dir kind := by
  obtain ⟨included, excluded⟩ := patterns_of_compile compiled
  have tables_eq := eq_of_compile compiled
  cases kind with
  | excludeFilename =>
    rw [applies, isExcludedFilename, tables_eq, List.contains_iff_mem]
    rfl
  | excludeExtension =>
    rw [applies, isExcludedExtension, tables_eq, contains_extension_iff]
    rfl
  | excludeRegex => exact (compiled_table excluded).2 name
  | includeFilename =>
    rw [applies, isIncludedFilename, tables_eq, List.contains_iff_mem]
    rfl
  | includeExtension =>
    rw [applies, isIncludedExtension, tables_eq, Bool.and_eq_true, contains_extension_iff, bne_iff_ne]
    exact and_iff_right_of_imp And.left
  | includeRegex => exact (compiled_table included).2 name
  | shebang =>
    rw [applies, hasShebang_iff, tables_eq]
    rfl
  | byDefault => exact iff_of_true rfl trivial

/-! ## The order -/

theorem rank_getElem (i : Nat) (inside : i < RuleKind.all.length) : RuleKind.all[i].rank = i := by
  have ranks : RuleKind.all.map RuleKind.rank = List.range RuleKind.all.length := rfl
  have at_i : (RuleKind.all.map RuleKind.rank)[i]? = some i := by
    rw [ranks, List.getElem?_range inside]
  rw [List.getElem?_map, List.getElem?_eq_getElem inside] at at_i
  exact Option.some.inj at_i

theorem getElem_rank (kind : RuleKind) :
    ∃ inside : kind.rank < RuleKind.all.length, RuleKind.all[kind.rank] = kind := by
  cases kind <;> exact ⟨by decide, rfl⟩

/-- What is found first has the least rank. -/
theorem find?_all_eq_some_iff {holds : RuleKind → Bool} {kind : RuleKind} :
    RuleKind.all.find? holds = some kind ↔
      holds kind = true ∧ ∀ earlier, earlier.rank < kind.rank → holds earlier = false := by
  rw [List.find?_eq_some_iff_getElem]
  obtain ⟨inside, at_rank⟩ := getElem_rank kind
  refine and_congr_right fun _ => ⟨?_, fun least => ?_⟩
  · rintro ⟨i, i_inside, rfl, before⟩ earlier less
    obtain ⟨_, at_earlier⟩ := getElem_rank earlier
    rw [rank_getElem i i_inside] at less
    have fails := before earlier.rank less
    rw [at_earlier] at fails
    simpa using fails
  · refine ⟨kind.rank, inside, at_rank, fun j less => ?_⟩
    have fails := least RuleKind.all[j] (by rw [rank_getElem]; exact less)
    rw [fails]
    rfl

theorem decide_eq_byRule (rules : RuleSet) (files : FileSystem) (name : String)
    (dir : NativePath) :
    ∃ kind, RuleKind.all.find? (rules.applies files name dir) = some kind ∧
      rules.decide files name dir = .byRule kind := by
  have whole : RuleKind.all = fileRules ++ [.byDefault] := rfl
  rw [whole, List.find?_append, decide]
  cases fileRules.find? (rules.applies files name dir) with
  | some kind => exact ⟨kind, rfl, rfl⟩
  | none => exact ⟨.byDefault, rfl, rfl⟩

theorem rule_decide_eq_iff (compiled : compile tables = .ok rules) {files : FileSystem}
    {name : String} {dir : NativePath} {kind : RuleKind} :
    (rules.decide files name dir).rule = kind ↔
      tables.Meets files name dir kind ∧
        ∀ earlier, earlier.rank < kind.rank → ¬ tables.Meets files name dir earlier := by
  obtain ⟨first, found, decided⟩ := rules.decide_eq_byRule files name dir
  have same : (rules.decide files name dir).rule = first := congrArg Decision.rule decided
  rw [same, ← Option.some_inj, ← found, find?_all_eq_some_iff]
  simp only [applies_iff_meets compiled, ← Bool.not_eq_true]

theorem decide_eq_byRule_rule (rules : RuleSet) (files : FileSystem) (name : String)
    (dir : NativePath) :
    rules.decide files name dir = .byRule (rules.decide files name dir).rule := by
  obtain ⟨first, -, decided⟩ := rules.decide_eq_byRule files name dir
  rw [decided]
  rfl

/-- Up to the last of the name rules it does not matter which files there are. -/
theorem meets_of_rank_lt {files : FileSystem} {name : String} {dir : NativePath} {kind : RuleKind}
    (by_name : kind.rank < RuleKind.shebang.rank) (others : FileSystem) (other_dir : NativePath) :
    tables.Meets files name dir kind ↔ tables.Meets others name other_dir kind := by
  cases kind with
  | shebang => exact absurd by_name (by decide)
  | byDefault => exact absurd by_name (by decide)
  | _ => exact Iff.rfl

theorem verdict_eq_admitted_iff (kind : RuleKind) :
    kind.verdict = .admitted ↔
      kind ∈ [.includeFilename, .includeExtension, .includeRegex, .shebang] := by
  cases kind <;> decide

/-- A file is decided by the first rule whose condition holds on the configured tables, and is
admitted by the last four rules before the default. No table lists the missing extension, and where
the condition of a name rule holds, nothing depends on the files or on the directory. -/
theorem decide_first_condition (compiled : compile tables = .ok rules) (files : FileSystem)
    (name : String) (dir : NativePath) :
    (∀ kind, (rules.decide files name dir).rule = kind ↔
      tables.Meets files name dir kind ∧
        ∀ earlier, earlier.rank < kind.rank → ¬ tables.Meets files name dir earlier) ∧
    ((rules.decide files name dir).verdict = .admitted ↔
      (rules.decide files name dir).rule ∈
        [.includeFilename, .includeExtension, .includeRegex, .shebang]) ∧
    (FileName.extension name = "" →
      rules.applies files name dir .excludeExtension = false ∧
        rules.applies files name dir .includeExtension = false) ∧
    ((∃ kind, kind.rank < RuleKind.shebang.rank ∧ tables.Meets files name dir kind) →
      ∀ others other_dir, rules.decide others name other_dir = rules.decide files name dir) := by
  have decided := rules.decide_eq_byRule_rule files name dir
  refine ⟨fun kind => rule_decide_eq_iff compiled, ?_, fun none => ?_, ?_⟩
  · rw [← verdict_eq_admitted_iff, congrArg Decision.verdict decided]
    rfl
  · have unlisted : ∀ entries, ¬ ListsExtension entries (FileName.extension name) :=
      fun entries listed => listed.1 none
    rw [← Bool.not_eq_true, ← Bool.not_eq_true, applies_iff_meets compiled,
      applies_iff_meets compiled]
    exact ⟨unlisted _, unlisted _⟩
  · rintro ⟨early, early_by_name, early_meets⟩ others other_dir
    obtain ⟨meets, least⟩ := (rule_decide_eq_iff compiled).1 (rfl :
      (rules.decide files name dir).rule = _)
    -- The rule that decides is the first one, so it goes by the name as well.
    have by_name : (rules.decide files name dir).rule.rank < RuleKind.shebang.rank := by
      refine Nat.lt_of_le_of_lt (Nat.not_lt.1 fun before => ?_) early_by_name
      exact least early before early_meets
    have same : (rules.decide others name other_dir).rule = (rules.decide files name dir).rule := by
      refine (rule_decide_eq_iff compiled).2 ⟨?_, fun earlier before => ?_⟩
      · exact (meets_of_rank_lt by_name others other_dir).1 meets
      · rw [← meets_of_rank_lt (Nat.lt_trans before by_name) others other_dir]
        exact least earlier before
    rw [decided, ← same]
    exact rules.decide_eq_byRule_rule others name other_dir

/-- Tables that admit a file by its name and reject its extension, which is listed without dot. -/
def namedAndRejected : RuleTables :=
  { ownSources with
    includeFilenames := .ofList ["x.c"]
    excludeExtensions := .ofList ["c"] }

/-- The rejection comes first, and the dot does not matter. -/
theorem decide_first_condition_namedAndRejected :
    compile namedAndRejected =
      .ok { forOwnSources with includeFilenames := ["x.c"], excludeExtensions := [".c"] } ∧
    ∀ files dir,
      (decide { forOwnSources with includeFilenames := ["x.c"], excludeExtensions := [".c"] }
        files "x.c" dir).rule = .excludeExtension := by
  have compiled : compile namedAndRejected =
      .ok { forOwnSources with includeFilenames := ["x.c"], excludeExtensions := [".c"] } := rfl
  have extension : FileName.extension "x.c" = ".c" := by decide +kernel
  refine ⟨compiled, fun files dir => ?_⟩
  refine ((decide_first_condition compiled files "x.c" dir).1 .excludeExtension).2 ⟨?_, ?_⟩
  · rw [RuleTables.Meets, extension]
    exact ⟨by decide, .inr ⟨"c", List.mem_cons_self, rfl⟩⟩
  · intro earlier before
    cases earlier with
    | excludeFilename => exact List.not_mem_nil
    | _ => exact absurd before (by decide)

end RuleSet
end TreeBundle
