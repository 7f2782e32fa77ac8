import TreeBundle.CommandLine.Run
import TreeBundle.Proofs.Data.Records
import TreeBundle.Proofs.FileSystem.Tree
import TreeBundle.Proofs.Rules.RuleSet

/-!
# Output for programs

What is printed without indentation has one line for each value, since no line feed is left inside
of one. So a program that splits the output at its line feeds and decodes each line gets back what
was printed.
-/
namespace TreeBundle.CommandLine
set_option autoImplicit false

/-! ## Lines -/

theorem toList_lines_cons (text : String) (texts : List String) :
    (lines (text :: texts)).toList = text.toList ++ '\n' :: (lines texts).toList := by
  rw [lines, List.map_cons, String.join_cons, String.toList_append, String.toList_append, ← lines,
    List.append_assoc]
  rfl

/-- Lines are found again between the line feeds, with nothing after the last one. -/
theorem pieces_lines {texts : List String} (free : ∀ text ∈ texts, '\n' ∉ text.toList) :
    Text.pieces (· == '\n') (lines texts).toList = texts.map String.toList ++ [[]] := by
  induction texts with
  | nil => rfl
  | cons text texts ih =>
    have text_free : ∀ c ∈ text.toList, (c == '\n') = false := by
      intro c member
      rw [beq_eq_false_iff_ne]
      rintro rfl
      exact free text List.mem_cons_self member
    rw [toList_lines_cons, Text.pieces_append_separator _ _ rfl, Text.pieces_of_free text_free,
      ih fun other member => free other (List.mem_cons_of_mem _ member)]
    rfl

/-! ## Explanations -/

/-- Whether a line holds an explanation: no line feed, and JSON that is decoded to it. -/
def Holds (explanation : Explanation) (line : String) : Prop :=
  '\n' ∉ line.toList ∧
    ∃ datum, Json.parse? line = some datum ∧ Explanation.ofDatum datum = .ok explanation

theorem holds_explanationText (explanation : Explanation) :
    Holds explanation (explanationText false explanation) := by
  have text : explanationText false explanation = Json.print explanation.toDatum := rfl
  obtain ⟨decoded, parsed⟩ := explanation.roundTrips
  refine ⟨?_, explanation.toDatum, ?_, decoded⟩
  · rw [text, Json.print, String.toList_ofList]
    exact Json.lineFeed_free_compact explanation.exact_toDatum
  · rw [text, parsed]

/-- The output for some paths is one line for each of them, in their order, that holds its
explanation. -/
theorem exists_lines_runExplain (files : FileSystem) (log : List Event) (root : NativePath)
    (rules : RuleSet) (paths : List String) :
    (runExplain files log root rules paths false).result = .ok () ∧
    ∃ texts : List String,
      (runExplain files log root rules paths false).stdout = lines texts ∧
      Text.pieces (· == '\n') (runExplain files log root rules paths false).stdout.toList =
        texts.map String.toList ++ [[]] ∧
      List.Forall₂ (fun path line => Holds (explain rules files root (.ofString path)).1 line)
        paths texts := by
  have printed : (runExplain files log root rules paths false).stdout =
      lines (paths.map fun path =>
        explanationText false (explain rules files root (.ofString path)).1) := by
    simp only [runExplain, List.map_map]
    rfl
  refine ⟨rfl, _, printed, ?_, ?_⟩
  · rw [printed, pieces_lines]
    intro line member
    obtain ⟨path, -, rfl⟩ := List.mem_map.1 member
    exact (holds_explanationText _).1
  · rw [List.forall₂_map_right_iff, List.forall₂_same]
    exact fun path _ => holds_explanationText _

/-- Output for programs comes back as what was written. Explanations, decisions, reports and rule
tables are decoded from the data that they are encoded as, and this data is read back from its JSON
text; an explanation has an entry for the directory that cuts it off exactly where there is one.
Explaining paths prints one line for each, without line feeds inside, that is read back to the
explanation of the path, whatever characters the paths hold. -/
theorem output_round_trips :
    (∀ explanation : Explanation,
      RoundTrips Explanation.toDatum Explanation.ofDatum explanation ∧
      ∃ entries, explanation.toDatum = .map entries ∧
        entries.lookup "pruned_by" = explanation.prunedBy.map .text ∧
        ("pruned_by" ∈ entries.map Prod.fst ↔ explanation.prunedBy.isSome = true)) ∧
    (∀ decision : Decision, RoundTrips Decision.toDatum Decision.ofDatum decision) ∧
    (∀ report : PackReport, PackReport.ofDatum report.toDatum = .ok report ∧
      (report.Fits → RoundTrips PackReport.toDatum PackReport.ofDatum report)) ∧
    (∀ tables : RuleTables, RoundTrips RuleTables.toDatum RuleTables.ofDatum tables) ∧
    ∀ (files : FileSystem) (log : List Event) (root : NativePath) (rules : RuleSet)
      (paths : List String),
      (runExplain files log root rules paths false).result = .ok () ∧
      ∃ texts : List String,
        (runExplain files log root rules paths false).stdout = lines texts ∧
        Text.pieces (· == '\n') (runExplain files log root rules paths false).stdout.toList =
          texts.map String.toList ++ [[]] ∧
        List.Forall₂ (fun path line => Holds (explain rules files root (.ofString path)).1 line)
          paths texts :=
  ⟨fun explanation => ⟨explanation.roundTrips, explanation.exists_entries⟩, Decision.roundTrips,
    fun report => ⟨report.ofDatum_toDatum, PackReport.roundTrips⟩, RuleTables.roundTrips,
    exists_lines_runExplain⟩

/-- Paths with a line feed, a quote and a backslash, of which the first one lies in an excluded
directory. -/
theorem output_round_trips_special :
    (PackReport.mk 1 (2 ^ 64 - 1) 0 0 2).Fits ∧
    RoundTrips PackReport.toDatum PackReport.ofDatum ⟨1, 2 ^ 64 - 1, 0, 0, 2⟩ ∧
    (explain RuleSet.forOwnSources FileSystem.vendored (.ofString "/")
      (.ofString "vendor/a\n\"b.c")).1.prunedBy = some "vendor" ∧
    ∃ first second : String,
      (runExplain FileSystem.vendored [] (.ofString "/") RuleSet.forOwnSources
        ["vendor/a\n\"b.c", "x\\"] false).stdout = lines [first, second] ∧
      Holds (explain RuleSet.forOwnSources FileSystem.vendored (.ofString "/")
        (.ofString "vendor/a\n\"b.c")).1 first := by
  have fits : (PackReport.mk 1 (2 ^ 64 - 1) 0 0 2).Fits := by
    unfold PackReport.Fits
    decide
  obtain ⟨-, -, reports, -, explained⟩ := output_round_trips
  obtain ⟨-, texts, printed, -, held⟩ := explained FileSystem.vendored [] (.ofString "/")
    RuleSet.forOwnSources ["vendor/a\n\"b.c", "x\\"]
  refine ⟨fits, (reports _).2 fits, by decide +kernel, ?_⟩
  cases held with
  | cons first_held others_held =>
    cases others_held with
    | cons _ none_left =>
      cases none_left
      exact ⟨_, _, printed, first_held⟩

end TreeBundle.CommandLine
