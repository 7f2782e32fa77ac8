import TreeBundle.Explain
import TreeBundle.Pack.Report
import TreeBundle.Proofs.Json.RoundTrip
import TreeBundle.Proofs.Rules.Document

/-!
# Written records are decoded

A decision, an explanation, a report and rule tables are decoded from the data they are written as,
and the data is read back from its JSON text. An optional field is left out exactly where it has no
value.
-/
namespace TreeBundle
set_option autoImplicit false

/-- Whether a value comes back from the data it is encoded as, and this data from its JSON text. -/
structure RoundTrips {α : Type} (encode : α → Datum) (decode : Datum → Except DecodeError α)
    (value : α) : Prop where
  decoded : decode (encode value) = .ok value
  parsed : Json.parse? (Json.print (encode value)) = some (encode value)

theorem exact_textList (texts : List String) : (Datum.list (texts.map .text)).Exact := by
  apply Datum.Exact.list
  intro item member
  obtain ⟨text, -, rfl⟩ := List.mem_map.1 member
  exact .text text

/-! ## Decisions and explanations -/

theorem Verdict.ofDatum_name (verdict : Verdict) :
    ofDatum (.text verdict.name) = .ok verdict := by
  cases verdict <;> rfl

theorem RuleKind.ofDatum_name (rule : RuleKind) : ofDatum (.text rule.name) = .ok rule := by
  cases rule <;> rfl

namespace Decision

theorem ofDatum_toDatum (decision : Decision) : ofDatum decision.toDatum = .ok decision := by
  have verdict_read := decision.verdict.ofDatum_name
  have rule_read := decision.rule.ofDatum_name
  simp [ofDatum, toDatum, fields, Datum.toRecord, Datum.Field.of, Datum.checkEntry,
    Datum.checkPresent, Datum.field, List.lookup_cons, verdict_read, rule_read, bind, Except.bind,
    pure, Except.pure, Except.map]

theorem exact_toDatum (decision : Decision) : decision.toDatum.Exact := by
  apply Datum.Exact.map
  simp only [List.forall_mem_cons]
  exact ⟨.text _, .text _, List.forall_mem_nil _⟩

theorem roundTrips (decision : Decision) : RoundTrips toDatum ofDatum decision :=
  ⟨ofDatum_toDatum decision, Json.parse?_print (exact_toDatum decision)⟩

end Decision

namespace Explanation

theorem ofDatum_toDatum (explanation : Explanation) :
    ofDatum explanation.toDatum = .ok explanation := by
  obtain ⟨path, pruned, decision, forced, written⟩ := explanation
  have decision_read := decision.ofDatum_toDatum
  cases pruned <;>
    simp [ofDatum, toDatum, fields, Datum.toRecord, Datum.Field.of, Datum.checkEntry,
      Datum.checkPresent, Datum.field, List.lookup_cons, decision_read, Datum.toText, Datum.toBool,
      Datum.toOptionalText, bind, Except.bind, pure, Except.pure, Except.map]

theorem exact_toDatum (explanation : Explanation) : explanation.toDatum.Exact := by
  obtain ⟨path, pruned, decision, forced, written⟩ := explanation
  have decision_exact := decision.exact_toDatum
  apply Datum.Exact.map
  cases pruned with
  | none =>
    show ∀ entry ∈ [("path", Datum.text path), ("decision", decision.toDatum),
      ("force_included", .boolean forced), ("written", .boolean written)], _
    simp only [List.forall_mem_cons]
    exact ⟨.text _, decision_exact, .boolean _, .boolean _, List.forall_mem_nil _⟩
  | some dir =>
    show ∀ entry ∈ [("path", Datum.text path), ("pruned_by", .text dir),
      ("decision", decision.toDatum), ("force_included", .boolean forced),
      ("written", .boolean written)], _
    simp only [List.forall_mem_cons]
    exact ⟨.text _, .text _, decision_exact, .boolean _, .boolean _, List.forall_mem_nil _⟩

theorem roundTrips (explanation : Explanation) : RoundTrips toDatum ofDatum explanation :=
  ⟨ofDatum_toDatum explanation, Json.parse?_print (exact_toDatum explanation)⟩

/-- The directory that cuts off a path is an entry where there is one, and only there. -/
theorem exists_entries (explanation : Explanation) :
    ∃ entries, explanation.toDatum = .map entries ∧
      entries.lookup "pruned_by" = explanation.prunedBy.map .text ∧
      ("pruned_by" ∈ entries.map Prod.fst ↔ explanation.prunedBy.isSome = true) := by
  obtain ⟨path, pruned, decision, forced, written⟩ := explanation
  refine ⟨_, rfl, ?_⟩
  cases pruned with
  | none => exact ⟨rfl, by simp⟩
  | some dir => exact ⟨rfl, by simp⟩

end Explanation

/-! ## Reports -/

namespace PackReport

theorem ofDatum_toDatum (report : PackReport) : ofDatum report.toDatum = .ok report :=
  rfl

/-- Whether all counts fit 64 bits. -/
def Fits (report : PackReport) : Prop :=
  report.filesWritten < 2 ^ 64 ∧ report.bytesWritten < 2 ^ 64 ∧ report.forcedWritten < 2 ^ 64 ∧
    report.forcedSkipped < 2 ^ 64 ∧ report.dirsPruned < 2 ^ 64

theorem exact_natural {n : Nat} (small : n < 2 ^ 64) : (Datum.integer n).Exact :=
  .integer n (by omega) (by omega)

theorem exact_toDatum {report : PackReport} (fits : report.Fits) : report.toDatum.Exact := by
  obtain ⟨files, bytes, forced, skipped, pruned⟩ := fits
  apply Datum.Exact.map
  simp only [List.forall_mem_cons]
  exact ⟨exact_natural files, exact_natural bytes, exact_natural forced, exact_natural skipped,
    exact_natural pruned, List.forall_mem_nil _⟩

theorem roundTrips {report : PackReport} (fits : report.Fits) :
    RoundTrips toDatum ofDatum report :=
  ⟨ofDatum_toDatum report, Json.parse?_print (exact_toDatum fits)⟩

end PackReport

/-! ## Rule tables -/

namespace RuleTables

theorem ofDatum_toDatum (tables : RuleTables) : ofDatum tables.toDatum = .ok tables := by
  have every : Table.all.Nodup := by decide
  obtain ⟨taken, run, contents⟩ := exists_ofEntries tables every
  have whole : taken = tables := eq_of_content fun table => by
    rw [contents, if_pos (Table.mem_all table)]
  rw [← whole] at run ⊢
  exact run

theorem exact_contentDatum (content : Table.Content) : (contentDatum content).Exact := by
  cases content with
  | set items => exact exact_textList items.toList
  | list items => exact exact_textList items
  | switch value => exact .boolean value

theorem exact_toDatum (tables : RuleTables) : tables.toDatum.Exact := by
  apply Datum.Exact.map
  intro entry member
  obtain ⟨table, -, rfl⟩ := List.mem_map.1 member
  exact exact_contentDatum _

theorem roundTrips (tables : RuleTables) : RoundTrips toDatum ofDatum tables :=
  ⟨ofDatum_toDatum tables, Json.parse?_print (exact_toDatum tables)⟩

end RuleTables
end TreeBundle
