import Mathlib.Data.List.Nodup
import TreeBundle.Toml.Parser

/-!
# No key twice

A change to a table that is not refused leaves its keys distinct. So every document that is read has
distinct keys, however its tables were opened and in whatever order they were filled.
-/
namespace TreeBundle.Toml
set_option autoImplicit false

/-- A table without a key that occurs twice. -/
def Distinct (entries : Entries) : Prop :=
  (entries.map Prod.fst).Nodup

/-- A change that never makes a key occur twice. -/
def KeepsDistinct (change : Entries → Option Entries) : Prop :=
  ∀ {entries changed : Entries}, change entries = some changed → Distinct entries →
    Distinct changed

theorem distinct_append {entries : Entries} {key : String} (node : Node)
    (distinct : Distinct entries) (fresh : key ∉ entries.map Prod.fst) :
    Distinct (entries ++ [(key, node)]) := by
  unfold Distinct
  rw [List.map_append]
  exact List.Nodup.append distinct (List.nodup_singleton key) (by simpa using fresh)

/-- An altered entry stays under its key; one that is added has a key that was not there. -/
theorem alter_cases {key : String} {change : Option Node → Option Node}
    {entries changed : Entries} (altered : alter key change entries = some changed) :
    changed.map Prod.fst = entries.map Prod.fst ∨
      key ∉ entries.map Prod.fst ∧ ∃ node, changed = entries ++ [(key, node)] := by
  induction entries generalizing changed with
  | nil =>
    obtain ⟨node, -, rfl⟩ := Option.map_eq_some_iff.1 altered
    exact Or.inr ⟨List.not_mem_nil, node, rfl⟩
  | cons entry entries ih =>
    obtain ⟨name, held⟩ := entry
    rw [alter] at altered
    split at altered
    · obtain ⟨node, -, rfl⟩ := Option.map_eq_some_iff.1 altered
      exact Or.inl rfl
    · next different =>
      obtain ⟨others, below, rfl⟩ := Option.map_eq_some_iff.1 altered
      rcases ih below with same | ⟨fresh, node, rfl⟩
      · exact Or.inl (by rw [List.map_cons, List.map_cons, same])
      · refine Or.inr ⟨?_, node, rfl⟩
        rw [List.map_cons, List.mem_cons, not_or]
        exact ⟨Ne.symm different, fresh⟩

theorem keepsDistinct_alter (key : String) (change : Option Node → Option Node) :
    KeepsDistinct (alter key change) := by
  intro entries changed altered distinct
  rcases alter_cases altered with same | ⟨fresh, node, rfl⟩
  · unfold Distinct at distinct ⊢
    rwa [same]
  · exact distinct_append node distinct fresh

/-- Only the first part of a dotted key is a key of the table itself. -/
theorem keepsDistinct_assign (datum : Datum) (path : List String) :
    KeepsDistinct (assign datum path) := by
  intro entries changed assigned distinct
  unfold assign at assigned
  split at assigned
  · cases assigned
  · exact keepsDistinct_alter _ _ assigned distinct
  · exact keepsDistinct_alter _ _ assigned distinct
  · exact keepsDistinct_alter _ _ assigned distinct

theorem keepsDistinct_within {change : Entries → Option Entries} (keeps : KeepsDistinct change)
    (path : List String) : KeepsDistinct (within change path) := by
  cases path with
  | nil => exact keeps
  | cons key rest => exact keepsDistinct_alter key _

/-- A table that moves to the end is taken out of its place first. -/
theorem keepsDistinct_openTable (key : String) : KeepsDistinct (openTable key) := by
  intro entries changed opened distinct
  unfold openTable at opened
  split at opened
  · next absent =>
    obtain rfl := Option.some.inj opened
    refine distinct_append _ distinct fun member => ?_
    obtain ⟨⟨name, node⟩, held, rfl⟩ := List.mem_map.1 member
    have different := List.lookup_eq_none_iff.1 absent _ held
    simp at different
  · obtain rfl := Option.some.inj opened
    have fewer : Distinct (entries.filter (·.1 != key)) :=
      List.Sublist.nodup (List.filter_sublist.map Prod.fst) distinct
    refine distinct_append _ fewer fun member => ?_
    obtain ⟨entry, held, rfl⟩ := List.mem_map.1 member
    have different := (List.mem_filter.1 held).2
    simp at different
  · cases opened

theorem Draft.distinct_openAt {place : String → Entries → Option Entries}
    (keeps : ∀ key, KeepsDistinct (place key)) {draft next : Draft} {path : List String}
    (opened : draft.openAt place path = some next) (distinct : Distinct draft.root) :
    Distinct next.root := by
  unfold Draft.openAt at opened
  split at opened
  · cases opened
  · next key _ =>
    obtain ⟨root, changed, rfl⟩ := Option.map_eq_some_iff.1 opened
    exact keepsDistinct_within (keeps key) _ changed distinct

/-- Every statement leaves the keys of the document distinct. -/
theorem Draft.distinct_add {draft next : Draft} {statement : Statement}
    (added : draft.add statement = some next) (distinct : Distinct draft.root) :
    Distinct next.root := by
  cases statement with
  | assignment path datum =>
    obtain ⟨root, changed, rfl⟩ := Option.map_eq_some_iff.1 added
    exact keepsDistinct_within (keepsDistinct_assign datum path) _ changed distinct
  | header path => exact Draft.distinct_openAt keepsDistinct_openTable added distinct
  | element path =>
    exact Draft.distinct_openAt (fun key => keepsDistinct_alter key _) added distinct

theorem Draft.distinct_foldlM {statements : List Statement} {draft final : Draft}
    (run : statements.foldlM Draft.add draft = some final) (distinct : Distinct draft.root) :
    Distinct final.root := by
  induction statements generalizing draft with
  | nil =>
    obtain rfl := Option.some.inj run
    exact distinct
  | cons statement statements ih =>
    obtain ⟨next, added, rest⟩ := Option.bind_eq_some_iff.1 run
    exact ih rest (Draft.distinct_add added distinct)

theorem keys_entryData (entries : Entries) :
    (entryData entries).map Prod.fst = entries.map Prod.fst := by
  induction entries with
  | nil => rfl
  | cons entry entries ih =>
    obtain ⟨key, node⟩ := entry
    rw [entryData, List.map_cons, List.map_cons, ih]

/-- The keys of a document are distinct. -/
theorem nodup_keys_of_parse? {document : String} {entries : List (String × Datum)}
    (read : parse? document = some entries) : (entries.map Prod.fst).Nodup := by
  obtain ⟨statements, -, made⟩ := Option.bind_eq_some_iff.1 read
  obtain ⟨final, run, rfl⟩ := Option.map_eq_some_iff.1 made
  rw [keys_entryData]
  exact Draft.distinct_foldlM run List.nodup_nil

end TreeBundle.Toml
