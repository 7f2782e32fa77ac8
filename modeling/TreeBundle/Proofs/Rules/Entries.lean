import Mathlib.Data.List.Sort
import TreeBundle.Rules.Data

/-!
# Tables from entries

Entries are accepted iff each of them is named after a table and holds what this table takes. Then
every table that is named holds what its entry gives, and every other one is as before.
-/
namespace TreeBundle
set_option autoImplicit false

section Results
variable {ε α β : Type} {result : Except ε α}

theorem map_eq_ok_iff {f : α → β} {value : β} :
    result.map f = .ok value ↔ ∃ found, result = .ok found ∧ f found = value := by
  cases result <;> simp [Except.map]

theorem exists_map_eq_ok_iff {f : α → β} :
    (∃ value, result.map f = .ok value) ↔ ∃ found, result = .ok found := by
  cases result <;> simp [Except.map]

theorem bind_eq_ok_iff {f : α → Except ε β} {value : β} :
    (result >>= f) = .ok value ↔ ∃ found, result = .ok found ∧ f found = .ok value := by
  cases result <;> simp [bind, Except.bind]

end Results

/-! ## Sets and tables -/

/-- Sets with the same strings are equal. -/
theorem StringSet.eq_of_mem_iff {one two : StringSet}
    (same : ∀ text, text ∈ one.toList ↔ text ∈ two.toList) : one = two := by
  have lists : one.toList = two.toList := one.sorted.eq_of_mem_iff two.sorted same
  cases one
  cases two
  cases lists
  rfl

namespace Table

theorem mem_all (table : Table) : table ∈ all := by
  cases table <;> decide

theorem ofName?_name (table : Table) : ofName? table.name = some table := by
  cases table <;> decide

theorem name_injective : ∀ one two : Table, one.name = two.name → one = two := by
  intro one two same
  have found := ofName?_name one
  rw [same, ofName?_name two] at found
  exact (Option.some.inj found).symm

theorem ofName?_eq_some_iff {name : String} {table : Table} :
    ofName? name = some table ↔ table.name = name := by
  refine ⟨fun found => ?_, fun named => named ▸ ofName?_name table⟩
  have test := List.find?_some found
  exact beq_iff_eq.1 test

/-- What a table can be read from: the switch from a truth value, all others from an array of
strings. -/
def Takes (datum : Datum) : Table → Prop
  | .includeShebang => ∃ value, datum = .boolean value
  | _ => ∃ texts : List String, datum = .list (texts.map .text)

end Table

/-- Tables are determined by what each of them holds. -/
theorem RuleTables.eq_of_content {one two : RuleTables}
    (same : ∀ table, one.content table = two.content table) : one = two := by
  have extensions := same .includeExtensions
  have excluded_extensions := same .excludeExtensions
  have filenames := same .includeFilenames
  have excluded_filenames := same .excludeFilenames
  have regexes := same .includeRegexes
  have excluded_regexes := same .excludeRegexes
  have shebang := same .includeShebang
  have dirs := same .excludeDirs
  have always := same .alwaysIncludeFiles
  cases one
  cases two
  simp_all [content]

/-! ## One entry -/

namespace Datum

theorem mapM_toText_eq_ok_iff {items : List Datum} {texts : List String} :
    items.mapM toText = .ok texts ↔ items = texts.map .text := by
  induction items generalizing texts with
  | nil => cases texts <;> simp [pure, Except.pure]
  | cons item items ih =>
    rw [List.mapM_cons]
    cases item with
    | text value =>
      cases rest : items.mapM toText with
      | error problem => cases texts <;> simp [toText, bind, Except.bind, ← ih, rest]
      | ok others => cases texts <;> simp [toText, bind, Except.bind, pure, Except.pure, ← ih, rest]
    | _ => cases texts <;> simp [toText, bind, Except.bind]

theorem toTexts_eq_ok_iff {datum : Datum} {texts : List String} :
    datum.toTexts = .ok texts ↔ datum = .list (texts.map .text) := by
  cases datum with
  | list items => simp only [toTexts, mapM_toText_eq_ok_iff, list.injEq]
  | _ => simp [toTexts]

theorem toBool_eq_ok_iff {datum : Datum} {value : Bool} :
    datum.toBool = .ok value ↔ datum = .boolean value := by
  cases datum <;> simp [toBool]

/-- A datum from which a table gets its content: a set is given by an array of its strings in any
order and number, a list by the array of its items, a switch by its value. -/
def Gives (datum : Datum) : Table.Content → Prop
  | .set items =>
    items.toList.Pairwise (· < ·) ∧
    ∃ texts : List String, datum = .list (texts.map .text) ∧
      ∀ text, text ∈ items.toList ↔ text ∈ texts
  | .list items => datum = .list (items.map .text)
  | .switch value => datum = .boolean value

theorem texts_inj {texts others : List String}
    (same : Datum.list (texts.map .text) = .list (others.map .text)) : texts = others :=
  List.map_injective_iff.2 (fun _ _ => Datum.text.inj) (Datum.list.inj same)

end Datum

namespace RuleTables

theorem toSet_eq_ok_iff {datum : Datum} {set : StringSet} :
    toSet datum = .ok set ↔ datum.Gives (.set set) := by
  unfold toSet
  simp only [map_eq_ok_iff, Datum.toTexts_eq_ok_iff]
  constructor
  · rintro ⟨texts, spelled, rfl⟩
    exact ⟨StringSet.sorted _, texts, spelled, fun _ => StringSet.mem_ofList⟩
  · rintro ⟨-, texts, spelled, same⟩
    exact ⟨texts, spelled, StringSet.eq_of_mem_iff fun text =>
      StringSet.mem_ofList.trans (same text).symm⟩

/-- One datum gives a table one content. -/
theorem content_eq_of_gives {one two : RuleTables} {table : Table} {datum : Datum}
    (first : datum.Gives (one.content table)) (second : datum.Gives (two.content table)) :
    one.content table = two.content table := by
  have sets : ∀ {left right : StringSet}, datum.Gives (.set left) → datum.Gives (.set right) →
      left = right := by
    intro left right gives_left gives_right
    rw [← toSet_eq_ok_iff] at gives_left gives_right
    exact Except.ok.inj (gives_left.symm.trans gives_right)
  have lists : ∀ {left right : List String}, datum.Gives (.list left) →
      datum.Gives (.list right) → left = right := fun gives_left gives_right =>
    Datum.texts_inj (gives_left.symm.trans gives_right)
  cases table with
  | includeShebang => exact congrArg _ (Datum.boolean.inj (first.symm.trans second))
  | includeRegexes | excludeRegexes | alwaysIncludeFiles => exact congrArg _ (lists first second)
  | _ => exact congrArg _ (sets first second)

theorem takes_of_gives {tables : RuleTables} {table : Table} {datum : Datum}
    (gives : datum.Gives (tables.content table)) : table.Takes datum := by
  cases table with
  | includeShebang | includeRegexes | excludeRegexes | alwaysIncludeFiles => exact ⟨_, gives⟩
  | _ =>
    obtain ⟨-, texts, spelled, -⟩ := gives
    exact ⟨texts, spelled⟩

/-- Reading one table puts what the datum gives in its place and leaves the others alone. -/
theorem gives_of_update {tables updated : RuleTables} {datum : Datum} {table : Table}
    (updates : tables.update datum table = .ok updated) :
    datum.Gives (updated.content table) ∧
      ∀ other, other ≠ table → updated.content other = tables.content other := by
  cases table <;>
    simp only [update, map_eq_ok_iff, toSet_eq_ok_iff, Datum.toTexts_eq_ok_iff,
      Datum.toBool_eq_ok_iff] at updates <;>
    obtain ⟨found, gives, rfl⟩ := updates <;>
    refine ⟨gives, fun other different => ?_⟩ <;>
    cases other <;> first | rfl | exact absurd rfl different

theorem exists_update_iff (tables : RuleTables) {datum : Datum} {table : Table} :
    (∃ updated, tables.update datum table = .ok updated) ↔ table.Takes datum := by
  cases table <;>
    simp only [update, toSet, exists_map_eq_ok_iff, Datum.toTexts_eq_ok_iff,
      Datum.toBool_eq_ok_iff, Table.Takes]

theorem updateNamed_eq_ok_iff {tables updated : RuleTables} {entry : String × Datum} :
    updateNamed tables entry = .ok updated ↔
      ∃ table : Table, table.name = entry.1 ∧ tables.update entry.2 table = .ok updated := by
  unfold updateNamed
  cases named : Table.ofName? entry.1 with
  | some table =>
    have name := Table.ofName?_eq_some_iff.1 named
    refine ⟨fun updates => ⟨table, name, updates⟩, ?_⟩
    rintro ⟨other, other_name, updates⟩
    rwa [Table.name_injective table other (name.trans other_name.symm)]
  | none =>
    refine ⟨fun updates => (nomatch updates), ?_⟩
    rintro ⟨table, name, -⟩
    rw [Table.ofName?_eq_some_iff.2 name] at named
    cases named

/-! ## All entries -/

/-- An entry that is named after a table and holds what this table takes. -/
def Accepts (entry : String × Datum) : Prop :=
  ∃ table : Table, table.name = entry.1 ∧ table.Takes entry.2

theorem exists_updateNamed_iff (tables : RuleTables) {entry : String × Datum} :
    (∃ updated, updateNamed tables entry = .ok updated) ↔ Accepts entry := by
  constructor
  · rintro ⟨updated, updates⟩
    obtain ⟨table, name, updates⟩ := updateNamed_eq_ok_iff.1 updates
    exact ⟨table, name, (exists_update_iff tables).1 ⟨updated, updates⟩⟩
  · rintro ⟨table, name, takes⟩
    obtain ⟨updated, updates⟩ := (exists_update_iff tables).2 takes
    exact ⟨updated, updateNamed_eq_ok_iff.2 ⟨table, name, updates⟩⟩

theorem exists_foldlM_updateNamed_iff {entries : List (String × Datum)} (tables : RuleTables) :
    (∃ final, entries.foldlM updateNamed tables = .ok final) ↔
      ∀ entry ∈ entries, Accepts entry := by
  induction entries generalizing tables with
  | nil => simp [pure, Except.pure]
  | cons entry entries ih =>
    simp only [List.foldlM_cons, bind_eq_ok_iff, List.forall_mem_cons]
    rw [← exists_updateNamed_iff tables]
    constructor
    · rintro ⟨final, updated, updates, rest⟩
      exact ⟨⟨updated, updates⟩, (ih updated).1 ⟨final, rest⟩⟩
    · rintro ⟨⟨updated, updates⟩, others⟩
      obtain ⟨final, rest⟩ := (ih updated).2 others
      exact ⟨final, updated, updates, rest⟩

/-- Tables taken over from entries: those that are named hold what their entry gives, and the
others are as at the start. -/
structure TakenOver (start : RuleTables) (entries : List (String × Datum)) (tables : RuleTables) :
    Prop where
  given : ∀ entry ∈ entries,
    ∃ table : Table, table.name = entry.1 ∧ entry.2.Gives (tables.content table)
  kept : ∀ table : Table, table.name ∉ entries.map Prod.fst →
    tables.content table = start.content table

/-- The entries are taken over one by one. Later ones leave a table alone as no name occurs
twice. -/
theorem foldlM_updateNamed_eq_ok_iff {entries : List (String × Datum)} {start final : RuleTables}
    (distinct : (entries.map Prod.fst).Nodup) :
    entries.foldlM updateNamed start = .ok final ↔ TakenOver start entries final := by
  induction entries generalizing start with
  | nil =>
    refine ⟨fun run => ?_, fun taken => ?_⟩
    · obtain rfl := Except.ok.inj run
      exact ⟨by simp, fun _ _ => rfl⟩
    · exact congrArg _ (eq_of_content fun table => (taken.kept table (by simp)).symm)
  | cons entry entries ih =>
    obtain ⟨fresh, distinct⟩ := List.nodup_cons.1 distinct
    simp only [List.foldlM_cons, bind_eq_ok_iff, ih distinct]
    constructor
    · rintro ⟨updated, updates, rest⟩
      obtain ⟨table, name, updates⟩ := updateNamed_eq_ok_iff.1 updates
      obtain ⟨gives, others⟩ := gives_of_update updates
      refine ⟨List.forall_mem_cons.2 ⟨⟨table, name, ?_⟩, rest.given⟩, fun other absent => ?_⟩
      · rw [rest.kept table (by rwa [name])]
        exact gives
      · rw [List.map_cons, List.mem_cons, not_or] at absent
        rw [rest.kept other absent.2, others other fun same => absent.1 (same ▸ name)]
    · -- The table of the first entry is read at once. What it gives is what the table holds in
      -- the end, so the remaining entries take over the rest from there.
      intro taken
      obtain ⟨⟨table, name, gives⟩, given⟩ := List.forall_mem_cons.1 taken.given
      obtain ⟨updated, updates⟩ := (exists_update_iff start).2 (takes_of_gives gives)
      obtain ⟨updated_gives, others⟩ := gives_of_update updates
      refine ⟨updated, updateNamed_eq_ok_iff.2 ⟨table, name, updates⟩, given, ?_⟩
      intro other absent
      by_cases same : other = table
      · rw [same]
        exact content_eq_of_gives gives updated_gives
      · rw [others other same]
        refine taken.kept other fun member => ?_
        rcases List.mem_cons.1 member with named | member
        · exact same (Table.name_injective other table (named.trans name.symm))
        · exact absent member

end RuleTables
end TreeBundle
