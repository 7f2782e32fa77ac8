import TreeBundle.Proofs.Rules.Entries
import TreeBundle.Proofs.Toml.Entries
import TreeBundle.Rules.Document

/-!
# Written tables are read back

Any choice of the tables, written in any order, is read back to the tables themselves; those that
were left out get their built-in content.
-/
namespace TreeBundle
set_option autoImplicit false

theorem Table.bareKey_name (table : Table) : Toml.BareKey table.name := by
  cases table <;> exact ⟨by decide, List.all_eq_true.1 (by decide)⟩

namespace RuleTables

theorem gives_contentDatum (content : Table.Content) : (contentDatum content).Gives content := by
  cases content with
  | set items => exact ⟨items.sorted, items.toList, rfl, fun _ => Iff.rfl⟩
  | list items => rfl
  | switch value => rfl

theorem writeContent_readsAs (content : Table.Content) :
    Toml.ReadsAs (writeContent content) (contentDatum content) := by
  cases content with
  | set items => exact Toml.writeArray_readsAs items.toList
  | list items => exact Toml.writeArray_readsAs items
  | switch value => exact Toml.writeBoolean_readsAs value

theorem nodup_names {chosen : List Table} (distinct : chosen.Nodup) :
    (chosen.map Table.name).Nodup := by
  refine List.pairwise_map.2 (distinct.imp ?_)
  intro one two different same
  exact different (Table.name_injective one two same)

/-- The entries of some of the tables, in any order, are taken over. -/
theorem exists_ofEntries (tables : RuleTables) {chosen : List Table} (distinct : chosen.Nodup) :
    ∃ taken, ofEntries (chosen.map fun table => (table.name, contentDatum (tables.content table))) =
        .ok taken ∧
      ∀ table, taken.content table =
        if table ∈ chosen then tables.content table else builtIn.content table := by
  have names := nodup_names distinct
  have accepted : ∀ entry ∈ chosen.map fun table =>
      (table.name, contentDatum (tables.content table)), Accepts entry := by
    intro entry member
    obtain ⟨table, -, rfl⟩ := List.mem_map.1 member
    exact ⟨table, rfl, takes_of_gives (gives_contentDatum _)⟩
  obtain ⟨parsed, run⟩ := (exists_foldlM_updateNamed_iff builtIn).2 accepted
  have taken := (foldlM_updateNamed_eq_ok_iff (by simpa [Function.comp_def] using names)).1 run
  refine ⟨parsed, run, fun table => ?_⟩
  split
  · next inside =>
    obtain ⟨other, name, gives⟩ := taken.given _ (List.mem_map_of_mem inside)
    obtain rfl := Table.name_injective other table name
    exact content_eq_of_gives gives (gives_contentDatum _)
  · next outside =>
    refine taken.kept table fun member => ?_
    simp only [List.map_map, List.mem_map, Function.comp_apply] at member
    obtain ⟨other, inside, name⟩ := member
    exact outside (Table.name_injective other table name ▸ inside)

theorem exists_parse_renderOnly (tables : RuleTables) {chosen : List Table}
    (distinct : chosen.Nodup) :
    ∃ parsed, parse (tables.renderOnly chosen) = .ok parsed ∧ ∀ table, parsed.content table =
      if table ∈ chosen then tables.content table else builtIn.content table := by
  have entries := Toml.parse?_writeEntries Table.bareKey_name
    (fun table => writeContent_readsAs (tables.content table)) chosen (nodup_names distinct)
  have document : Toml.parse? (tables.renderOnly chosen) =
      some (chosen.map fun table => (table.name, contentDatum (tables.content table))) := entries
  obtain ⟨parsed, run, contents⟩ := exists_ofEntries tables distinct
  refine ⟨parsed, ?_, contents⟩
  unfold parse
  simp only [document, run]
  rfl

/-- A document with some of the tables, in any order, is read back to what these tables hold and to
the built-in content of all others; a document with all of them is read back to the tables. -/
theorem parse_renderOnly (tables : RuleTables) (chosen : List Table) (distinct : chosen.Nodup) :
    (∃ parsed, parse (tables.renderOnly chosen) = .ok parsed ∧ ∀ table, parsed.content table =
      if table ∈ chosen then tables.content table else builtIn.content table) ∧
    parse tables.render = .ok tables := by
  refine ⟨exists_parse_renderOnly tables distinct, ?_⟩
  have every : Table.all.Nodup := by decide
  obtain ⟨parsed, read, contents⟩ := exists_parse_renderOnly tables every
  have whole : parsed = tables := eq_of_content fun table => by
    rw [contents, if_pos (Table.mem_all table)]
  rw [← whole] at read ⊢
  exact read

/-- Tables whose strings need every form of writing. -/
def spiky : RuleTables where
  includeExtensions := .empty
  excludeExtensions := .ofList [""]
  includeFilenames := .ofList ["it\u0027s", "a\"b", "\\", "tab\t"]
  excludeFilenames := .ofList ["\x00\x1f\x7f", "\u2028"]
  includeRegexes := ["^\\d+$", "'''\"\"\"", "\"\"\"\"\n'''"]
  excludeRegexes := []
  includeShebang := false
  excludeDirs := .ofList ["line\r\nfeed", "\n"]
  alwaysIncludeFiles := ["b", "a", "b"]

theorem parse_renderOnly_spiky :
    [Table.alwaysIncludeFiles, .includeRegexes].Nodup ∧
    (∃ parsed, parse (spiky.renderOnly [.alwaysIncludeFiles, .includeRegexes]) = .ok parsed ∧
      parsed.includeRegexes = spiky.includeRegexes ∧
      parsed.alwaysIncludeFiles = ["b", "a", "b"] ∧
      parsed.excludeDirs = builtIn.excludeDirs) ∧
    parse spiky.render = .ok spiky := by
  have distinct : [Table.alwaysIncludeFiles, .includeRegexes].Nodup := by decide
  obtain ⟨⟨parsed, read, contents⟩, whole⟩ :=
    parse_renderOnly spiky [.alwaysIncludeFiles, .includeRegexes] distinct
  have regexes := contents .includeRegexes
  have always := contents .alwaysIncludeFiles
  have dirs := contents .excludeDirs
  simp [content] at regexes always dirs
  exact ⟨distinct, ⟨parsed, read, regexes, always, dirs⟩, whole⟩

end RuleTables
end TreeBundle
