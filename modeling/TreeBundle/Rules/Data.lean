import TreeBundle.Data.Decode
import TreeBundle.Rules.Tables

/-!
# Rule tables as data

Tables that the data does not name keep their content; a name that is no table is refused.
-/
namespace TreeBundle.RuleTables
set_option autoImplicit false

def unknownTable (name : String) : DecodeError :=
  .unknownField name (Table.all.map Table.name)

def toSet (datum : Datum) : Except DecodeError StringSet :=
  datum.toTexts.map StringSet.ofList

/-- The tables with one of them read from data. -/
def update (tables : RuleTables) (datum : Datum) : Table → Except DecodeError RuleTables
  | .includeExtensions => (toSet datum).map ({ tables with includeExtensions := · })
  | .excludeExtensions => (toSet datum).map ({ tables with excludeExtensions := · })
  | .includeFilenames => (toSet datum).map ({ tables with includeFilenames := · })
  | .excludeFilenames => (toSet datum).map ({ tables with excludeFilenames := · })
  | .includeRegexes => datum.toTexts.map ({ tables with includeRegexes := · })
  | .excludeRegexes => datum.toTexts.map ({ tables with excludeRegexes := · })
  | .includeShebang => datum.toBool.map ({ tables with includeShebang := · })
  | .excludeDirs => (toSet datum).map ({ tables with excludeDirs := · })
  | .alwaysIncludeFiles => datum.toTexts.map ({ tables with alwaysIncludeFiles := · })

def updateNamed (tables : RuleTables) (entry : String × Datum) : Except DecodeError RuleTables :=
  match Table.ofName? entry.1 with
  | some table => tables.update entry.2 table
  | none => .error (unknownTable entry.1)

/-- The built-in tables with those that the entries name in their place. -/
def ofEntries (entries : List (String × Datum)) : Except DecodeError RuleTables :=
  entries.foldlM updateNamed builtIn

/-- Tables written as a list of their contents; the last ones may be missing. -/
def ofContents (tables : RuleTables) :
    List Table → List Datum → Except DecodeError RuleTables
  | table :: others, datum :: rest =>
    match tables.update datum table with
    | .ok tables => tables.ofContents others rest
    | .error problem => .error problem
  | _, _ => .ok tables

def ofDatum : Datum → Except DecodeError RuleTables
  | .map entries => ofEntries entries
  | .list items =>
    match builtIn.ofContents Table.all items with
    | .error problem => .error problem
    | .ok tables =>
      if Table.all.length < items.length then
        .error (.wrongLength items.length "fewer elements in array")
      else .ok tables
  | other => .error (.wrongType other.found "struct RuleConfig")

def contentDatum : Table.Content → Datum
  | .set items => .list (items.toList.map .text)
  | .list items => .list (items.map .text)
  | .switch value => .boolean value

def toDatum (tables : RuleTables) : Datum :=
  .map (Table.all.map fun table => (table.name, contentDatum (tables.content table)))

end TreeBundle.RuleTables
