import TreeBundle.Rules.Data
import TreeBundle.Toml.Parser
import TreeBundle.Toml.Printer

/-!
# Rules documents

Rule tables are kept as a TOML document, one key for each table. A document may leave tables out;
those keep their built-in content.
-/
namespace TreeBundle.RuleTables
set_option autoImplicit false

inductive DocumentError where
  /-- The text is no TOML document. -/
  | malformed
  /-- The document does not describe rule tables. -/
  | unsuitable (problem : DecodeError)
  deriving DecidableEq, Repr

def DocumentError.detail? : DocumentError → Option String
  | .malformed => none
  | .unsuitable problem => some (problem.message .positional)

def parse (document : String) : Except DocumentError RuleTables :=
  match Toml.parse? document with
  | none => .error .malformed
  | some entries => (ofEntries entries).mapError .unsuitable

def writeContent : Table.Content → List Char
  | .set items => Toml.writeArray items.toList
  | .list items => Toml.writeArray items
  | .switch value => Toml.writeBoolean value

/-- The line or lines that hold one table. -/
def writeTable (tables : RuleTables) (table : Table) : List Char :=
  Toml.writeEntry table.name (writeContent (tables.content table))

/-- A document with some of the tables. -/
def renderOnly (tables : RuleTables) (chosen : List Table) : String :=
  String.ofList (chosen.flatMap tables.writeTable)

def render (tables : RuleTables) : String :=
  tables.renderOnly Table.all

end TreeBundle.RuleTables
