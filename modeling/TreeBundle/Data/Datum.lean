import TreeBundle.Number.Binary64
import TreeBundle.Text.Quoted

/-!
# Self-describing data

What a document of any format says once it is read: scalars, lists, and maps whose entries keep
their order. Decoding data into a type of the library fails with a cause that names what was found
and what was wanted.
-/
namespace TreeBundle
set_option autoImplicit false

inductive Datum where
  | null
  | boolean (value : Bool)
  | integer (value : Int)
  | float (value : Binary64)
  | text (value : String)
  | list (items : List Datum)
  | map (entries : List (String × Datum))
  deriving Repr

/-- What a message says about a datum: scalars with their value, the rest by kind. -/
inductive Found where
  | null
  | boolean (value : Bool)
  | integer (value : Int)
  | float (value : Binary64)
  | text (value : String)
  | sequence
  | map
  deriving DecidableEq, Repr

def Datum.found : Datum → Found
  | .null => .null
  | .boolean value => .boolean value
  | .integer value => .integer value
  | .float value => .float value
  | .text value => .text value
  | .list _ => .sequence
  | .map _ => .map

inductive DecodeError where
  | unknownField (name : String) (known : List String)
  | unknownVariant (name : String) (known : List String)
  | missingField (name : String)
  | wrongType (found : Found) (wanted : String)
  | wrongValue (found : Found) (wanted : String)
  | wrongLength (length : Nat) (wanted : String)
  deriving DecidableEq, Repr

def Found.describe (numbers : Binary64.Style) : Found → String
  | .null => "null"
  | .boolean value => "boolean `" ++ toString value ++ "`"
  | .integer value => "integer `" ++ toString value ++ "`"
  | .float value => "floating point `" ++ value.text numbers ++ "`"
  | .text value => "string " ++ Text.Quoted.encode value
  | .sequence => "sequence"
  | .map => "map"

def backquoted (name : String) : String :=
  "`" ++ name ++ "`"

def alternatives : List String → String
  | [first, second] => "expected " ++ backquoted first ++ " or " ++ backquoted second
  | names => "expected one of " ++ String.intercalate ", " (names.map backquoted)

def DecodeError.message (numbers : Binary64.Style) : DecodeError → String
  | .unknownField name known => "unknown field " ++ backquoted name ++ ", " ++ alternatives known
  | .unknownVariant name known =>
    "unknown variant " ++ backquoted name ++ ", " ++ alternatives known
  | .missingField name => "missing field " ++ backquoted name
  | .wrongType found wanted =>
    "invalid type: " ++ found.describe numbers ++ ", expected " ++ wanted
  | .wrongValue found wanted =>
    "invalid value: " ++ found.describe numbers ++ ", expected " ++ wanted
  | .wrongLength length wanted =>
    "invalid length " ++ toString length ++ ", expected " ++ wanted

end TreeBundle
