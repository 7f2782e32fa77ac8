import TreeBundle.Data.Datum

/-!
# Decoding data

Readers for the scalars, enumerations and records that documents hold. Of several problems the
first in document order is reported; fields that are missing come last, in declaration order.
-/
namespace TreeBundle.Datum
set_option autoImplicit false

def toBool : Datum → Except DecodeError Bool
  | .boolean value => .ok value
  | other => .error (.wrongType other.found "a boolean")

def toText : Datum → Except DecodeError String
  | .text value => .ok value
  | other => .error (.wrongType other.found "a string")

def toTexts : Datum → Except DecodeError (List String)
  | .list items => items.mapM toText
  | other => .error (.wrongType other.found "a sequence")

/-- A natural number; `wanted` names the type in messages. -/
def toNat (wanted : String) : Datum → Except DecodeError Nat
  | .integer (.ofNat value) => .ok value
  | .integer value => .error (.wrongValue (.integer value) wanted)
  | other => .error (.wrongType other.found wanted)

/-- An absent optional value may be written as null. -/
def toOptionalText : Datum → Except DecodeError (Option String)
  | .null => .ok none
  | other => (toText other).map some

def variantOf {α : Type} (variants : List (String × α)) (name : String) : Except DecodeError α :=
  match variants.lookup name with
  | some value => .ok value
  | none => .error (.unknownVariant name (variants.map Prod.fst))

/-- A variant is written as its name, or as a map from its name to null. -/
def toVariant {α : Type} (variants : List (String × α)) : Datum → Except DecodeError α
  | .text name => variantOf variants name
  | .map [(name, payload)] =>
    match variantOf variants name, payload with
    | .error problem, _ => .error problem
    | .ok value, .null => .ok value
    | .ok _, other => .error (.wrongType other.found "unit")
  | .map _ => .error (.wrongValue .map "map with a single key")
  | other => .error (.wrongType other.found "string or map")

/-- A field of a record, and what its value must satisfy. -/
structure Field where
  name : String
  required : Bool
  check : Datum → Except DecodeError Unit

def Field.of {α : Type} (name : String) (required : Bool) (read : Datum → Except DecodeError α) :
    Field :=
  ⟨name, required, fun datum => (read datum).map fun _ => ()⟩

def checkEntry (fields : List Field) (entry : String × Datum) : Except DecodeError Unit :=
  match fields.find? (·.name == entry.1) with
  | some field => field.check entry.2
  | none => .ok ()

def checkPresent (entries : List (String × Datum)) (field : Field) : Except DecodeError Unit :=
  if field.required && (entries.lookup field.name).isNone then .error (.missingField field.name)
  else .ok ()

/-- Pairs fields with list items by position; `wanted` names the record and its size. -/
def pairItems (wanted : String) (total : Nat) :
    List Field → List Datum → Nat → Except DecodeError (List (String × Datum))
  | [], [], _ => .ok []
  | [], _ :: _, _ => .error (.wrongLength total "fewer elements in array")
  | _ :: _, [], position => .error (.wrongLength position wanted)
  | field :: fields, item :: items, position => do
    field.check item
    let others ← pairItems wanted total fields items (position + 1)
    return (field.name, item) :: others

/-- The checked entries of a record, written as a map or as the list of its fields. Entries of a
map that name no field are ignored. -/
def toRecord (name : String) (fields : List Field) : Datum →
    Except DecodeError (List (String × Datum))
  | .map entries => do
    entries.forM (checkEntry fields)
    fields.forM (checkPresent entries)
    return entries
  | .list items =>
    pairItems ("struct " ++ name ++ " with " ++ toString fields.length ++ " elements")
      items.length fields items 0
  | other => .error (.wrongType other.found ("struct " ++ name))

/-- A required field of checked entries. -/
def field {α : Type} (entries : List (String × Datum)) (name : String)
    (read : Datum → Except DecodeError α) : Except DecodeError α :=
  match entries.lookup name with
  | some value => read value
  | none => .error (.missingField name)

end TreeBundle.Datum
