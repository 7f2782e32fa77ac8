import TreeBundle.Data.Datum
import TreeBundle.Number.Hexadecimal

/-!
# Writing JSON

The compact form has no blanks; the indented form puts each item on a line of its own, two blanks
deeper than its parent. Both escape the double quote, the backslash and the control characters
below U+0020, so no written text holds a raw line feed inside a string.
-/
namespace TreeBundle.Json
set_option autoImplicit false

def escapeChar (c : Char) : List Char :=
  if c = '"' then ['\\', '"']
  else if c = '\\' then ['\\', '\\']
  else if c = '\x08' then ['\\', 'b']
  else if c = '\x0c' then ['\\', 'f']
  else if c = '\n' then ['\\', 'n']
  else if c = '\r' then ['\\', 'r']
  else if c = '\t' then ['\\', 't']
  else if c.toNat < 0x20 then
    "\\u00".toList ++ [Hexadecimal.digit (c.toNat / 16), Hexadecimal.digit (c.toNat % 16)]
  else [c]

def quote (text : String) : List Char :=
  '"' :: text.toList.flatMap escapeChar ++ ['"']

def scalar : Datum → List Char
  | .boolean value => (toString value).toList
  | .integer value => (toString value).toList
  | .float value => (value.text .compact).toList
  | .text value => quote value
  | _ => "null".toList

mutual

def compact : Datum → List Char
  | .list items => '[' :: compactItems items
  | .map entries => '\x7b' :: compactEntries entries
  | other => scalar other

def compactItems : List Datum → List Char
  | [] => [']']
  | [item] => compact item ++ [']']
  | item :: next :: others => compact item ++ ',' :: compactItems (next :: others)

def compactEntries : List (String × Datum) → List Char
  | [] => ['\x7d']
  | [(key, value)] => quote key ++ ':' :: (compact value ++ ['\x7d'])
  | (key, value) :: next :: others =>
    quote key ++ ':' :: (compact value ++ ',' :: compactEntries (next :: others))

end

def newLine (depth : Nat) : List Char :=
  '\n' :: List.replicate (2 * depth) ' '

mutual

def indented (depth : Nat) : Datum → List Char
  | .list [] => ['[', ']']
  | .list items => '[' :: newLine (depth + 1) ++ indentedItems depth items
  | .map [] => ['\x7b', '\x7d']
  | .map entries => '\x7b' :: newLine (depth + 1) ++ indentedEntries depth entries
  | other => scalar other

def indentedItems (depth : Nat) : List Datum → List Char
  | [] => newLine depth ++ [']']
  | [item] => indented (depth + 1) item ++ newLine depth ++ [']']
  | item :: next :: others =>
    indented (depth + 1) item ++ ',' :: newLine (depth + 1) ++ indentedItems depth (next :: others)

def indentedEntries (depth : Nat) : List (String × Datum) → List Char
  | [] => newLine depth ++ ['\x7d']
  | [(key, value)] =>
    quote key ++ ':' :: ' ' :: indented (depth + 1) value ++ newLine depth ++ ['\x7d']
  | (key, value) :: next :: others =>
    quote key ++ ':' :: ' ' :: indented (depth + 1) value ++ ',' :: newLine (depth + 1) ++
      indentedEntries depth (next :: others)

end

def print (value : Datum) : String :=
  String.ofList (compact value)

def printIndented (value : Datum) : String :=
  String.ofList (indented 0 value)

end TreeBundle.Json
