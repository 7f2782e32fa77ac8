import TreeBundle.Number.Hexadecimal

/-!
# Writing TOML

A string is written in the first form that needs no escapes, a long form only where the short ones
fail. An array of several items takes a line for each of them.
-/
namespace TreeBundle.Toml
set_option autoImplicit false

inductive StringForm where
  | basic
  | literal
  | longBasic
  | longLiteral
  deriving DecidableEq, Repr

/-- Control characters that no form holds as they are. -/
def isControl (c : Char) : Bool :=
  (decide (c.toNat < 0x20) && c != '\t' && c != '\n') || c == '\x7f'

/-- The length of the longest run of `mark`; `current` is the length of the run read so far. -/
def longestRun (mark : Char) : Nat → List Char → Nat
  | current, [] => current
  | current, c :: rest =>
    if c = mark then longestRun mark (current + 1) rest
    else max current (longestRun mark 0 rest)

def StringForm.choose (text : List Char) : StringForm :=
  let clean := !text.any isControl
  let hasLineFeed := text.contains '\n'
  let hasBackslash := text.contains '\\'
  if clean && !hasBackslash && !text.contains '"' && !hasLineFeed then .basic
  else if clean && !text.contains '\'' && !hasLineFeed then .literal
  else if clean && !hasBackslash && decide (longestRun '"' 0 text ≤ 2) then .longBasic
  else if clean && decide (longestRun '\'' 0 text ≤ 2) then .longLiteral
  else if hasLineFeed then .longBasic
  else .basic

/-- The written form of a character other than a quote or a line feed. -/
def escapeChar (c : Char) : List Char :=
  if c = '\\' then ['\\', '\\']
  else if c = '\x08' then ['\\', 'b']
  else if c = '\t' then ['\\', 't']
  else if c = '\x0c' then ['\\', 'f']
  else if c = '\r' then ['\\', 'r']
  else if isControl c then
    "\\u00".toList ++
      [Hexadecimal.upperDigit (c.toNat / 16), Hexadecimal.upperDigit (c.toNat % 16)]
  else [c]

def escapeBasic (text : List Char) : List Char :=
  text.flatMap fun c =>
    if c = '"' then ['\\', '"'] else if c = '\n' then ['\\', 'n'] else escapeChar c

/-- In a long string the third of three quotes in a row is escaped; `quotes` counts those that
stand unescaped right before the text. -/
def escapeLongBasic : Nat → List Char → List Char
  | _, [] => []
  | quotes, c :: rest =>
    if c = '"' then
      if quotes = 2 then '\\' :: '"' :: escapeLongBasic 0 rest
      else '"' :: escapeLongBasic (quotes + 1) rest
    else if c = '\n' then '\n' :: escapeLongBasic 0 rest
    else escapeChar c ++ escapeLongBasic 0 rest

def openingLineFeed (text : List Char) : List Char :=
  if text.contains '\n' then ['\n'] else []

def writeString (text : List Char) : List Char :=
  match StringForm.choose text with
  | .basic => '"' :: escapeBasic text ++ ['"']
  | .literal => '\'' :: text ++ ['\'']
  | .longBasic =>
    ['"', '"', '"'] ++ openingLineFeed text ++ escapeLongBasic 0 text ++ ['"', '"', '"']
  | .longLiteral =>
    ['\'', '\'', '\''] ++ openingLineFeed text ++ text ++ ['\'', '\'', '\'']

def writeItem (text : String) : List Char :=
  "    ".toList ++ writeString text.toList ++ [',', '\n']

def writeArray : List String → List Char
  | [] => ['[', ']']
  | [item] => '[' :: writeString item.toList ++ [']']
  | items => '[' :: '\n' :: items.flatMap writeItem ++ [']']

def writeBoolean (value : Bool) : List Char :=
  (toString value).toList

def writeEntry (key : String) (value : List Char) : List Char :=
  key.toList ++ [' ', '=', ' '] ++ value ++ ['\n']

end TreeBundle.Toml
