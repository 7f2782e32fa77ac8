import TreeBundle.Pattern.CharClass
import TreeBundle.Pattern.Expression
import TreeBundle.Unicode.Category
import TreeBundle.Unicode.Property
import TreeBundle.Unicode.Script

/-!
# Property classes

A property is named loosely: case, blanks, hyphens, underscores and a leading `is` do not count.
A plain name is a yes-or-no property, a general category or a script, looked for in that order.
-/
namespace TreeBundle.Pattern
set_option autoImplicit false

def asciiLower (c : Char) : Char :=
  if 'A' ≤ c ∧ c ≤ 'Z' then Char.ofNat (c.toNat + 0x20) else c

def foldName (name : List Char) : String :=
  let lower := name.map asciiLower
  let bare (name : List Char) : List Char :=
    name.filter fun c => decide (c.toNat < 0x80) && c != ' ' && c != '_' && c != '-'
  match lower with
  | 'i' :: 's' :: rest =>
    -- the one name that the prefix would hide
    if bare rest = ['c'] then "isc" else String.ofList (bare rest)
  | lower => String.ofList (bare lower)

/-- General categories that are made of others. -/
def categoryGroups : List (List String × List String) := [
  (["l", "letter"], ["lu", "ll", "lt", "lm", "lo"]),
  (["lc", "casedletter"], ["lu", "ll", "lt"]),
  (["m", "mark", "combiningmark"], ["mn", "mc", "me"]),
  (["n", "number"], ["nd", "nl", "no"]),
  (["p", "punctuation", "punct"], ["pc", "pd", "ps", "pe", "pi", "pf", "po"]),
  (["s", "symbol"], ["sm", "sc", "sk", "so"]),
  (["z", "separator"], ["zs", "zl", "zp"])]

def ofTable? (table : List Unicode.NamedRuns) (name : String) : Option CharClass :=
  (Unicode.findRanges table name).map .ofRanges

def ofCategories (names : List String) : CharClass :=
  CharClass.unions (names.filterMap (ofTable? Unicode.categories))

def assigned : CharClass :=
  CharClass.unions (Unicode.categories.map fun entry => .ofRanges entry.ranges)

def generalCategory? (name : String) : Option CharClass :=
  if name = "any" then some .all
  else if name = "ascii" then some (.ofRange 0 0x7F)
  else if name = "assigned" then some assigned
  else if name = "cn" ∨ name = "unassigned" then some (.complement assigned)
  else if name = "c" ∨ name = "other" then
    some (.union (.complement assigned) (ofCategories ["cc", "cf", "co"]))
  else
    match categoryGroups.find? (·.1.contains name) with
    | some group => some (ofCategories group.2)
    | none => ofTable? Unicode.categories name

def script? (name : String) : Option CharClass :=
  ofTable? Unicode.scripts name

/-- A name that is a category as well as a property means the category. -/
def categoryFirst : List String := ["cf", "sc", "lc"]

def plainProperty? (name : String) : Option CharClass :=
  ((if categoryFirst.contains name then none else ofTable? Unicode.properties name).or
    (generalCategory? name)).or (script? name)

def property? : PropertyName → Option CharClass
  | .plain name => plainProperty? (foldName name)
  | .valued name value =>
    let name := foldName name
    if name = "gc" ∨ name = "generalcategory" then generalCategory? (foldName value)
    else if name = "sc" ∨ name = "script" then script? (foldName value)
    else none

end TreeBundle.Pattern
