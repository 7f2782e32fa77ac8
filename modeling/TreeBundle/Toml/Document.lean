import TreeBundle.Data.Datum

/-!
# TOML documents

A document is a sequence of statements: a key assignment, a table header, or a header that adds an
element to an array of tables. Tables grow statement by statement; a statement that would define
something twice is refused.
-/
namespace TreeBundle.Toml
set_option autoImplicit false

/-- What first made a table: a header of its own, a longer header below it, or a dotted key. -/
inductive Origin where
  | header
  | implied
  | dotted
  deriving DecidableEq, Repr

inductive Node where
  | value (datum : Datum)
  | table (origin : Origin) (entries : List (String × Node))
  | tables (elements : List (List (String × Node)))

abbrev Entries := List (String × Node)

mutual

def Node.toDatum : Node → Datum
  | .value datum => datum
  | .table _ entries => .map (entryData entries)
  | .tables elements => .list (elementData elements)

def entryData : List (String × Node) → List (String × Datum)
  | [] => []
  | (key, node) :: rest => (key, node.toDatum) :: entryData rest

def elementData : List (List (String × Node)) → List Datum
  | [] => []
  | entries :: rest => .map (entryData entries) :: elementData rest

end

/-- Changes the entry of a key in its place, or adds one at the end. -/
def alter (key : String) (change : Option Node → Option Node) : Entries → Option Entries
  | [] => (change none).map fun node => [(key, node)]
  | (name, node) :: rest =>
    if name = key then (change (some node)).map fun node => (name, node) :: rest
    else (alter key change rest).map ((name, node) :: ·)

def changeLast (change : Entries → Option Entries) : List Entries → Option (List Entries)
  | [] => none
  | [entries] => (change entries).map ([·])
  | entries :: next :: rest => (changeLast change (next :: rest)).map (entries :: ·)

/-- Which tables a key may lead into. -/
structure Passage where
  admits : Origin → Bool
  throughElements : Bool
  /-- The origin of a table that is made on the way. -/
  fresh : Origin

def Passage.enter (passage : Passage) (change : Entries → Option Entries) :
    Option Node → Option Node
  | none => (change []).map (.table passage.fresh)
  | some (.table origin entries) =>
    if passage.admits origin then (change entries).map (.table origin) else none
  | some (.tables elements) =>
    if passage.throughElements then (changeLast change elements).map .tables else none
  | some (.value _) => none

/-- The way of a header leads through every table, and into the last element of an array. -/
def Passage.ofHeader : Passage := ⟨fun _ => true, true, .implied⟩

/-- The way of a dotted key leads through tables without a header of their own. -/
def Passage.ofDottedKey : Passage := ⟨(· != .header), true, .dotted⟩

/-- The table that a dotted key assigns in was made by dotted keys alone. -/
def Passage.lastOfDottedKey : Passage := ⟨(· == .dotted), false, .dotted⟩

def insertNew (key : String) (node : Node) : Entries → Option Entries :=
  alter key fun found => if found.isNone then some node else none

/-- Assigns to a dotted key. -/
def assign (datum : Datum) : List String → Entries → Option Entries
  | [], _ => none
  | [key], entries => insertNew key (.value datum) entries
  | [table, key], entries =>
    alter table (Passage.lastOfDottedKey.enter (insertNew key (.value datum))) entries
  | table :: next :: rest, entries =>
    alter table (Passage.ofDottedKey.enter (assign datum (next :: rest))) entries

/-- Follows the keys of a header and changes the table they lead to. -/
def within (change : Entries → Option Entries) : List String → Entries → Option Entries
  | [], entries => change entries
  | key :: rest, entries => alter key (Passage.ofHeader.enter (within change rest)) entries

/-- A header moves a table that was only implied to the end, or makes an empty one there. -/
def openTable (key : String) (entries : Entries) : Option Entries :=
  match entries.lookup key with
  | none => some (entries ++ [(key, .table .header [])])
  | some (.table .implied content) =>
    some (entries.filter (·.1 != key) ++ [(key, .table .header content)])
  | some _ => none

def addElement (key : String) : Entries → Option Entries :=
  alter key fun
    | none => some (.tables [[]])
    | some (.tables elements) => some (.tables (elements ++ [[]]))
    | some _ => none

inductive Statement where
  | assignment (path : List String) (datum : Datum)
  | header (path : List String)
  | element (path : List String)

/-- A document under construction: all tables, and the keys of the current one. -/
structure Draft where
  root : Entries
  current : List String

def Draft.empty : Draft := ⟨[], []⟩

def Draft.openAt (draft : Draft) (place : String → Entries → Option Entries)
    (path : List String) : Option Draft :=
  match path.getLast? with
  | none => none
  | some key => (within (place key) path.dropLast draft.root).map fun root => ⟨root, path⟩

def Draft.add (draft : Draft) : Statement → Option Draft
  | .assignment path datum =>
    (within (assign datum path) draft.current draft.root).map fun root => ⟨root, draft.current⟩
  | .header path => draft.openAt openTable path
  | .element path => draft.openAt addElement path

/-- The entries that statements make, in the order of their first definition. -/
def ofStatements? (statements : List Statement) : Option (List (String × Datum)) :=
  (statements.foldlM Draft.add Draft.empty).map fun draft => entryData draft.root

/-- The entries of an inline table. -/
def ofAssignments? (assignments : List (List String × Datum)) : Option (List (String × Datum)) :=
  (assignments.foldlM (fun entries (path, datum) => assign datum path entries) []).map entryData

end TreeBundle.Toml
