import TreeBundle.Number.Hexadecimal

/-!
# Code point sets written as runs

A set of code points is written as the lengths of its alternating runs, first the length outside
the set, then the length inside, and so on, in hexadecimal and separated by blanks.
-/
namespace TreeBundle.Unicode
set_option autoImplicit false

/-- Inclusive ranges of code points, increasing and apart. -/
abbrev Ranges := List (Nat × Nat)

/-- Reads the lengths; `current` is the number being read. -/
def runLengths : List Char → Nat → List Nat
  | [], current => [current]
  | c :: rest, current =>
    match Hexadecimal.value? c with
    | some digit => runLengths rest (current * 16 + digit)
    | none => current :: runLengths rest 0

/-- The ranges of alternating run lengths that start at `position`. -/
def rangesOfRuns : List Nat → Nat → Ranges
  | outside :: inside :: rest, position =>
    (position + outside, position + outside + inside - 1) ::
      rangesOfRuns rest (position + outside + inside)
  | _, _ => []

structure NamedRuns where
  names : List String
  /-- The run lengths, over several lines. -/
  runs : List String
  deriving Repr

def NamedRuns.ranges (entry : NamedRuns) : Ranges :=
  rangesOfRuns (entry.runs.flatMap fun line => runLengths line.toList 0) 0

def findRanges (table : List NamedRuns) (name : String) : Option Ranges :=
  (table.find? (·.names.contains name)).map NamedRuns.ranges

def inRanges (ranges : Ranges) (code : Nat) : Bool :=
  ranges.any fun range => decide (range.1 ≤ code) && decide (code ≤ range.2)

end TreeBundle.Unicode
