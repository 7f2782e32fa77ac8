/-!
# Regular expressions over a text

What a regular expression matches is a set of spans, pairs of positions between the characters of
a text. The matcher works on sets of positions: from the positions where a match may start it
computes those where one may end.
-/
namespace TreeBundle.Pattern
set_option autoImplicit false

/-- A condition on a position that matches no character. -/
inductive Look where
  | textStart
  | textEnd
  | lineStart
  | lineEnd
  | lineStartCrlf
  | lineEndCrlf
  | wordEdge (unicode : Bool)
  | wordInside (unicode : Bool)
  | wordStart (unicode : Bool)
  | wordEnd (unicode : Bool)
  | wordStartHalf (unicode : Bool)
  | wordEndHalf (unicode : Bool)
  deriving DecidableEq, Repr

/-- Regular expressions whose single characters are tested by `α` and whose positions are tested
by `β`. -/
inductive Regex (α β : Type) where
  | empty
  | single (test : α)
  | look (condition : β)
  | sequence (first second : Regex α β)
  | either (left right : Regex α β)
  | times (count : Nat) (body : Regex α β)
  | atLeast (count : Nat) (body : Regex α β)
  | upTo (count : Nat) (body : Regex α β)
  deriving Repr

/-- How a text answers the tests of a regular expression at each position. -/
structure Reader (α β : Type) where
  size : Nat
  single : α → Nat → Bool
  look : β → Nat → Bool

/-- The spans a regular expression matches. -/
inductive Spans {α β : Type} (reader : Reader α β) : Regex α β → Nat → Nat → Prop where
  | empty (i : Nat) : Spans reader .empty i i
  | single (test : α) (i : Nat) : i < reader.size → reader.single test i = true →
      Spans reader (.single test) i (i + 1)
  | look (condition : β) (i : Nat) : reader.look condition i = true →
      Spans reader (.look condition) i i
  | sequence (first second : Regex α β) (i j k : Nat) : Spans reader first i j →
      Spans reader second j k → Spans reader (.sequence first second) i k
  | left (left right : Regex α β) (i j : Nat) : Spans reader left i j →
      Spans reader (.either left right) i j
  | right (left right : Regex α β) (i j : Nat) : Spans reader right i j →
      Spans reader (.either left right) i j
  | timesNone (body : Regex α β) (i : Nat) : Spans reader (.times 0 body) i i
  | timesMore (count : Nat) (body : Regex α β) (i j k : Nat) : Spans reader body i j →
      Spans reader (.times count body) j k → Spans reader (.times (count + 1) body) i k
  | atLeastEnough (count : Nat) (body : Regex α β) (i j : Nat) :
      Spans reader (.times count body) i j → Spans reader (.atLeast count body) i j
  | atLeastMore (count : Nat) (body : Regex α β) (i j k : Nat) :
      Spans reader (.atLeast count body) i j → Spans reader body j k →
      Spans reader (.atLeast count body) i k
  | upToNone (count : Nat) (body : Regex α β) (i : Nat) : Spans reader (.upTo count body) i i
  | upToMore (count : Nat) (body : Regex α β) (i j k : Nat) : Spans reader body i j →
      Spans reader (.upTo count body) j k → Spans reader (.upTo (count + 1) body) i k

/-- A set of positions: position `i` is in it when bit `i` is set. -/
abbrev Positions := Nat

def Positions.ofTest (size : Nat) (test : Nat → Bool) : Positions :=
  (List.range (size + 1)).foldl (fun set i => if test i then set ||| (1 <<< i) else set) 0

/-- Applies `step` `count` times, stopping early where it changes nothing. -/
def iterate (step : Positions → Positions) : Nat → Positions → Positions
  | 0, set => set
  | count + 1, set =>
    let next := step set
    if next = set then set else iterate step count next

namespace Regex

/-- A regular expression with the positions that pass each of its tests. -/
def resolve {α β : Type} (reader : Reader α β) : Regex α β → Regex Positions Positions
  | .empty => .empty
  | .single test =>
    .single (Positions.ofTest reader.size fun i => decide (i < reader.size) && reader.single test i)
  | .look condition => .look (Positions.ofTest reader.size (reader.look condition))
  | .sequence first second => .sequence (first.resolve reader) (second.resolve reader)
  | .either left right => .either (left.resolve reader) (right.resolve reader)
  | .times count body => .times count (body.resolve reader)
  | .atLeast count body => .atLeast count (body.resolve reader)
  | .upTo count body => .upTo count (body.resolve reader)

/-- The ends of the matches that start in a set; `size` is the size of the text. -/
def ends (size : Nat) : Regex Positions Positions → Positions → Positions
  | .empty, starts => starts
  | .single passing, starts => (starts &&& passing) <<< 1
  | .look passing, starts => starts &&& passing
  | .sequence first second, starts => second.ends size (first.ends size starts)
  | .either left right, starts => left.ends size starts ||| right.ends size starts
  | .times count body, starts => iterate (body.ends size) count starts
  | .atLeast count body, starts =>
    iterate (fun set => set ||| body.ends size set) (size + 1)
      (iterate (body.ends size) count starts)
  | .upTo count body, starts => iterate (fun set => set ||| body.ends size set) count starts

/-- Whether some span of the text matches. -/
def isFound {α β : Type} (reader : Reader α β) (regex : Regex α β) : Bool :=
  (regex.resolve reader).ends reader.size (Positions.ofTest reader.size fun _ => true) != 0

end Regex
end TreeBundle.Pattern
