import TreeBundle.Data.Sorting
import TreeBundle.Pattern.Meaning
import TreeBundle.Text.Utf8

/-!
# The size of a compiled pattern

A pattern is refused when the automaton for it would take more than a fixed amount of memory. The
automaton reads UTF-8: a class becomes one branch per sequence of byte ranges that spells a part
of it, and branches share the states of their common start. A repetition copies its body.
-/
namespace TreeBundle.Pattern
set_option autoImplicit false

def sizeLimit : Nat := 10 * Nat.pow 2 20

/-- Bytes that one state, one alternative of a branching state and one transition take. -/
def stateSize : Nat := 32

def alternativeSize : Nat := 4

def transitionSize : Nat := 8

namespace CharClass

/-- Joins sorted ranges that touch. -/
def joinTouching : Unicode.Ranges → Unicode.Ranges
  | first :: second :: rest =>
    if second.1 ≤ first.2 + 1 then joinTouching ((first.1, max first.2 second.2) :: rest)
    else first :: joinTouching (second :: rest)
  | rest => rest
termination_by ranges => ranges.length

def normalizeRanges (ranges : Unicode.Ranges) : Unicode.Ranges :=
  joinTouching (Sorting.sort (fun left right => decide (left.1 ≤ right.1)) ranges)

/-- The gaps between sorted ranges from `start` on. -/
def gaps (start : Nat) : Unicode.Ranges → Unicode.Ranges
  | [] => if start ≤ 0x10FFFF then [(start, 0x10FFFF)] else []
  | range :: rest =>
    if start < range.1 then (start, range.1 - 1) :: gaps (range.2 + 1) rest
    else gaps (range.2 + 1) rest

def complementRanges (ranges : Unicode.Ranges) : Unicode.Ranges :=
  gaps 0 (normalizeRanges ranges)

def intersectRanges (left right : Unicode.Ranges) : Unicode.Ranges :=
  complementRanges (complementRanges left ++ complementRanges right)

def combineRanges (left right : Unicode.Ranges) : SetOperation → Unicode.Ranges
  | .intersection => intersectRanges left right
  | .difference => intersectRanges left (complementRanges right)
  | .symmetricDifference =>
    intersectRanges left (complementRanges right) ++
      intersectRanges right (complementRanges left)

def countCodes (ranges : Unicode.Ranges) : Nat :=
  ranges.foldl (fun count range => count + (range.2 + 1 - range.1)) 0

/-- The most members a class may have for its case variants to be counted one by one. A larger
class holds nearly all of them anyway. -/
def variantLimit : Nat := 512

def variantRanges (ranges : Unicode.Ranges) : Unicode.Ranges :=
  if countCodes ranges ≤ variantLimit then
    ranges.flatMap fun range =>
      (List.range' range.1 (range.2 + 1 - range.1)).flatMap fun code =>
        (Unicode.caseVariants code).map fun variant => (variant, variant)
  else []

def toRanges : CharClass → Unicode.Ranges
  | .ofRanges content => normalizeRanges content
  | .union left right => normalizeRanges (left.toRanges ++ right.toRanges)
  | .combine operation left right =>
    normalizeRanges (combineRanges left.toRanges right.toRanges operation)
  | .complement inner => complementRanges inner.toRanges
  | .caseClosure inner =>
    let ranges := inner.toRanges
    normalizeRanges (ranges ++ variantRanges ranges)
  | .asciiCaseClosure inner =>
    let ranges := inner.toRanges
    normalizeRanges (ranges ++ (variantRanges ranges).filter fun range => range.2 < 0x80)

end CharClass

/-- The last code point of the first part of a range that has to be split, so that the byte
ranges of each part vary independently. -/
def splitPoint? (first last : Nat) : Option Nat :=
  if first < 0xE000 ∧ 0xD7FF < last then some 0xD7FF
  else
    match [0x7F, 0x7FF, 0xFFFF].find? fun top => decide (first ≤ top ∧ top < last) with
    | some top => some top
    | none =>
      if last ≤ 0x7F then none
      else
        [0x40, 0x1000, 0x40000].findSome? fun block =>
          if first / block = last / block then none
          else if first % block ≠ 0 then some (first / block * block + block - 1)
          else if last % block ≠ block - 1 then some (last / block * block - 1)
          else none

/-- The sequences of byte ranges that spell a range of code points; `fuel` bounds the splits. -/
def byteSequences : Nat → Nat → Nat → List (List (UInt8 × UInt8))
  | 0, _, _ => []
  | fuel + 1, first, last =>
    if last < first ∨ (0xD800 ≤ first ∧ last ≤ 0xDFFF) then []
    else
      match splitPoint? first last with
      | some point =>
        if point = 0xD7FF ∧ first < 0xE000 ∧ 0xD7FF < last then
          byteSequences fuel first point ++ byteSequences fuel 0xE000 last
        else byteSequences fuel first point ++ byteSequences fuel (point + 1) last
      | none =>
        [(Utf8.encodeChar (Char.ofNat first)).zip (Utf8.encodeChar (Char.ofNat last))]

def commonStart : List (UInt8 × UInt8) → List (UInt8 × UInt8) → Nat
  | left :: lefts, right :: rights => if left = right then commonStart lefts rights + 1 else 0
  | _, _ => 0

/-- The states of sorted sequences that share their common starts. -/
def sharedStates : List (UInt8 × UInt8) → List (List (UInt8 × UInt8)) → Nat
  | _, [] => 0
  | previous, sequence :: rest =>
    sequence.length - commonStart previous sequence + sharedStates sequence rest

def classFootprint (content : CharClass) : Nat :=
  match content.toRanges with
  | [] => stateSize
  | ranges =>
    let codes := CharClass.countCodes ranges
    let sequences := ranges.flatMap fun range => byteSequences 64 range.1 range.2
    if codes = 1 then sequences.flatten.length * stateSize
    else if ranges.all fun range => range.2 < 0x80 then
      2 * stateSize + transitionSize * ranges.length
    else
      (sharedStates [] sequences + 2) * stateSize + alternativeSize * sequences.length

/-- Whether an expression matches without reading anything, whatever it matches. -/
def readsNothing : Program → Bool
  | .empty => true
  | .single _ => false
  | .look _ => true
  | .sequence first second => readsNothing first && readsNothing second
  | .either left right => readsNothing left && readsNothing right
  | .times count body => count == 0 || readsNothing body
  | .atLeast _ body => readsNothing body
  | .upTo count body => count == 0 || readsNothing body

/-- An expression that reads nothing is not repeated. -/
def copies (count : Nat) (body : Program) : Nat :=
  if readsNothing body then min count 1 else count

/-- The bytes that the automaton of a program takes. -/
def footprint : Program → Nat
  | .empty => stateSize
  | .single content => classFootprint content
  | .look _ => stateSize
  | .sequence first second => footprint first + footprint second
  | .either left right =>
    footprint left + footprint right + 2 * (stateSize + alternativeSize)
  | .times count body => copies count body * footprint body
  | .atLeast count body =>
    copies (max count 1) body * footprint body + stateSize + 2 * alternativeSize
  | .upTo count body =>
    copies count body * (footprint body + stateSize + 2 * alternativeSize) + stateSize

end TreeBundle.Pattern
