import TreeBundle.Decide.Classify
import TreeBundle.Decide.Prune
import TreeBundle.Event

/-!
# Explaining a path

The rules that packing follows, applied to a single path: which directory cuts it off, which rule
decides it, and whether it would be written.
-/
namespace TreeBundle
set_option autoImplicit false

structure Explanation where
  /-- The normal form of the path below the root. -/
  path : String
  /-- The first excluded directory on the way to it. -/
  prunedBy : Option String
  decision : Decision
  forceIncluded : Bool
  written : Bool
  deriving DecidableEq, Repr

namespace Explanation

def toDatum (explanation : Explanation) : Datum :=
  .map ([("path", Datum.text explanation.path)] ++
    (explanation.prunedBy.map fun dir => ("pruned_by", Datum.text dir)).toList ++
    [("decision", explanation.decision.toDatum),
      ("force_included", .boolean explanation.forceIncluded),
      ("written", .boolean explanation.written)])

def fields : List Datum.Field :=
  [.of "path" true Datum.toText, .of "pruned_by" false Datum.toOptionalText,
    .of "decision" true Decision.ofDatum, .of "force_included" true Datum.toBool,
    .of "written" true Datum.toBool]

def ofDatum (datum : Datum) : Except DecodeError Explanation := do
  let entries ← datum.toRecord "Explanation" fields
  return {
    path := ← Datum.field entries "path" Datum.toText
    prunedBy := ←
      match entries.lookup "pruned_by" with
      | some value => value.toOptionalText
      | none => .ok none
    decision := ← Datum.field entries "decision" Decision.ofDatum
    forceIncluded := ← Datum.field entries "force_included" Datum.toBool
    written := ← Datum.field entries "written" Datum.toBool }

end Explanation

/-- The normal form of a path below the root. An absolute path that does not lie there keeps all
its names. -/
def relativeForm (root path : NativePath) : String :=
  if path.isAbsolute then RelPath.normalize ((path.relativeTo? root).getD path.text)
  else RelPath.normalize path.text

def explain (rules : RuleSet) (files : FileSystem) (root path : NativePath) :
    Explanation × List Event :=
  let rel := relativeForm root path
  let (parent, name) := RelPath.splitLast rel
  let dir := root.join (.ofRelative parent)
  let prunedBy := rules.prunedAncestor rel
  let decision := rules.decide files name dir
  let forced := rules.isAlwaysIncluded rel
  let isFile := files.isFile (root.join (.ofRelative rel))
  (⟨rel, prunedBy, decision, forced,
    isFile && ((prunedBy.isNone && decision.verdict.isAdmitted) || forced)⟩,
    [.classified (dir.join (.ofString name)) decision])

end TreeBundle
