import TreeBundle.Data.Decode
import TreeBundle.Data.Sorting

/-!
# Decisions about files

A file is admitted or rejected by the first rule that applies to it. Rules are ordered: rejecting
rules come before admitting ones, and what no rule decides is rejected.
-/
namespace TreeBundle
set_option autoImplicit false

inductive Verdict where
  | admitted
  | rejected
  deriving DecidableEq, Repr

namespace Verdict

def name : Verdict → String
  | .admitted => "include"
  | .rejected => "exclude"

/-- The name that log lines show. -/
def title : Verdict → String
  | .admitted => "Include"
  | .rejected => "Exclude"

def isAdmitted (verdict : Verdict) : Bool :=
  verdict == .admitted

def variants : List (String × Verdict) :=
  [.admitted, .rejected].map fun verdict => (verdict.name, verdict)

def ofDatum : Datum → Except DecodeError Verdict :=
  Datum.toVariant variants

end Verdict

/-- The rules in their order. -/
inductive RuleKind where
  | excludeFilename
  | excludeExtension
  | excludeRegex
  | includeFilename
  | includeExtension
  | includeRegex
  | shebang
  | byDefault
  deriving DecidableEq, Repr

namespace RuleKind

def all : List RuleKind :=
  [.excludeFilename, .excludeExtension, .excludeRegex, .includeFilename, .includeExtension,
    .includeRegex, .shebang, .byDefault]

def name : RuleKind → String
  | .excludeFilename => "exclude-filename"
  | .excludeExtension => "exclude-extension"
  | .excludeRegex => "exclude-regex"
  | .includeFilename => "include-filename"
  | .includeExtension => "include-extension"
  | .includeRegex => "include-regex"
  | .shebang => "shebang"
  | .byDefault => "default"

/-- The position in the order of rules. -/
def rank (kind : RuleKind) : Nat :=
  all.idxOf kind

/-- What a file gets that the rule decides. -/
def verdict : RuleKind → Verdict
  | .excludeFilename => .rejected
  | .excludeExtension => .rejected
  | .excludeRegex => .rejected
  | .includeFilename => .admitted
  | .includeExtension => .admitted
  | .includeRegex => .admitted
  | .shebang => .admitted
  | .byDefault => .rejected

/-- Rules in order; equal ones stay as they stand. -/
def sort (kinds : List RuleKind) : List RuleKind :=
  Sorting.sort (fun left right => decide (left.rank ≤ right.rank)) kinds

def variants : List (String × RuleKind) :=
  all.map fun kind => (kind.name, kind)

def ofDatum : Datum → Except DecodeError RuleKind :=
  Datum.toVariant variants

end RuleKind

structure Decision where
  verdict : Verdict
  rule : RuleKind
  deriving DecidableEq, Repr

namespace Decision

def byRule (kind : RuleKind) : Decision :=
  ⟨kind.verdict, kind⟩

def toDatum (decision : Decision) : Datum :=
  .map [("verdict", .text decision.verdict.name), ("rule", .text decision.rule.name)]

def fields : List Datum.Field :=
  [.of "verdict" true Verdict.ofDatum, .of "rule" true RuleKind.ofDatum]

def ofDatum (datum : Datum) : Except DecodeError Decision := do
  let entries ← datum.toRecord "Decision" fields
  return ⟨← Datum.field entries "verdict" Verdict.ofDatum,
    ← Datum.field entries "rule" RuleKind.ofDatum⟩

end Decision
end TreeBundle
