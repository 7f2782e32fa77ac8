import TreeBundle.Data.Decode

/-!
# What a pack run reports
-/
namespace TreeBundle
set_option autoImplicit false

structure PackReport where
  /-- The blocks written, forced ones included. -/
  filesWritten : Nat
  /-- The bytes of the written files, as they are on disk. -/
  bytesWritten : Nat
  /-- The blocks that were written because their files are always included. -/
  forcedWritten : Nat
  /-- The files to include always that are missing or unreadable. -/
  forcedSkipped : Nat
  /-- The directories that were cut. -/
  dirsPruned : Nat
  deriving DecidableEq, Repr

namespace PackReport

def empty : PackReport := ⟨0, 0, 0, 0, 0⟩

def toDatum (report : PackReport) : Datum :=
  .map [("files_written", .integer report.filesWritten),
    ("bytes_written", .integer report.bytesWritten),
    ("forced_written", .integer report.forcedWritten),
    ("forced_skipped", .integer report.forcedSkipped),
    ("dirs_pruned", .integer report.dirsPruned)]

def count : Datum → Except DecodeError Nat :=
  Datum.toNat "usize"

def byteCount : Datum → Except DecodeError Nat :=
  Datum.toNat "u64"

def fields : List Datum.Field :=
  [.of "files_written" true count, .of "bytes_written" true byteCount,
    .of "forced_written" true count, .of "forced_skipped" true count,
    .of "dirs_pruned" true count]

def ofDatum (datum : Datum) : Except DecodeError PackReport := do
  let entries ← datum.toRecord "PackReport" fields
  return {
    filesWritten := ← Datum.field entries "files_written" count
    bytesWritten := ← Datum.field entries "bytes_written" byteCount
    forcedWritten := ← Datum.field entries "forced_written" count
    forcedSkipped := ← Datum.field entries "forced_skipped" count
    dirsPruned := ← Datum.field entries "dirs_pruned" count }

/-- The lines that show a report to the operator. -/
def statistics (report : PackReport) : List String :=
  ["📦 Pack Statistics:",
    "   Files: " ++ toString report.filesWritten,
    "   Bytes: " ++ toString report.bytesWritten,
    "   Force-included: " ++ toString report.forcedWritten ++ " written, " ++
      toString report.forcedSkipped ++ " skipped",
    "   Directories pruned: " ++ toString report.dirsPruned]

end PackReport
end TreeBundle
