import TreeBundle.FileSystem.Write

/-!
# Writers

A writer takes bytes piece by piece and may fail at any piece, after taking a part of it. Output
is a writer whose state also says what files there are: an artifact grows inside the tree that is
being packed.
-/
namespace TreeBundle
set_option autoImplicit false

structure Writer (σ : Type) where
  write : σ → Bytes → σ × Option IoError

/-- Writes pieces up to the first failure. -/
def Writer.writeAll {σ : Type} (writer : Writer σ) : List Bytes → σ → σ × Option IoError
  | [], state => (state, none)
  | piece :: rest, state =>
    match writer.write state piece with
    | (state, none) => writer.writeAll rest state
    | (state, some problem) => (state, some problem)

structure Output (σ : Type) extends Writer σ where
  files : σ → FileSystem

/-- A writer in memory. It takes `room` more bytes, or any number if there is no limit. -/
structure Memory where
  taken : Bytes
  room : Option Nat
  deriving DecidableEq, Repr

namespace Memory

def ofLimit (room : Option Nat) : Memory := ⟨[], room⟩

def write (memory : Memory) (bytes : Bytes) : Memory × Option IoError :=
  match memory.room with
  | none => (⟨memory.taken ++ bytes, none⟩, none)
  | some room =>
    if bytes.length ≤ room then (⟨memory.taken ++ bytes, some (room - bytes.length)⟩, none)
    else (⟨memory.taken ++ bytes.take room, some 0⟩, some .closed)

def writer : Writer Memory := ⟨write⟩

/-- Output to memory, which no file shows. -/
def output (files : FileSystem) : Output Memory := { write, files := fun _ => files }

end Memory

/-- A writer that drops everything. -/
def Writer.sink : Writer Unit := ⟨fun state _ => (state, none)⟩

/-- A file being written through a buffer. -/
structure BufferedFile where
  files : FileSystem
  place : Place
  pending : Bytes
  /-- How many bytes have been sent since the file was opened. -/
  sent : Nat

namespace BufferedFile

def opened (files : FileSystem) (place : Place) : BufferedFile :=
  { files, place, pending := [], sent := 0 }

/-- The bytes the buffer holds before it is written out. -/
def capacity : Nat := 8192

/-- Sends bytes past the buffer. -/
def send (file : BufferedFile) (bytes : Bytes) : BufferedFile × Option IoError :=
  let sent := file.sent + bytes.length
  ({ file with files := file.files.append file.place bytes, sent },
    if file.files.takes file.place sent then none else some .noSpace)

def flush (file : BufferedFile) : BufferedFile × Option IoError :=
  if file.pending = [] then (file, none)
  else
    match file.send file.pending with
    | (file, none) => ({ file with pending := [] }, none)
    | (file, some problem) => (file, some problem)

/-- A piece that does not fit into the buffer has the buffer written out first; one as large as
the buffer goes past it. -/
def write (file : BufferedFile) (bytes : Bytes) : BufferedFile × Option IoError :=
  if file.pending.length + bytes.length < capacity then
    ({ file with pending := file.pending ++ bytes }, none)
  else
    let (file, problem) :=
      if file.pending.length + bytes.length > capacity then file.flush else (file, none)
    match problem with
    | some problem => (file, some problem)
    | none =>
      if bytes.length < capacity then ({ file with pending := file.pending ++ bytes }, none)
      else file.send bytes

def output : Output BufferedFile := { write, files := BufferedFile.files }

end BufferedFile
end TreeBundle
