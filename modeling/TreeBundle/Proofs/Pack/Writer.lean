import TreeBundle.Pack.Block
import TreeBundle.Pack.Writer
import TreeBundle.Proofs.Text.Utf8

/-!
# Outputs that take everything

An output that never fails can be asked for all bytes that went into it. To tell the blocks in
them apart, an output is recorded: the pieces written to it are kept one by one.
-/
namespace TreeBundle
set_option autoImplicit false

variable {σ : Type}

theorem Writer.writeAll_append (writer : Writer σ) {first : List Bytes} {out : σ}
    (success : (writer.writeAll first out).2 = none) (second : List Bytes) :
    writer.writeAll (first ++ second) out =
      writer.writeAll second (writer.writeAll first out).1 := by
  induction first generalizing out with
  | nil => rfl
  | cons piece rest ih =>
    rw [List.cons_append, Writer.writeAll, Writer.writeAll]
    rw [Writer.writeAll] at success
    cases wrote : writer.write out piece with
    | mk next problem =>
      rw [wrote] at success
      cases problem with
      | some problem => cases success
      | none => exact ih success

/-- A writer that never fails and keeps whatever is written to it. -/
structure Writer.KeepsAll (writer : Writer σ) (kept : σ → Bytes) (out : σ) : Prop where
  success : ∀ pieces, (writer.writeAll pieces out).2 = none
  kept : ∀ pieces, kept (writer.writeAll pieces out).1 = kept out ++ pieces.flatten

/-- Writing pieces without regard to failures is the same where there are none. -/
theorem Writer.foldl_write (writer : Writer σ) {pieces : List Bytes} {out : σ}
    (success : (writer.writeAll pieces out).2 = none) :
    pieces.foldl (fun out piece => (writer.write out piece).1) out =
      (writer.writeAll pieces out).1 := by
  induction pieces generalizing out with
  | nil => rfl
  | cons piece rest ih =>
    rw [Writer.writeAll] at success ⊢
    rw [List.foldl_cons]
    cases wrote : writer.write out piece with
    | mk next problem =>
      rw [wrote] at success
      cases problem with
      | some problem => cases success
      | none => exact ih success

/-- Nothing is written any more after a failure. -/
theorem Writer.writeAll_append_of_failure (writer : Writer σ) {first : List Bytes} {out : σ}
    {problem : IoError} (failure : (writer.writeAll first out).2 = some problem)
    (second : List Bytes) : writer.writeAll (first ++ second) out = writer.writeAll first out := by
  induction first generalizing out with
  | nil => cases failure
  | cons piece rest ih =>
    rw [List.cons_append, Writer.writeAll, Writer.writeAll]
    rw [Writer.writeAll] at failure
    cases wrote : writer.write out piece with
    | mk next other =>
      rw [wrote] at failure
      cases other with
      | some other => rfl
      | none => exact ih failure

namespace Output

/-- What is written, be it taken or not, shows in no file. -/
def Static (output : Output σ) (files : FileSystem) (out : σ) : Prop :=
  ∀ pieces, output.files (output.writeAll pieces out).1 = files

/-- An output that takes whatever is written to it and that no file shows. -/
structure TakesAll (output : Output σ) (files : FileSystem) (out : σ) : Prop where
  success : ∀ pieces, (output.writeAll pieces out).2 = none
  static : ∀ pieces, output.files (output.writeAll pieces out).1 = files

/-- An output that takes the first so many bytes, in whatever pieces they come, and then fails. -/
structure TakesFirst (output : Output σ) (taken : σ → Bytes) (limit : Nat) (out : σ) : Prop where
  success_iff : ∀ pieces, (output.writeAll pieces out).2 = none ↔ pieces.flatten.length ≤ limit
  taken : ∀ pieces, taken (output.writeAll pieces out).1 = pieces.flatten.take limit

/-- What an output has taken grows by each piece that it takes. -/
def Collects (output : Output σ) (taken : σ → Bytes) : Prop :=
  ∀ out piece, (output.write out piece).2 = none →
    taken (output.write out piece).1 = taken out ++ piece

/-- The same output with the pieces written to it. -/
def recorded (output : Output σ) : Output (σ × List Bytes) where
  write state piece :=
    let wrote := output.write state.1 piece
    ((wrote.1, state.2 ++ [piece]), wrote.2)
  files state := output.files state.1

variable {output : Output σ} {files : FileSystem} {out : σ}

theorem Static.files_eq (static : output.Static files out) : output.files out = files :=
  static []

theorem Static.after (static : output.Static files out) {pieces : List Bytes}
    (success : (output.writeAll pieces out).2 = none) :
    output.Static files (output.writeAll pieces out).1 := by
  intro more
  rw [← output.writeAll_append success]
  exact static _

theorem TakesAll.after (takes : output.TakesAll files out) (pieces : List Bytes) :
    output.TakesAll files (output.writeAll pieces out).1 where
  success more := by
    rw [← output.writeAll_append (takes.success pieces)]
    exact takes.success _
  static more := by
    rw [← output.writeAll_append (takes.success pieces)]
    exact takes.static _

theorem Collects.writeAll {taken : σ → Bytes} (collects : output.Collects taken)
    {pieces : List Bytes} (success : (output.writeAll pieces out).2 = none) :
    taken (output.writeAll pieces out).1 = taken out ++ pieces.flatten := by
  induction pieces generalizing out with
  | nil => simp [Writer.writeAll]
  | cons piece rest ih =>
    rw [Writer.writeAll] at success ⊢
    have first := collects out piece
    cases wrote : output.write out piece with
    | mk next problem =>
      rw [wrote] at success first
      cases problem with
      | some problem => cases success
      | none =>
        rw [List.flatten_cons, ← List.append_assoc, ← first rfl]
        exact ih success

theorem writeAll_recorded {pieces : List Bytes} (record : List Bytes)
    (success : (output.writeAll pieces out).2 = none) :
    output.recorded.writeAll pieces (out, record) =
      (((output.writeAll pieces out).1, record ++ pieces), none) := by
  induction pieces generalizing out record with
  | nil => simp [Writer.writeAll]
  | cons piece rest ih =>
    rw [Writer.writeAll] at success
    rw [Writer.writeAll, Writer.writeAll]
    cases wrote : output.write out piece with
    | mk next problem =>
      rw [wrote] at success
      cases problem with
      | some problem => cases success
      | none =>
        have rest_recorded := ih (record ++ [piece]) success
        rw [List.append_assoc, List.singleton_append] at rest_recorded
        simp only [recorded, wrote]
        exact rest_recorded

theorem TakesAll.recorded (takes : output.TakesAll files out) (record : List Bytes) :
    output.recorded.TakesAll files (out, record) where
  success pieces := by rw [writeAll_recorded record (takes.success pieces)]
  static pieces := by
    rw [writeAll_recorded record (takes.success pieces)]
    exact takes.static pieces

end Output

namespace Memory

theorem writeAll_writer (taken : Bytes) (pieces : List Bytes) :
    writer.writeAll pieces ⟨taken, none⟩ = (⟨taken ++ pieces.flatten, none⟩, none) := by
  induction pieces generalizing taken with
  | nil => simp [Writer.writeAll]
  | cons piece rest ih =>
    rw [Writer.writeAll]
    simp only [writer, write, List.flatten_cons, ← List.append_assoc]
    exact ih (taken ++ piece)

theorem writeAll_output (files : FileSystem) (taken : Bytes) (pieces : List Bytes) :
    (output files).writeAll pieces ⟨taken, none⟩ = (⟨taken ++ pieces.flatten, none⟩, none) :=
  writeAll_writer taken pieces

theorem takesAll_output (files : FileSystem) :
    (output files).TakesAll files (ofLimit none) where
  success pieces := by rw [ofLimit, writeAll_output]
  static _ := rfl

theorem writeAll_writer_of_room (taken : Bytes) (room : Nat) (pieces : List Bytes) :
    ((writer.writeAll pieces ⟨taken, some room⟩).2 = none ↔ pieces.flatten.length ≤ room) ∧
    (writer.writeAll pieces ⟨taken, some room⟩).1.taken =
      taken ++ pieces.flatten.take room := by
  induction pieces generalizing taken room with
  | nil => simp [Writer.writeAll]
  | cons piece rest ih =>
    rw [Writer.writeAll, List.flatten_cons, List.length_append]
    by_cases fits : piece.length ≤ room
    · have wrote : writer.write ⟨taken, some room⟩ piece =
          (⟨taken ++ piece, some (room - piece.length)⟩, none) := if_pos fits
      obtain ⟨success_iff, now_taken⟩ := ih (taken ++ piece) (room - piece.length)
      rw [wrote]
      simp only
      rw [success_iff, now_taken, List.take_append, List.take_of_length_le fits, List.append_assoc]
      exact ⟨by omega, rfl⟩
    · have wrote : writer.write ⟨taken, some room⟩ piece =
          (⟨taken ++ piece.take room, some 0⟩, some .closed) := if_neg fits
      rw [wrote]
      simp only [reduceCtorEq, false_iff]
      rw [List.take_append_of_le_length (by omega)]
      exact ⟨by omega, rfl⟩

theorem takesFirst_output (files : FileSystem) (limit : Nat) :
    (output files).TakesFirst Memory.taken limit (ofLimit (some limit)) where
  success_iff pieces := (writeAll_writer_of_room [] limit pieces).1
  taken pieces := (writeAll_writer_of_room [] limit pieces).2

theorem keepsAll_writer : writer.KeepsAll Memory.taken (ofLimit none) where
  success pieces := congrArg Prod.snd (writeAll_writer [] pieces)
  kept pieces := congrArg (Memory.taken ∘ Prod.fst) (writeAll_writer [] pieces)

theorem collects_output (files : FileSystem) : (output files).Collects Memory.taken := by
  intro memory piece success
  simp only [output, write] at success ⊢
  split at success <;> try rfl
  split at success
  · next fits => rw [if_pos fits]
  · cases success

end Memory

namespace Block

/-- The paths and the texts of blocks, read from the pieces in which they were written. -/
def read : List Bytes → List (Bytes × Bytes)
  | _ :: _ :: header :: _ :: contents :: _ :: rest => (header, contents) :: read rest
  | _ => []

/-- The paths of blocks. -/
def headers (pieces : List Bytes) : List Bytes :=
  (read pieces).map Prod.fst

theorem read_pieces (header contents : String) (rest : List Bytes) :
    read (pieces header contents ++ rest) =
      (Utf8.ofString header, Utf8.ofString contents) :: read rest :=
  rfl

theorem read_flatMap {α : Type} (header contents : α → String) (items : List α) :
    read (items.flatMap fun item => pieces (header item) (contents item)) =
      items.map fun item => (Utf8.ofString (header item), Utf8.ofString (contents item)) := by
  induction items with
  | nil => rfl
  | cons item items ih =>
    rw [List.flatMap_cons, read_pieces, ih]
    rfl

end Block
end TreeBundle
