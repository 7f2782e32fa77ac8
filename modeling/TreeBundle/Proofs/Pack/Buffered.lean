import TreeBundle.Pack.Writer
import TreeBundle.Proofs.FileSystem.Appended

/-!
# Files that are written through a buffer

What is written goes to the file in order, a part of it later than it was written. So at any time
the file holds a beginning of it, and the rest is in the buffer. A write fails only if the file does
not take all that has been written so far.
-/
namespace TreeBundle
set_option autoImplicit false

/-- Whether so many bytes can be written at a place. Only a device may take less. -/
def FileSystem.Takes (files : FileSystem) (place : Place) (count : Nat) : Prop :=
  ∀ room, files.at? place = some (.device (some room)) → count ≤ room

namespace FileSystem

variable {files : FileSystem} {place : Place}

theorem Takes.mono {few many : Nat} (takes : files.Takes place many) (fewer : few ≤ many) :
    files.Takes place few :=
  fun room held => Nat.le_trans fewer (takes room held)

theorem takes_eq_true_iff {count : Nat} :
    files.takes place count = true ↔ files.Takes place count := by
  rw [takes]
  constructor
  · intro fits room held
    rw [held] at fits
    exact of_decide_eq_true fits
  · intro fits
    split
    · next room held => exact decide_eq_true (fits room held)
    · rfl

/-- Nothing that is written takes room from a device: its limit counts from each opening. -/
theorem takes_append (files : FileSystem) (place : Place) (bytes : Bytes) (count : Nat) :
    (files.append place bytes).takes place count = files.takes place count := by
  cases held : files.at? place with
  | none => rw [append_of_vacant held]
  | some node =>
    have held_after : (files.append place bytes).at? place = some (node.grown bytes) := by
      rw [append_of_at? held]
      exact Node.at?_alterAt held
    rw [takes, takes, held, held_after]
    cases node <;> rfl

end FileSystem

namespace BufferedFile

variable {base : FileSystem} {place : Place} {sent total : Bytes} {file : BufferedFile}

/-- A file that has been sent some bytes since it was opened. -/
structure Sent (base : FileSystem) (place : Place) (sent : Bytes) (file : BufferedFile) : Prop where
  at_place : file.place = place
  appended : file.files = base.append place sent
  counted : file.sent = sent.length

theorem sent_opened (base : FileSystem) (place : Place) : Sent base place [] (opened base place) :=
  ⟨rfl, (base.append_nil place).symm, rfl⟩

/-- What waits in the buffer does not matter. -/
theorem Sent.withPending (is_sent : Sent base place sent file) (pending : Bytes) :
    Sent base place sent { file with pending } :=
  ⟨is_sent.at_place, is_sent.appended, is_sent.counted⟩

/-- More goes behind what was sent. -/
theorem Sent.send (is_sent : Sent base place sent file) (bytes : Bytes) :
    Sent base place (sent ++ bytes) (file.send bytes).1 where
  at_place := is_sent.at_place
  appended := by
    rw [BufferedFile.send, is_sent.appended, is_sent.at_place, FileSystem.append_append]
  counted := by rw [BufferedFile.send, is_sent.counted, List.length_append]

theorem Sent.exists_flush (is_sent : Sent base place sent file) :
    ∃ sent', Sent base place sent' file.flush.1 := by
  have sends := is_sent.send file.pending
  rw [flush]
  split
  · exact ⟨sent, is_sent⟩
  · generalize file.send file.pending = result at sends
    obtain ⟨file, problem⟩ := result
    cases problem with
    | none => exact ⟨_, sends.withPending []⟩
    | some problem => exact ⟨_, sends⟩

/-- Whether it fails or not, a write only appends to the file. -/
theorem Sent.exists_write (is_sent : Sent base place sent file) (bytes : Bytes) :
    ∃ sent', Sent base place sent' (file.write bytes).1 := by
  rw [write]
  split
  · exact ⟨sent, is_sent.withPending _⟩
  have flushed : ∃ sent', Sent base place sent'
      (if file.pending.length + bytes.length > capacity then file.flush else (file, none)).1 := by
    split
    · exact is_sent.exists_flush
    · exact ⟨sent, is_sent⟩
  generalize (if file.pending.length + bytes.length > capacity then file.flush
    else (file, none)) = result at flushed
  obtain ⟨middle, problem⟩ := result
  obtain ⟨middle_sent, is_middle_sent⟩ := flushed
  cases problem with
  | some problem => exact ⟨middle_sent, is_middle_sent⟩
  | none =>
    simp only
    split
    · exact ⟨middle_sent, is_middle_sent.withPending _⟩
    · exact ⟨_, is_middle_sent.send bytes⟩

/-! ## What is taken -/

/-- A file that has taken some bytes: a beginning of them has been sent, and the rest is in the
buffer. -/
def Holds (base : FileSystem) (place : Place) (total : Bytes) (file : BufferedFile) : Prop :=
  ∃ sent, Sent base place sent file ∧ base.Takes place sent.length ∧ sent ++ file.pending = total

theorem holds_opened (base : FileSystem) (place : Place) :
    Holds base place [] (opened base place) :=
  ⟨[], sent_opened base place, fun _ _ => Nat.zero_le _, rfl⟩

/-- What is sent is taken whole, unless it is too much together with what was sent before. -/
theorem Sent.send_cases (is_sent : Sent base place sent file) (bytes : Bytes) :
    ((file.send bytes).2 = none ∧ base.Takes place (sent ++ bytes).length) ∨
      ((file.send bytes).2 = some .noSpace ∧ ¬base.Takes place (sent ++ bytes).length) := by
  have taken : (file.send bytes).2 =
      if base.takes place (sent ++ bytes).length then none else some .noSpace := by
    rw [BufferedFile.send, is_sent.appended, is_sent.at_place, is_sent.counted,
      FileSystem.takes_append, List.length_append]
  rw [taken, ← FileSystem.takes_eq_true_iff]
  by_cases fits : base.takes place (sent ++ bytes).length = true
  · exact Or.inl ⟨if_pos fits, fits⟩
  · exact Or.inr ⟨if_neg fits, fits⟩

/-- Writing out the buffer fails exactly if the file does not take all that it was given. -/
theorem Holds.flush_cases (holds : Holds base place total file) :
    (file.flush.2 = none ∧ base.Takes place total.length ∧ Sent base place total file.flush.1 ∧
        file.flush.1.pending = []) ∨
      (file.flush.2 = some .noSpace ∧ ¬base.Takes place total.length) := by
  obtain ⟨sent, is_sent, takes, rfl⟩ := holds
  rw [flush]
  by_cases empty : file.pending = []
  · have whole : sent ++ file.pending = sent := by rw [empty, List.append_nil]
    rw [if_pos empty, whole]
    exact Or.inl ⟨rfl, takes, is_sent, empty⟩
  rw [if_neg empty]
  have sends := is_sent.send file.pending
  have taken := is_sent.send_cases file.pending
  generalize sent ++ file.pending = total at sends taken ⊢
  generalize file.send file.pending = result at sends taken ⊢
  obtain ⟨next, problem⟩ := result
  rcases taken with ⟨succeeds, now_takes⟩ | ⟨fails, full⟩
  · obtain rfl : problem = none := succeeds
    exact Or.inl ⟨rfl, now_takes, sends.withPending [], rfl⟩
  · obtain rfl : problem = some .noSpace := fails
    exact Or.inr ⟨rfl, full⟩

/-- A write that fails has come to more than the file takes. -/
theorem Holds.write_cases (holds : Holds base place total file) (bytes : Bytes) :
    ((file.write bytes).2 = none ∧ Holds base place (total ++ bytes) (file.write bytes).1) ∨
      ((file.write bytes).2 = some .noSpace ∧ ¬base.Takes place (total ++ bytes).length) := by
  rw [write]
  by_cases fits : file.pending.length + bytes.length < capacity
  · rw [if_pos fits]
    obtain ⟨sent, is_sent, takes, rfl⟩ := holds
    exact Or.inl ⟨rfl, sent, is_sent.withPending _, takes, (List.append_assoc _ _ _).symm⟩
  rw [if_neg fits]
  -- The buffer has been written out, or it is empty if the piece goes past it.
  have flushed : (∃ middle, (if file.pending.length + bytes.length > capacity then file.flush
          else (file, none)) = (middle, none) ∧ Holds base place total middle ∧
        (capacity ≤ bytes.length → middle.pending = [])) ∨
      ∃ middle, (if file.pending.length + bytes.length > capacity then file.flush
          else (file, none)) = (middle, some .noSpace) ∧ ¬base.Takes place total.length := by
    by_cases beyond : file.pending.length + bytes.length > capacity
    · rw [if_pos beyond]
      rcases holds.flush_cases with ⟨succeeds, takes, is_sent, empty⟩ | ⟨fails, full⟩
      · refine Or.inl ⟨file.flush.1, Prod.ext rfl succeeds, ⟨total, is_sent, takes, ?_⟩, ?_⟩
        · rw [empty, List.append_nil]
        · exact fun _ => empty
      · exact Or.inr ⟨file.flush.1, Prod.ext rfl fails, full⟩
    · rw [if_neg beyond]
      refine Or.inl ⟨file, rfl, holds, fun large => List.eq_nil_of_length_eq_zero ?_⟩
      omega
  rcases flushed with ⟨middle, same, middle_holds, empty⟩ | ⟨middle, same, full⟩
  · rw [same]
    simp only
    obtain ⟨sent, is_sent, takes, rfl⟩ := middle_holds
    by_cases small : bytes.length < capacity
    · rw [if_pos small]
      exact Or.inl ⟨rfl, sent, is_sent.withPending _, takes, (List.append_assoc _ _ _).symm⟩
    rw [if_neg small]
    have nothing_left : middle.pending = [] := empty (Nat.le_of_not_lt small)
    have whole : sent ++ middle.pending = sent := by rw [nothing_left, List.append_nil]
    rw [whole]
    rcases is_sent.send_cases bytes with ⟨succeeds, now_takes⟩ | ⟨fails, full⟩
    · refine Or.inl ⟨succeeds, sent ++ bytes, is_sent.send bytes, now_takes, ?_⟩
      rw [BufferedFile.send, nothing_left, List.append_nil]
    · exact Or.inr ⟨fails, full⟩
  · rw [same]
    refine Or.inr ⟨rfl, fun takes => full (takes.mono ?_)⟩
    rw [List.length_append]
    exact Nat.le_add_right _ _

/-- So pieces are all taken, or they are too much. -/
theorem Holds.writeAll_cases (pieces : List Bytes) (holds : Holds base place total file) :
    ((output.writeAll pieces file).2 = none ∧
        Holds base place (total ++ pieces.flatten) (output.writeAll pieces file).1) ∨
      ((output.writeAll pieces file).2 = some .noSpace ∧
        ¬base.Takes place (total ++ pieces.flatten).length) := by
  induction pieces generalizing file total with
  | nil =>
    rw [List.flatten_nil, List.append_nil]
    exact Or.inl ⟨rfl, holds⟩
  | cons piece rest ih =>
    rw [List.flatten_cons, ← List.append_assoc, Writer.writeAll]
    have wrote : ((output.write file piece).2 = none ∧
          Holds base place (total ++ piece) (output.write file piece).1) ∨
        ((output.write file piece).2 = some .noSpace ∧
          ¬base.Takes place (total ++ piece).length) := holds.write_cases piece
    generalize output.write file piece = result at wrote
    obtain ⟨next, problem⟩ := result
    rcases wrote with ⟨succeeds, next_holds⟩ | ⟨fails, full⟩
    · obtain rfl : problem = none := succeeds
      exact ih next_holds
    · obtain rfl : problem = some .noSpace := fails
      refine Or.inr ⟨rfl, fun takes => full (takes.mono ?_)⟩
      simp only [List.length_append]
      omega

end BufferedFile
end TreeBundle
