/-!
# Pieces of a text

Splitting at separators and joining again, for a text of characters or of bytes. A text without
separators is one piece, so the pieces of a text are never none.
-/
namespace TreeBundle.Text
set_option autoImplicit false

variable {α : Type}

def pieces (isSeparator : α → Bool) : List α → List (List α)
  | [] => [[]]
  | c :: rest =>
    if isSeparator c then [] :: pieces isSeparator rest
    else match pieces isSeparator rest with
      | [] => [[c]]
      | piece :: others => (c :: piece) :: others

def joinWith (separator : α) : List (List α) → List α
  | [] => []
  | [piece] => piece
  | piece :: next :: others => piece ++ separator :: joinWith separator (next :: others)

theorem pieces_ne_nil (isSeparator : α → Bool) (text : List α) :
    pieces isSeparator text ≠ [] := by
  cases text with
  | nil => simp [pieces]
  | cons c rest =>
    rw [pieces]
    split
    · simp
    · split <;> simp

theorem pieces_of_separator {isSeparator : α → Bool} {c : α} (rest : List α)
    (h : isSeparator c = true) :
    pieces isSeparator (c :: rest) = [] :: pieces isSeparator rest := by
  simp [pieces, h]

/-- No piece holds a separator. -/
theorem separator_free_of_mem_pieces (isSeparator : α → Bool) (text piece : List α)
    (member : piece ∈ pieces isSeparator text) : ∀ c ∈ piece, isSeparator c = false := by
  induction text generalizing piece with
  | nil => simp [pieces] at member; simp [member]
  | cons c rest ih =>
    rw [pieces] at member
    split at member
    · rcases List.mem_cons.1 member with rfl | h
      · simp
      · exact ih _ h
    · next separator =>
      split at member
      · next none => exact absurd none (pieces_ne_nil _ _)
      · next first others split =>
        rcases List.mem_cons.1 member with rfl | h
        · intro d hd
          rcases List.mem_cons.1 hd with rfl | hd
          · simpa using separator
          · exact ih first (by simp [split]) d hd
        · exact ih piece (by simp [split, h])

/-- Joining undoes splitting when there is one separator. -/
theorem joinWith_pieces [BEq α] [LawfulBEq α] (separator : α) (text : List α) :
    joinWith separator (pieces (· == separator) text) = text := by
  induction text with
  | nil => rfl
  | cons c rest ih =>
    rw [pieces]
    split
    · next h =>
      have hc : c = separator := by simpa using h
      cases split : pieces (· == separator) rest with
      | nil => exact absurd split (pieces_ne_nil _ _)
      | cons piece others => simp only [joinWith]; rw [← split, ih, hc]; rfl
    · split
      · next none => exact absurd none (pieces_ne_nil _ _)
      · next piece others split =>
        rw [split] at ih
        cases others with
        | nil => simpa [joinWith] using ih
        | cons next others => simpa [joinWith] using ih

/-- A separator cuts a text into what stands before and after it. -/
theorem pieces_append_separator {isSeparator : α → Bool} {c : α} (left right : List α)
    (h : isSeparator c = true) :
    pieces isSeparator (left ++ c :: right) =
      pieces isSeparator left ++ pieces isSeparator right := by
  induction left with
  | nil => simp [pieces, h]
  | cons d left ih =>
    rw [List.cons_append, pieces, pieces, ih]
    split
    · rfl
    · cases split : pieces isSeparator left with
      | nil => exact absurd split (pieces_ne_nil _ _)
      | cons piece others => rfl

theorem pieces_of_free {isSeparator : α → Bool} {text : List α}
    (free : ∀ c ∈ text, isSeparator c = false) : pieces isSeparator text = [text] := by
  induction text with
  | nil => rfl
  | cons c text ih =>
    rw [pieces, free c List.mem_cons_self, ih fun d member => free d (List.mem_cons_of_mem _ member)]
    rfl

/-- Splitting undoes joining where no piece holds a separator. -/
theorem pieces_joinWith {isSeparator : α → Bool} {c : α} {items : List (List α)}
    (h : isSeparator c = true) (nonempty : items ≠ [])
    (free : ∀ item ∈ items, ∀ d ∈ item, isSeparator d = false) :
    pieces isSeparator (joinWith c items) = items := by
  induction items with
  | nil => exact absurd rfl nonempty
  | cons item items ih =>
    cases items with
    | nil => exact pieces_of_free (free item List.mem_cons_self)
    | cons next others =>
      rw [joinWith, pieces_append_separator _ _ h, pieces_of_free (free item List.mem_cons_self),
        ih (by simp) fun item member => free item (List.mem_cons_of_mem _ member)]
      rfl

theorem joinWith_cons (separator : α) (first : List α) (others : List (List α)) :
    joinWith separator (first :: others) =
      first ++ others.flatMap fun item => separator :: item := by
  induction others generalizing first with
  | nil => simp [joinWith]
  | cons next others ih => rw [joinWith, ih, List.flatMap_cons, List.cons_append]

theorem joinWith_concat (separator : α) {items : List (List α)} (last : List α)
    (nonempty : items ≠ []) :
    joinWith separator (items ++ [last]) = joinWith separator items ++ separator :: last := by
  induction items with
  | nil => exact absurd rfl nonempty
  | cons item items ih =>
    cases items with
    | nil => rfl
    | cons next others =>
      have tail := ih (by simp)
      simp only [List.cons_append, joinWith, List.append_assoc] at tail ⊢
      rw [tail]

end TreeBundle.Text
