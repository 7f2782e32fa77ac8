import TreeBundle.Pack.Tree
import TreeBundle.Proofs.FileSystem.Content
import TreeBundle.Proofs.FileSystem.Listing
import TreeBundle.Proofs.FileSystem.Locate

/-!
# What a run chooses

Which files a walk writes, which directories it goes on to and which files the second pass adds are
functions of the tree. What is packed of a file is its bytes, decoded lossily.
-/
namespace TreeBundle
set_option autoImplicit false

namespace RuleSet

variable {rules : RuleSet} {left right : FileSystem} {name : String} {dir : NativePath}

/-- How a file is decided depends on its name, and on whether it starts with `#!`. -/
theorem decide_of_hasShebang
    (same : rules.hasShebang left name dir = rules.hasShebang right name dir) :
    rules.decide left name dir = rules.decide right name dir := by
  have applies : rules.applies left name dir = rules.applies right name dir := by
    funext kind
    cases kind with
    | shebang => exact same
    | _ => rfl
  rw [decide, decide, applies]

/-- So of what it holds only its own bytes matter. -/
theorem decide_of_regularBytes (same : left.regularBytes (dir.join (.ofString name)) =
      right.regularBytes (dir.join (.ofString name))) :
    rules.decide left name dir = rules.decide right name dir := by
  refine decide_of_hasShebang ?_
  rw [hasShebang, hasShebang, FileSystem.firstLine, same, FileSystem.firstLine]

end RuleSet

namespace PackJob

variable {σ δ : Type}

/-- The bytes of a regular file, and none of anything else. -/
def bytesAt (files : FileSystem) (path : NativePath) : Bytes :=
  match files.regularBytes path with
  | .ok bytes => bytes
  | .error _ => []

/-- The text that a block shows of a file. -/
def shownText (files : FileSystem) (path : NativePath) : String :=
  match files.regularBytes path with
  | .ok bytes => Utf8.lossyString bytes
  | .error _ => ""

section Choice

variable (job : PackJob σ δ) (files : FileSystem)

/-- The pieces of the block of a file. -/
def blockOf (rel : String) : List Bytes :=
  Block.pieces (NativePath.ofRelative rel).text (shownText files (job.filePath rel))

/-- The listing of a directory as the walk sees it. -/
def listing (rel : String) : Listing :=
  (files.list (job.filePath rel) rel).1

/-- Whether the block of a listed file is written. -/
def writes (listing : Listing) (name : String) : Bool :=
  let path := job.filePath (RelPath.join listing.rel name)
  !job.isSkipped path && job.rules.admits files name listing.path && files.isReadable path

/-- The names of the files of a directory that are written. -/
def chosenIn (listing : Listing) : List String :=
  if (job.rules.prune listing.rel listing.subdirs).processCurrent then
    listing.files.filter (job.writes files listing)
  else []

/-- The subdirectories that the walk goes on to. -/
def entered (listing : Listing) : List String :=
  (job.rules.prune listing.rel listing.subdirs).kept.filter listing.canEnter

/-- The files that the walk writes from a directory on, going at most `depth` deep. -/
def walked : Nat → String → List String
  | 0, _ => []
  | depth + 1, rel =>
    (job.chosenIn files (job.listing files rel)).map (RelPath.join rel) ++
      (job.entered (job.listing files rel)).flatMap fun name =>
        walked depth (RelPath.join rel name)

/-- Whether the walk from a directory goes at most `depth` deep. -/
def endsWithin : Nat → String → Bool
  | 0, _ => false
  | depth + 1, rel =>
    (job.entered (job.listing files rel)).all fun name => endsWithin depth (RelPath.join rel name)

/-- Whether the second pass adds a file to those written by the first. -/
def adds (written : List String) (rel : String) : Bool :=
  !written.contains rel && !job.isSkipped (job.filePath rel) && files.isReadable (job.filePath rel)

/-- The files that the second pass adds to those written by the first. -/
def forced (written : List String) : List String :=
  job.rules.alwaysIncludeFiles.filter (job.adds files written)

end Choice

variable {files : FileSystem} {path : NativePath}

/-! ## The same choice for other outputs -/

section Into

variable {τ ε : Type} {job : PackJob σ δ} {output : Output τ} {diagnostics : Writer ε}

/-- The same job, with its output and its diagnostics going elsewhere. -/
def into (job : PackJob σ δ) (output : Output τ) (diagnostics : Writer ε) : PackJob τ ε where
  rules := job.rules
  root := job.root
  skip := job.skip
  start := job.start
  output := output
  diagnostics := diagnostics

theorem walked_into {depth : Nat} {rel : String} :
    (job.into output diagnostics).walked files depth rel = job.walked files depth rel := by
  induction depth generalizing rel with
  | zero => rfl
  | succ depth ih =>
    rw [walked, walked]
    simp only [ih]
    rfl

theorem endsWithin_into {depth : Nat} {rel : String} :
    (job.into output diagnostics).endsWithin files depth rel =
      job.endsWithin files depth rel := by
  induction depth generalizing rel with
  | zero => rfl
  | succ depth ih =>
    rw [endsWithin, endsWithin]
    simp only [ih]
    rfl

end Into

/-! ## Regular files -/

/-- Whether something can be read, and what it holds, is told by its bytes. -/
theorem isReadable_eq : files.isReadable path = (files.regularBytes path).toOption.isSome := by
  rw [FileSystem.isReadable, FileSystem.regularBytes]
  cases files.node path with
  | error problem => rfl
  | ok node => cases node <;> rfl

theorem bytesAt_eq : bytesAt files path = (files.regularBytes path).toOption.getD [] := by
  rw [bytesAt]
  cases files.regularBytes path <;> rfl

theorem regularBytes_of_isReadable (readable : files.isReadable path = true) :
    files.regularBytes path = .ok (bytesAt files path) := by
  rw [isReadable_eq] at readable
  rw [bytesAt]
  cases regular : files.regularBytes path with
  | error problem =>
    rw [regular] at readable
    cases readable
  | ok bytes => rfl

theorem content_of_isReadable (readable : files.isReadable path = true) :
    ∃ content, files.content path = .ok content ∧ content.text = shownText files path := by
  have regular := regularBytes_of_isReadable readable
  refine ⟨FileSystem.contentOf (bytesAt files path), by rw [FileSystem.content, regular]; rfl, ?_⟩
  rw [shownText, regular, FileSystem.text_contentOf]

theorem content_of_not_isReadable (unreadable : files.isReadable path = false) :
    ∃ problem, files.content path = .error problem := by
  rw [isReadable_eq] at unreadable
  rw [FileSystem.content]
  cases regular : files.regularBytes path with
  | error problem => exact ⟨problem, rfl⟩
  | ok bytes =>
    rw [regular] at unreadable
    cases unreadable

variable {job : PackJob σ δ}

theorem chosenIn_subset_files (listing : Listing) :
    job.chosenIn files listing ⊆ listing.files := by
  rw [chosenIn]
  split
  · exact List.filter_sublist.subset
  · exact List.nil_subset _

/-- The walk writes readable files only, and none that is skipped. -/
theorem written_of_mem_walked {depth : Nat} {dir rel : String}
    (member : rel ∈ job.walked files depth dir) :
    job.isSkipped (job.filePath rel) = false ∧ files.isReadable (job.filePath rel) = true := by
  induction depth generalizing dir with
  | zero => cases member
  | succ depth ih =>
    rw [walked, List.mem_append] at member
    rcases member with member | member
    · obtain ⟨name, chosen, rfl⟩ := List.mem_map.1 member
      rw [chosenIn] at chosen
      split at chosen
      · obtain ⟨-, written⟩ := List.mem_filter.1 chosen
        simp only [writes, Bool.and_eq_true, Bool.not_eq_true', listing, FileSystem.rel_list]
          at written
        exact ⟨written.1.1, written.2⟩
      · cases chosen
    · obtain ⟨name, -, member⟩ := List.mem_flatMap.1 member
      exact ih member

theorem isReadable_of_mem_walked {depth : Nat} {dir rel : String}
    (member : rel ∈ job.walked files depth dir) : files.isReadable (job.filePath rel) = true :=
  (written_of_mem_walked member).2

end PackJob
end TreeBundle
