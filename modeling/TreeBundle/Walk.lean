import TreeBundle.FileSystem.Listing

/-!
# Walking a tree

A walk lists a directory, hands the listing to a visitor, and goes on to those subdirectories that
the visitor names, in its order. Links are never entered, and a name that is not listed is passed
over. The first failure of the visitor ends the walk.

A name may hold backslashes, which count as separators once the name is joined to a path. Such a
name can lead back up, so a walk need not come to an end; `depth` bounds how deep it goes.
-/
namespace TreeBundle
set_option autoImplicit false

inductive WalkOutcome (σ ε : Type) where
  | done (state : σ)
  | failed (state : σ) (problem : ε)
  /-- The walk went deeper than allowed. -/
  | tooDeep
  deriving Repr

def WalkOutcome.andThen {σ ε : Type} (outcome : WalkOutcome σ ε) (next : σ → WalkOutcome σ ε) :
    WalkOutcome σ ε :=
  match outcome with
  | .done state => next state
  | .failed state problem => .failed state problem
  | .tooDeep => .tooDeep

/-- What a walk does at each directory. The state says which files there are to be listed. -/
structure Visitor (σ ε : Type) where
  files : σ → FileSystem
  note : σ → List Event → σ
  /-- The names of the subdirectories to go on with. -/
  visit : σ → Listing → σ × Except ε (List String)

def Listing.canEnter (listing : Listing) (name : String) : Bool :=
  listing.subdirs.contains name && !listing.linked.contains name

/-- Walks the directory that is known as `rel` below `root`. -/
def walkFrom {σ ε : Type} (visitor : Visitor σ ε) (root : NativePath) :
    Nat → String → σ → WalkOutcome σ ε
  | 0, _, _ => .tooDeep
  | depth + 1, rel, state =>
    let found := (visitor.files state).list (root.join (.ofRelative rel)) rel
    match visitor.visit (visitor.note state found.2) found.1 with
    | (state, .error problem) => .failed state problem
    | (state, .ok names) =>
      (names.filter found.1.canEnter).foldl
        (fun outcome name => outcome.andThen (walkFrom visitor root depth (RelPath.join rel name)))
        (.done state)

/-- Walks all of a tree. -/
def walk {σ ε : Type} (visitor : Visitor σ ε) (root : NativePath) (depth : Nat) (state : σ) :
    WalkOutcome σ ε :=
  walkFrom visitor root depth RelPath.root state

/-- The outcome at the first depth that is enough, of depths that are tried one after another; none
if the walk never ends. -/
def WalkOutcome.atEnough? {σ ε : Type} (attempt : Nat → WalkOutcome σ ε) (depth : Nat) :
    Option (WalkOutcome σ ε) :=
  match attempt depth with
  -- By `apply`, since the term of a recursive call as such holds its place in the text.
  | .tooDeep => by
    apply atEnough?
    · exact attempt
    · exact 2 * depth + 1
  | outcome => some outcome
partial_fixpoint

/-- A depth to begin with. Without backslashes in names no walk goes deeper, since each step goes to
a directory further down; a name that is read as several may lead through links and back up, so
that a walk goes deeper and still ends. Paths that a visitor treats apart, `marks`, may be what
ends it. -/
def FileSystem.walkDepth (files : FileSystem) (marks : List String) : Nat :=
  (files.root.size + 1) * ((String.join marks).length + linkLimit + 2)

end TreeBundle
