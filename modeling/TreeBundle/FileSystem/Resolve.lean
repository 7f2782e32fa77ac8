import TreeBundle.FileSystem.Error
import TreeBundle.FileSystem.Node

/-!
# Resolving paths

A path is followed name by name. A link is replaced by its target, at most forty times; the last
name's own link is followed unless the link itself is asked for.
-/
namespace TreeBundle.FileSystem
set_option autoImplicit false

inductive Step where
  | name (name : Bytes)
  | up
  | stay
  /-- A slash after the last name. -/
  | slash
  deriving DecidableEq, Repr

def stepOf? (piece : Bytes) : Option Step :=
  if piece = [] then none
  else if piece = NativePath.here then some .stay
  else if piece = NativePath.up then some .up
  else some (.name piece)

def stepsOf (path : NativePath) : List Step :=
  path.pieces.filterMap stepOf? ++
    if path.bytes.getLast? = some NativePath.slash then [.slash] else []

/-- What the last name of a path is looked up for. -/
inductive Purpose where
  | itself
  | target
  | creation
  deriving DecidableEq, Repr

inductive Resolved where
  | found (place : Place) (node : Node)
  /-- Nothing has this name, but its directory exists. -/
  | vacant (directory : Place) (name : Bytes)

def linkLimit : Nat := 40

/-- Where following steps comes to a stop: at their end, or at a link in a directory. -/
inductive Stop where
  | ended (result : Except IoError Resolved)
  | link (directory : Place) (target : NativePath) (rest : List Step)

/-- Follows steps from a place up to the first link that has to be followed. -/
def advance (files : FileSystem) (purpose : Purpose) : Place → List Step → Stop
  | place, [] =>
    match files.at? place with
    | some node => .ended (.ok (.found place node))
    | none => .ended (.error .notFound)
  | place, step :: rest =>
    match files.at? place with
    | none => .ended (.error .notFound)
    | some (.directory entries) =>
      match step with
      | .stay => advance files purpose place rest
      | .slash => advance files purpose place rest
      | .up => advance files purpose place.dropLast rest
      | .name name =>
        if purpose = .creation ∧ rest = [.slash] then .ended (.error .isADirectory)
        else
          match entries.lookup name with
          | none => .ended (if rest = [] then .ok (.vacant place name) else .error .notFound)
          | some (.link target) =>
            if purpose = .itself ∧ rest = [] then
              .ended (.ok (.found (place ++ [name]) (.link target)))
            else .link place target rest
          | some _ => advance files purpose (place ++ [name]) rest
    | some (.lockedDirectory _) =>
      if step = .slash then advance files purpose place rest
      else .ended (.error .permissionDenied)
    | some _ => .ended (.error .notADirectory)

/-- Follows steps from a place; `links` more links may be followed. -/
def follow (files : FileSystem) (purpose : Purpose) :
    Nat → Place → List Step → Except IoError Resolved
  | links, place, steps =>
    match files.advance purpose place steps with
    | .ended result => result
    | .link directory target rest =>
      match links with
      | 0 => .error .tooManyLinks
      | links + 1 =>
        follow files purpose links (if target.isAbsolute then [] else directory)
          (stepsOf target ++ rest)

def resolve (files : FileSystem) (purpose : Purpose) (path : NativePath) :
    Except IoError Resolved :=
  if path.bytes.contains 0 then .error .zeroInPath
  else if path.bytes = [] then .error .notFound
  else
    files.follow purpose linkLimit (if path.isAbsolute then [] else files.working) (stepsOf path)

/-- The place and the node a path leads to. -/
def locate (files : FileSystem) (purpose : Purpose) (path : NativePath) :
    Except IoError (Place × Node) :=
  match files.resolve purpose path with
  | .ok (.found place node) => .ok (place, node)
  | .ok (.vacant _ _) => .error .notFound
  | .error problem => .error problem

/-- The node a path leads to, links followed. -/
def node (files : FileSystem) (path : NativePath) : Except IoError Node :=
  (files.locate .target path).map Prod.snd

def isFile (files : FileSystem) (path : NativePath) : Bool :=
  match files.node path with
  | .ok node => node.isFile
  | .error _ => false

/-- The absolute path of a place. -/
def pathOf (place : Place) : NativePath :=
  match place with
  | [] => ⟨[NativePath.slash]⟩
  | names => ⟨names.flatMap fun name => NativePath.slash :: name⟩

/-- The absolute path without links to what a path leads to. -/
def canonicalize (files : FileSystem) (path : NativePath) : Except IoError NativePath :=
  (files.locate .target path).map fun found => pathOf found.1

end TreeBundle.FileSystem
