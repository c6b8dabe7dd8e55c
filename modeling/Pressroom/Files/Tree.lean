import Pressroom.Data.Keyed
import Pressroom.Files.Fault
import Pressroom.Files.Path

/-!
Trees of files, and what paths lead to in them. A path is followed step by step, and each step has
to start in a folder, so that a path through a file or through nothing fails even where it goes up
again. What is around the tree is a folder in which nothing is found.
-/

namespace Pressroom

open Pressroom.Path (Segment)

/-- A place: inside the tree, told by the names of the folders down to it, or around the tree. -/
inductive Place where
  | inside (steps : List Segment)
  | around
  deriving Repr, DecidableEq

namespace Place

def top : Place := inside []

def above : Place → Place
  | inside [] => around
  | inside steps => inside steps.dropLast
  | around => around

end Place

/-- What is at a place. -/
inductive FileNode where
  | file (bytes : ByteArray)
  | folder

/-- Files and folders, by the names of the folders down to them. -/
structure FileTree where
  entries : List (List Segment × FileNode)

namespace FileTree

def empty : FileTree := ⟨[]⟩

/-- What is at a place inside the tree or around it. -/
def node? (tree : FileTree) : Place → Option FileNode
  | .around => some .folder
  | .inside [] => some .folder
  | .inside steps => tree.entries.lookup steps

def hasFolder (tree : FileTree) (place : Place) : Bool :=
  match tree.node? place with
  | some .folder => true
  | _ => false

def below? (tree : FileTree) (name : Segment) : Place → Option Place
  | .around => none
  | .inside steps =>
    if (tree.node? (.inside (steps ++ [name]))).isSome then some (.inside (steps ++ [name]))
    else none

/-- The tree with something at a place inside it. -/
def put (tree : FileTree) (steps : List Segment) (node : FileNode) : FileTree :=
  ⟨Keyed.write steps node tree.entries⟩

/-- What is at a place after something was put there, or elsewhere. -/
theorem node?_put (tree : FileTree) {steps : List Segment} (h : steps ≠ []) (node : FileNode)
    (place : Place) :
    (tree.put steps node).node? place =
      if place = .inside steps then some node else tree.node? place := by
  rcases place with (_ | ⟨s, others⟩) | _
  · have : Place.inside [] ≠ .inside steps := fun e => h (Place.inside.inj e).symm
    rw [if_neg this]
    rfl
  · have := Keyed.lookup_write steps (s :: others) node tree.entries
    simpa [node?, put] using this
  · rfl

/-! ### Following paths -/

/-- How many bytes a name may have. -/
def nameLimit : Nat := 255

/-- How many bytes a path may have. -/
def pathLimit : Nat := 4095

def byteSize (cs : List Char) : Nat :=
  (String.ofList cs).utf8ByteSize

/-- Where segments lead from a place. -/
def walk (tree : FileTree) (place : Place) : List Segment → Except FileFault Place
  | [] => .ok place
  | s :: rest =>
    if !tree.hasFolder place then .error .notFolder
    else if !Path.isStep s then tree.walk place rest
    else if s = Path.up then tree.walk place.above rest
    else if nameLimit < byteSize s then .error .nameTooLong
    else match tree.below? s place with
      | some place => tree.walk place rest
      | none => .error .notFound

/-- Where a path starts, if it can be followed at all. -/
def start (path : Path) : Except FileFault Place :=
  if path.text.contains '\x00' then .error .nulInName
  else if path.text.isEmpty then .error .notFound
  else if pathLimit < byteSize path.text then .error .nameTooLong
  else .ok (if path.isAbsolute then .around else .top)

def find (tree : FileTree) (path : Path) : Except FileFault Place := do
  tree.walk (← start path) path.segments

def read (tree : FileTree) (path : Path) : Except FileFault ByteArray := do
  match tree.node? (← tree.find path) with
  | some (.file bytes) => .ok bytes
  | some .folder => .error .isFolder
  | none => .error .notFound

/-- Whether a path leads to a folder; a fault if it leads nowhere. -/
def isFolder (tree : FileTree) (path : Path) : Except FileFault Bool := do
  return tree.hasFolder (← tree.find path)

/-! ### Changing the tree -/

/-- Where something is to be made: in a folder under a name; or at a place that is there already,
because the path does not end with a step down. -/
inductive Target where
  | named (folder : Place) (name : Segment) (slashed : Bool)
  | existing

/-- Where something is to be made at a path; `slashed` tells that slashes follow the name. -/
def target (tree : FileTree) (path : Path) : Except FileFault Target := do
  let place ← start path
  let slashes := path.segments.reverse.takeWhile (· == [])
  match path.segments.reverse.dropWhile (· == []) with
  | [] => return .existing
  | last :: inner =>
    let folder ← tree.walk place (inner.reverse ++ [[]])
    if last = Path.here || last = Path.up then return .existing
    else if nameLimit < byteSize last then throw .nameTooLong
    else return .named folder last (!slashes.isEmpty)

/-- The tree with a file at a path, which takes the place of a file that is there. -/
def write (tree : FileTree) (path : Path) (bytes : ByteArray) : Except FileFault FileTree := do
  match ← tree.target path with
  | .existing => throw .isFolder
  | .named _ _ true => throw .isFolder
  | .named .around _ false => throw .notFound
  | .named (.inside steps) name false =>
    if tree.hasFolder (.inside (steps ++ [name])) then throw .isFolder
    else return tree.put (steps ++ [name]) (.file bytes)

def makeFolder (tree : FileTree) (path : Path) : Except FileFault FileTree := do
  match ← tree.target path with
  | .existing => throw .alreadyExists
  | .named .around _ _ => throw .notFound
  | .named (.inside steps) name _ =>
    if (tree.node? (.inside (steps ++ [name]))).isSome then throw .alreadyExists
    else return tree.put (steps ++ [name]) .folder

/-! ### Contents -/

def isBare (tree : FileTree) (steps : List Segment) : Bool :=
  tree.entries.all fun entry => entry.1.dropLast != steps

/-- The files of a tree and its folders that have nothing in them. -/
def contents (tree : FileTree) : List (Path × Option ByteArray) :=
  tree.entries.filterMap fun (steps, node) =>
    match node with
    | .file bytes => some (Path.ofSegments steps, some bytes)
    | .folder => if tree.isBare steps then some (Path.ofSegments steps, none) else none

end FileTree

end Pressroom
