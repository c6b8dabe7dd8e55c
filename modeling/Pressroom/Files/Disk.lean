import Pressroom.Files.Tree
import Pressroom.Text.Utf8

/-!
Disks: where files are read from and written to. What is done with files is written for any disk. A
tree of files is one.
-/

namespace Pressroom

/-- What files are read from. -/
structure FileReader (m : Type → Type) where
  /-- The bytes of a file. -/
  read : Path → m (Except FileFault ByteArray)
  /-- Whether a folder is at a path; a fault if nothing is. -/
  isFolder : Path → m (Except FileFault Bool)

/-- What files are read from and written to. -/
structure Disk (m : Type → Type) extends FileReader m where
  /-- Makes a folder inside one that is there. -/
  makeFolder : Path → m (Except FileFault Unit)
  /-- Writes a file, which takes the place of a file that is there. -/
  write : Path → ByteArray → m (Except FileFault Unit)

variable {m : Type → Type} [Monad m]

def FileReader.readText (files : FileReader m) (path : Path) : m (Except FileFault String) := do
  match ← files.read path with
  | .error fault => return .error fault
  | .ok bytes =>
    match Text.decode? bytes with
    | some text => return .ok text
    | none => return .error .notText

namespace Disk

/-- Makes a folder inside one that is there; it may be there itself already. -/
def ensureFolder (disk : Disk m) (path : Path) : m (Except FileFault Unit) := do
  match ← disk.makeFolder path with
  | .ok () => return .ok ()
  | .error fault =>
    match ← disk.isFolder path with
    | .ok true => return .ok ()
    | _ => return .error fault

/-- Makes a folder and the folders above it that are missing, so many of them at most. What was made
stays when the rest fails. -/
def makeFoldersWithin (disk : Disk m) : (fuel : Nat) → Path → m (Except FileFault Unit)
  | 0, _ => return .error .notFound
  | fuel + 1, path => do
    if path.text.isEmpty then return .ok ()
    match ← disk.ensureFolder path, path.parent? with
    | .error .notFound, some parent =>
      match ← makeFoldersWithin disk fuel parent with
      | .ok () => disk.ensureFolder path
      | .error fault => return .error fault
    | done, _ => return done

def makeFolders (disk : Disk m) (path : Path) : m (Except FileFault Unit) :=
  disk.makeFoldersWithin (path.text.length + 1) path

end Disk

/-! ### Trees as disks -/

namespace FileTree

def reader (tree : FileTree) : FileReader m where
  read path := return tree.read path
  isFolder path := return tree.isFolder path

def change (step : FileTree → Except FileFault FileTree) :
    StateM FileTree (Except FileFault Unit) := fun tree =>
  match step tree with
  | .ok tree => (.ok (), tree)
  | .error fault => (.error fault, tree)

def disk : Disk (StateM FileTree) where
  read path := fun tree => (tree.read path, tree)
  isFolder path := fun tree => (tree.isFolder path, tree)
  makeFolder path := change (·.makeFolder path)
  write path bytes := change (·.write path bytes)

/-- Puts a file into the tree, or a folder if no bytes are given, and the folders above it. -/
def plant (path : Path) : (content : Option ByteArray) → StateM FileTree Unit
  | none => discard (disk.makeFolders path)
  | some bytes => do
    discard (disk.makeFolders (path.parent?.getD ⟨[]⟩))
    discard (disk.write path bytes)

/-- The tree of these files and folders. -/
def ofContents (contents : List (Path × Option ByteArray)) : FileTree :=
  ((contents.forM fun (path, content) => plant path content).run empty).2

end FileTree

end Pressroom
