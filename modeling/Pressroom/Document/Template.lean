import Pressroom.Files.Disk
import Pressroom.Text.Blank

/-!
Templates by name. A name is a path, relative to where templates are kept; a folder stands for the
page of a fixed name inside it.
-/

namespace Pressroom

/-- A template and where it was found. -/
structure Template where
  markup : String
  /-- The folder that relative references start from. -/
  folder : Path
  /-- The file with the markup. -/
  file : Path
  deriving Repr, DecidableEq

inductive TemplateFault where
  | emptyName
  | notResolvable (name : String) (path : Path) (fault : FileFault)
  deriving Repr, DecidableEq

def TemplateFault.message : TemplateFault → String
  | emptyName => "template name is empty"
  | notResolvable name path fault =>
    s!"template `{name}` is not resolvable at {path.toString}: {fault.message}"

namespace Template

/-- The page that a folder stands for. -/
def indexName : Path := .ofString "index.html"

/-- The folder and the file of a template at a path that may lead to a folder. -/
def location (path : Path) (isFolder : Bool) : Path × Path :=
  if isFolder then (path, path / indexName) else (path.parent?.getD ⟨[]⟩, path)

def load {m : Type → Type} [Monad m] (files : FileReader m) (base : Path) (name : String) :
    m (Except TemplateFault Template) := do
  if (Text.trim name.toList).isEmpty then return .error .emptyName
  let path := base / Path.ofString name
  match ← files.isFolder path with
  | .error fault => return .error (.notResolvable name path fault)
  | .ok isFolder =>
    let (folder, file) := location path isFolder
    match ← files.readText file with
    | .error fault => return .error (.notResolvable name file fault)
    | .ok markup => return .ok { markup, folder, file }

end Template

end Pressroom
