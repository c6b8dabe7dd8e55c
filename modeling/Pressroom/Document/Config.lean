import Pressroom.Data.Printer
import Pressroom.Data.Shape
import Pressroom.Files.Disk
import Pressroom.Inline.PublicFolder

/-!
The configuration that all documents of an engine share, and its JSON form. Fields that are missing
from the JSON text have their default values.
-/

namespace Pressroom

open Inline (PublicFolder)

/-- What all documents of an engine share. -/
structure Config where
  /-- Where relative template names start. -/
  templates : Path
  publicFolders : List PublicFolder
  /-- The URL that public folders are served under. -/
  publicBase : String
  /-- How many seconds fetching a resource may take. -/
  fetchTimeout : Nat
  deriving DecidableEq

def Config.standard : Config where
  templates := .ofString "templates"
  publicFolders := []
  publicBase := "http://localhost/server"
  fetchTimeout := 30

/-! ### JSON form -/

def Inline.PublicFolder.toValue (served : PublicFolder) : Value :=
  .obj [("local", .str served.folder), ("remote", .str served.remote)]

/-- The fields of a public folder, which are all there. -/
def Inline.PublicFolder.fields : List (Reader.Field PublicFolder) :=
  [.of "local" true Reader.text fun folder served => { served with folder },
   .of "remote" true Reader.text fun remote served => { served with remote }]

namespace Config

def toValue (config : Config) : Value :=
  .obj [("templates_dir", .str config.templates.toString),
    ("public_dirs", .arr (config.publicFolders.map PublicFolder.toValue)),
    ("public_base_url", .str config.publicBase),
    ("http_timeout_secs", .num (.int config.fetchTimeout))]

def toJson (config : Config) : String :=
  config.toValue.indented

def fields : List (Reader.Field Config) :=
  [.of "templates_dir" false Reader.text fun path config =>
    { config with templates := .ofString path },
   .of "public_dirs" false (Reader.list (Reader.record PublicFolder.fields ⟨"", ""⟩))
    fun publicFolders config => { config with publicFolders },
   .of "public_base_url" false Reader.text fun publicBase config => { config with publicBase },
   .of "http_timeout_secs" false Reader.count fun fetchTimeout config =>
    { config with fetchTimeout }]

def reader : Reader Config :=
  Reader.record fields standard

def ofJson (text : String) : Except DataFault Config :=
  Reader.document reader Reader.depthLimit text

end Config

/-! ### Configuration files -/

inductive ConfigFault where
  | unreadable (path : Path) (fault : FileFault)
  | invalid (fault : DataFault)
  deriving Repr, DecidableEq

def ConfigFault.message : ConfigFault → String
  | unreadable path fault => s!"cannot read config {path.toString}: {fault.message}"
  | invalid fault => s!"invalid config: {fault.message}"

def Config.load {m : Type → Type} [Monad m] (files : FileReader m) (path : Path) :
    m (Except ConfigFault Config) := do
  match ← files.readText path with
  | .error fault => return .error (.unreadable path fault)
  | .ok text => return (Config.ofJson text).mapError .invalid

end Pressroom
