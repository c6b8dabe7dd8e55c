import Pressroom.Files.Disk
import Pressroom.Text.Fold
import Pressroom.Text.Quoted

/-!
Resources that a page refers to: files near its template, or documents fetched from elsewhere.
-/

namespace Pressroom.Inline

structure Fetched where
  mediaType : Option String
  body : ByteArray

inductive FetchFault where
  | failed (message : String)
  | refused (status : Nat) (url : String)
  deriving Repr, DecidableEq

abbrev Fetcher (m : Type → Type) := String → m (Except FetchFault Fetched)

inductive ResourceFault where
  | fetch (fault : FetchFault)
  | notStyle (mediaType : Option String)
  | file (path : Path) (fault : FileFault)
  | empty (path : Path)
  | unknownMedia (name : List Char)
  | notPublic (path : Path)
  deriving Repr, DecidableEq

def FetchFault.message : FetchFault → String
  | failed message => s!"HTTP error: {message}"
  | refused status url => s!"HTTP {status} from {url}"

def ResourceFault.message : ResourceFault → String
  | fetch fault => fault.message
  | notStyle none => "unrecognised content type None"
  | notStyle (some mediaType) => s!"unrecognised content type Some({Text.quoted mediaType})"
  | file path fault => s!"{path.toString}: {fault.message}"
  | empty path => s!"{path.toString} is empty"
  | unknownMedia name => s!"no known MIME type for {String.ofList name}"
  | notPublic path => s!"{path.toString} is not inside a public directory"

def isRemote (reference : List Char) : Bool :=
  ["http://", "https://"].any fun start =>
    (Text.stripFolded? Text.foldAscii start.toList reference).isSome

/-- The file that a reference leads to: the one at the path itself or, if there is none, the one at
that path under a base, slashes in front not counting. -/
def readNear {m : Type → Type} [Monad m] (files : FileReader m) (base : Path)
    (reference : List Char) : m (Except ResourceFault (Path × ByteArray)) := do
  let path : Path := ⟨reference⟩
  match ← files.read path with
  | .ok bytes => return .ok (path, bytes)
  | .error .notFound =>
    let path := base / ⟨reference.dropWhile (· == '/')⟩
    match ← files.read path with
    | .ok bytes => return .ok (path, bytes)
    | .error fault => return .error (.file path fault)
  | .error fault => return .error (.file path fault)

end Pressroom.Inline
