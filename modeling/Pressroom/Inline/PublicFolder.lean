import Pressroom.Inline.Resource

/-!
Folders whose files are served under a URL.
-/

namespace Pressroom.Inline

structure PublicFolder where
  folder : String
  remote : String
  deriving Repr, DecidableEq, Inhabited

/-- The part of a clean path behind the folder, if the path leads through it. -/
def PublicFolder.rest? (served : PublicFolder) (path : Path) : Option (List Char) :=
  let name := served.folder.toList
  if Text.occursIn ('/' :: name ++ ['/']) path.text then
    (Text.cut? (name ++ ['/']) path.text).map (·.2)
  else none

def trimSlashes (cs : List Char) : List Char :=
  (cs.reverse.dropWhile (· == '/')).reverse

/-- The URL of a file, by the first of the folders that its path leads through. -/
def publicUrl (base : String) (folders : List PublicFolder) (path : Path) :
    Except ResourceFault (List Char) :=
  let found := folders.findSome? fun served =>
    (served.rest? path.clean).map fun rest => (served, rest)
  match found with
  | none => .error (.notPublic path.clean)
  | some (served, rest) =>
    .ok (trimSlashes base.toList ++ '/' :: served.remote.toList ++ '/' :: rest)

end Pressroom.Inline
