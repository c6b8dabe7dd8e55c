import Pressroom.Html.Image
import Pressroom.Html.Link
import Pressroom.Inline.Media
import Pressroom.Inline.PublicFolder
import Pressroom.Text.Base64

/-!
Putting the resources of a page into the page itself: stylesheets as elements, images as URLs that
hold their data. Tags are looked at one after the other, and one whose resource cannot be had stays
as it is.
-/

namespace Pressroom.Inline

/-- Where resources are taken from, and what becomes of images. -/
structure Inliner (m : Type → Type) where
  files : FileReader m
  fetch : Fetcher m
  guess : MediaGuess
  /-- Where the template is: relative names start here for images, and one step up for
  stylesheets. -/
  root : Path
  /-- Whether images are to have public URLs instead of their data. -/
  asUrls : Bool
  publicFolders : List PublicFolder
  publicBase : String

namespace Inliner

variable {m : Type → Type} [Monad m] (inliner : Inliner m)

/-! ### Stylesheets -/

/-- A document as a stylesheet, if it says that it is one. -/
def styleOfFetched (fetched : Fetched) : Except ResourceFault (List Char) :=
  match fetched.mediaType with
  | some mediaType =>
    if Text.occursIn "text/css".toList mediaType.toList then
      .ok (Text.decodeLossy fetched.body).toList
    else .error (.notStyle (some mediaType))
  | none => .error (.notStyle none)

def styleOfFile (path : Path) (bytes : ByteArray) : Except ResourceFault (List Char) :=
  if bytes.isEmpty then .error (.empty path) else .ok (Text.decodeLossy bytes).toList

def stylesheet (reference : List Char) : m (Except ResourceFault (List Char)) := do
  if isRemote reference then
    match ← inliner.fetch (String.ofList reference) with
    | .ok fetched => return styleOfFetched fetched
    | .error fault => return .error (.fetch fault)
  else
    match ← readNear inliner.files (inliner.root.parent?.getD inliner.root) reference with
    | .ok (path, bytes) => return styleOfFile path bytes
    | .error fault => return .error fault

def replaceLink (tag : List Char) : m (Logged (List Char)) := do
  match Html.stylesheet? tag with
  | none => return .quiet tag
  | some reference =>
    match ← inliner.stylesheet reference with
    | .ok css => return .quiet (Html.styleElement css)
    | .error fault =>
      return ⟨tag, [.warning (s!"stylesheet {String.ofList reference} not inlined, keeping " ++
        s!"{String.ofList tag}: {fault.message}")]⟩

def inlineStyles (page : List Char) : m (Logged (List Char)) :=
  Html.link.replace inliner.replaceLink page

/-! ### Images -/

/-- A document as an image, of the media type that it says or else its name tells. -/
def imageOfFetched (source : List Char) (fetched : Fetched) : List Char :=
  let guessed := (inliner.guess source).map MediaType.text
  let mediaType := (fetched.mediaType.or guessed).getD "application/octet-stream"
  dataUrl mediaType (Text.base64 fetched.body.toList)

def imageOfFile (source : List Char) (path : Path) (bytes : ByteArray) :
    Except ResourceFault (List Char) :=
  match inliner.guess source with
  | none => .error (.unknownMedia source)
  | some mediaType =>
    if inliner.asUrls then publicUrl inliner.publicBase inliner.publicFolders path
    else .ok (dataUrl mediaType.essence (Text.base64 bytes.toList))

/-- The source that an image gets, if it gets another one. -/
def imageSource (source : List Char) : m (Except ResourceFault (Option (List Char))) := do
  if source.isEmpty || (Text.strip? "data:".toList source).isSome then return .ok none
  else if isRemote source then
    if inliner.asUrls then return .ok none
    else match ← inliner.fetch (String.ofList source) with
      | .ok fetched => return .ok (some (inliner.imageOfFetched source fetched))
      | .error fault => return .error (.fetch fault)
  else
    match ← readNear inliner.files inliner.root source with
    | .ok (path, bytes) => return (inliner.imageOfFile source path bytes).map some
    | .error fault => return .error fault

def replaceImage (image : Html.Image) : m (Logged (List Char)) := do
  match ← inliner.imageSource image.source with
  | .ok (some source) => return .quiet (image.withSource source).spell
  | .ok none => return .quiet image.spell
  | .error fault =>
    return ⟨image.spell, [.warning (s!"image {String.ofList image.source} not inlined, keeping " ++
      s!"{String.ofList image.spell}: {fault.message}")]⟩

def inlineImages (page : List Char) : m (Logged (List Char)) :=
  Html.image.replace inliner.replaceImage page

end Inliner

end Pressroom.Inline
