import Pressroom.Files.Path
import Pressroom.Text.Fold

/-!
Media types of resources. How a name tells one is left to whoever puts resources into pages; a table
of common extensions is at hand.
-/

namespace Pressroom.Inline

structure MediaType where
  /-- The type and the subtype. -/
  essence : String
  /-- The parameters, with the signs between them. -/
  parameters : String
  deriving Repr, DecidableEq

def MediaType.text (mediaType : MediaType) : String :=
  mediaType.essence ++ mediaType.parameters

theorem MediaType.essence_prefix (mediaType : MediaType) :
    mediaType.essence.toList <+: mediaType.text.toList := by
  rw [MediaType.text, String.toList_append]
  exact List.prefix_append _ _

/-- What tells the media type of a resource by its name. -/
abbrev MediaGuess := List Char → Option MediaType

/-- Extensions in small letters and their media types, which have no parameters. -/
def commonTypes : List (String × String) :=
  [("png", "image/png"), ("apng", "image/apng"), ("jpg", "image/jpeg"), ("jpeg", "image/jpeg"),
   ("jpe", "image/jpeg"), ("jfif", "image/jpeg"), ("gif", "image/gif"), ("webp", "image/webp"),
   ("avif", "image/avif"), ("heic", "image/heic"), ("bmp", "image/bmp"), ("tif", "image/tiff"),
   ("tiff", "image/tiff"), ("svg", "image/svg+xml"), ("svgz", "image/svg+xml"),
   ("ico", "image/x-icon"), ("txt", "text/plain"), ("css", "text/css"), ("htm", "text/html"),
   ("html", "text/html"), ("csv", "text/csv"), ("xml", "text/xml"), ("json", "application/json"),
   ("pdf", "application/pdf")]

/-- By the extension of the name, in any case. -/
def MediaGuess.common : MediaGuess := fun name => do
  let extension ← Path.extension? ⟨name⟩
  let essence ← commonTypes.lookup (String.ofList (extension.map Text.foldSimple))
  return ⟨essence, ""⟩

def dataUrl (mediaType : String) (base64 : List Char) : List Char :=
  "data:".toList ++ mediaType.toList ++ ";base64,".toList ++ base64

end Pressroom.Inline
