import Pressroom.Document.Skeleton
import Pressroom.Paper

/-!
Printers turn a finished page into a PDF document. A printing session is started when it is first
needed, by the first of several launchers that can start one, and is used until it dies or is given
up.
-/

namespace Pressroom

structure PrintOptions where
  paper : Option Paper
  margin : Margins
  header : Option (List Char)
  footer : Option (List Char)
  deriving Repr, DecidableEq

/-- Why there is no printed page. -/
inductive PrintFault where
  | notStarted (launcher message : String)
  | noLaunchers
  | failed (message : String)
  deriving Repr, DecidableEq

def PrintFault.message : PrintFault → String
  | notStarted launcher message => s!"printer `{launcher}` failed to start: {message}"
  | noLaunchers => "no printer launchers configured"
  | failed message => s!"printing failed: {message}"

abbrev Printer (m : Type → Type) :=
  List Char → PrintOptions → m (Except PrintFault ByteArray)

end Pressroom
