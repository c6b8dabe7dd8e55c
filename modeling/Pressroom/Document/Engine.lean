import Pressroom.Document.Config
import Pressroom.Document.Skeleton
import Pressroom.Document.Template
import Pressroom.Html.Body
import Pressroom.Inline.Inliner
import Pressroom.Print.Printer
import Pressroom.Render.Page

/-!
Documents from skeletons. The template is loaded, the content is rendered with its sections, and the
result is wrapped into the template and printed if that is asked for. Only a template that cannot be
loaded and a page that cannot be printed make the whole fail; everything else is reported and left
out.
-/

namespace Pressroom

structure Document where
  template : Template
  sections : Markup.Sections
  /-- The rendered content. -/
  body : List Char
  /-- The content in the body of the template, if that was asked for. -/
  wrapped : Option (List Char)
  header : Option (List Char)
  footer : Option (List Char)
  margin : Margins
  pdf : Option ByteArray

/-- The page: the content as it is wrapped, or else as it is. -/
def Document.page (document : Document) : List Char :=
  document.wrapped.getD document.body

/-- Why there is no document, or nothing is kept of it. -/
inductive DocumentFault where
  | template (fault : TemplateFault)
  | print (fault : PrintFault)
  | store (fault : FileFault)
  deriving Repr, DecidableEq

def DocumentFault.message : DocumentFault → String
  | template fault => fault.message
  | print fault => fault.message
  | store fault => s!"cannot save document files: {fault.message}"

/-- What documents are made with. -/
structure Engine (m : Type → Type) where
  config : Config
  files : FileReader m
  fetch : Inline.Fetcher m
  guess : Inline.MediaGuess
  evaluator : Render.Evaluator

/-! ### Margins -/

/-- The margin at the top and the bottom of a page where none is given. -/
def Margins.standard : String := "0.3cm"

/-- A margin, the standard one if it is missing or empty. -/
def Margins.orStandard (margin : Option String) : String :=
  match margin with
  | some margin => if margin.isEmpty then standard else margin
  | none => standard

/-- The margins with standard ones at the top and the bottom where there are none. -/
def Margins.resolve (margin : Margins) : Margins :=
  { margin with
    top := some (orStandard margin.top)
    bottom := some (orStandard margin.bottom) }

namespace Engine

open Html (placeBody injectIntoHead styleBlock)
open Inline (Inliner)
open Markup (Sections)

variable {m : Type → Type} [Monad m] (engine : Engine m)

def inliner (folder : Path) (asUrls : Bool) : Inliner m where
  files := engine.files
  fetch := engine.fetch
  guess := engine.guess
  root := folder
  asUrls := asUrls
  publicFolders := engine.config.publicFolders
  publicBase := engine.config.publicBase

/-! ### Headers and footers -/

def furnitureSection (node : Value) (standard : String) : String :=
  match (node.field? "section").bind Value.str? with
  | some name => if name.isEmpty then standard else name
  | none => standard

def furnitureMarkup? (sections : Sections) (node : Option Value) (standard : String) :
    Option (Value × List Char) := do
  let node ← node
  if !node.isObject then none
  else return (node, ← sections.get? (furnitureSection node standard))

/-- A header or a footer on the page, with its images in it. -/
def furniture (press : Press) (images : Inliner m) (node : Option Value) (standard : String) :
    m (Logged (Option (List Char))) := do
  match furnitureMarkup? press.sections node standard with
  | none => return .quiet none
  | some (node, markup) =>
    let rendered := press.render markup (.node node)
    let page ← images.inlineImages rendered.text
    return ⟨some page.value, rendered.records ++ page.records⟩

/-! ### Wrapping -/

/-- The page with its resources in it, as far as that is asked for. -/
def loadResources (inliner : Inliner m) (finish : Finish) (page : List Char) :
    m (Logged (List Char)) := do
  let styled ← if finish.loadCss then inliner.inlineStyles page else pure (.quiet page)
  let full ← if finish.loadImages then inliner.inlineImages styled.value
    else pure (.quiet styled.value)
  return ⟨full.value, styled.records ++ full.records⟩

def injectPaper (finish : Finish) (margin : Margins) (page : List Char) : Logged (List Char) :=
  match finish.paper.bind Paper.ofName? with
  | some paper =>
    injectIntoHead page (paper.pageRule (margin.top.getD Margins.standard)
      (margin.bottom.getD Margins.standard)).toList
  | none => .quiet page

def injectCss (finish : Finish) (page : List Char) : Logged (List Char) :=
  match finish.css with
  | some css => if css.isEmpty then .quiet page else injectIntoHead page (styleBlock css.toList)
  | none => .quiet page

/-- Content in the body of its template, finished. -/
def wrap (template : Template) (finish : Finish) (margin : Margins) (body : List Char) :
    m (Logged (List Char)) := do
  let placed := placeBody template.markup.toList body
  let full ← loadResources (engine.inliner template.folder finish.imagesAsUrls) finish placed.value
  let ruled := injectPaper finish margin full.value
  let styled := injectCss finish ruled.value
  return ⟨styled.value, placed.records ++ full.records ++ ruled.records ++ styled.records⟩

/-! ### Documents -/

def wantsPdf (skeleton : Skeleton) : Bool :=
  (skeleton.save.map (·.pdf)).getD false && !skeleton.noPrinter

/-- The printed document, if there is a printer and printing is asked for. -/
def print (printer : Option (Printer m)) (skeleton : Skeleton) (document : Document) :
    m (Except PrintFault (Option ByteArray)) := do
  match printer with
  | none => return .ok none
  | some printer =>
    if !wantsPdf skeleton then return .ok none
    let options : PrintOptions :=
      { paper := skeleton.finish.paper.bind Paper.ofName?
        margin := document.margin
        header := document.header
        footer := document.footer }
    return (← printer document.page options).map some

def compose (skeleton : Skeleton) (template : Template) : m (Logged Document) := do
  let sections := Sections.extract template.markup.toList
  let press : Press := ⟨sections.value, engine.evaluator⟩
  let images := engine.inliner template.folder skeleton.finish.imagesAsUrls
  let header ← furniture press images skeleton.template.header "header"
  let footer ← furniture press images skeleton.template.footer "footer"
  let body := press.process skeleton.content
  let margin := skeleton.template.margin.resolve
  let wrapped : Logged (Option (List Char)) ←
    if skeleton.finish.wrap then do
      let page ← engine.wrap template skeleton.finish margin body.text
      pure ⟨some page.value, page.records⟩
    else pure (.quiet none)
  return {
    value :=
      { template
        sections := sections.value
        body := body.text
        wrapped := wrapped.value
        header := header.value
        footer := footer.value
        margin
        pdf := none }
    records := sections.records ++ header.records ++ footer.records ++ body.records ++
      wrapped.records }

def render (skeleton : Skeleton) (printer : Option (Printer m)) :
    m (Logged (Except DocumentFault Document)) := do
  match ← Template.load engine.files engine.config.templates skeleton.template.name with
  | .error fault => return .quiet (.error (.template fault))
  | .ok template =>
    let composed ← engine.compose skeleton template
    match ← print printer skeleton composed.value with
    | .error fault => return ⟨.error (.print fault), composed.records⟩
    | .ok pdf => return ⟨.ok { composed.value with pdf }, composed.records⟩

end Engine

end Pressroom
