import Pressroom.Data.Printer
import Pressroom.Data.Shape
import Pressroom.Files.Path

/-!
Skeletons: what is asked for when a document is made, namely its template, its content, how it is
finished and what is kept of it. A skeleton has a JSON form, in which all fields may be missing and
the template may be no more than a name.
-/

namespace Pressroom

structure Margins where
  top : Option String
  bottom : Option String
  left : Option String
  right : Option String
  deriving Repr, DecidableEq

/-- The template of a document, and what stands around its pages. -/
structure TemplateChoice where
  name : String
  margin : Margins
  /-- The node of the page header. -/
  header : Option Value
  /-- The node of the page footer. -/
  footer : Option Value

/-- How the rendered content is finished. -/
structure Finish where
  /-- A stylesheet for the head of the page. -/
  css : Option String
  /-- The name of a paper size. -/
  paper : Option String
  /-- Whether stylesheets are put into the page. -/
  loadCss : Bool
  /-- Whether the content is put into the body of the template. -/
  wrap : Bool
  /-- Whether images are put into the page. -/
  loadImages : Bool
  /-- Whether images get public URLs instead. -/
  imagesAsUrls : Bool
  deriving Repr, DecidableEq

/-- What is kept of a document, and where. -/
structure SavePlan where
  folder : Option Path
  data : Bool
  skeleton : Bool
  page : Bool
  pdf : Bool
  deriving Repr, DecidableEq

/-- What is asked for when a document is made. -/
structure Skeleton where
  template : TemplateChoice
  /-- Data that goes with the document. -/
  data : Value
  /-- The content tree. -/
  content : Value
  finish : Finish
  /-- Whether the document is not to be printed. -/
  noPrinter : Bool
  save : Option SavePlan

/-! ### Defaults -/

def Margins.unset : Margins := ⟨none, none, none, none⟩

/-- A template and nothing around its pages. -/
def TemplateChoice.named (name : String) : TemplateChoice := ⟨name, .unset, none, none⟩

/-- The content alone. -/
def Finish.plain : Finish := ⟨none, none, false, false, false, false⟩

/-- Nothing, nowhere. -/
def SavePlan.nothing : SavePlan := ⟨none, false, false, false, false⟩

/-- A document without a template or content. -/
def Skeleton.blank : Skeleton := ⟨.named "", .null, .null, .plain, false, none⟩

/-! ### JSON form -/

/-- A field that is there if it has a value. -/
def optionalField {α : Type} (name : String) (toValue : α → Value) (value : Option α) :
    List (String × Value) :=
  (value.map fun a => (name, toValue a)).toList

def Margins.toValue (margin : Margins) : Value :=
  .obj (optionalField "top" .str margin.top ++ optionalField "bottom" .str margin.bottom ++
    optionalField "left" .str margin.left ++ optionalField "right" .str margin.right)

def TemplateChoice.toValue (template : TemplateChoice) : Value :=
  .obj ([("name", .str template.name), ("margin", template.margin.toValue)] ++
    optionalField "header" id template.header ++ optionalField "footer" id template.footer)

def Finish.toValue (finish : Finish) : Value :=
  .obj (optionalField "css" .str finish.css ++ optionalField "paper" .str finish.paper ++
    [("load_css", .bool finish.loadCss), ("wrap", .bool finish.wrap),
      ("load_images", .bool finish.loadImages), ("load_images_as_urls", .bool finish.imagesAsUrls)])

def SavePlan.toValue (plan : SavePlan) : Value :=
  .obj (optionalField "dir" (fun path => .str (Path.toString path)) plan.folder ++
    [("data", .bool plan.data), ("skeleton", .bool plan.skeleton),
      ("rendered_template", .bool plan.page), ("pdf", .bool plan.pdf)])

def Skeleton.toValue (skeleton : Skeleton) : Value :=
  .obj ([("template", skeleton.template.toValue), ("data", skeleton.data),
      ("content", skeleton.content), ("style", skeleton.finish.toValue),
      ("no_printer", .bool skeleton.noPrinter)] ++
    optionalField "save" SavePlan.toValue skeleton.save)

def Skeleton.toJson (skeleton : Skeleton) : String :=
  skeleton.toValue.indented

open Reader (text flag kept optional record buffered)

def Margins.fields : List (Reader.Field Margins) :=
  [.of "top" false (optional text) fun top margin => { margin with top },
   .of "bottom" false (optional text) fun bottom margin => { margin with bottom },
   .of "left" false (optional text) fun left margin => { margin with left },
   .of "right" false (optional text) fun right margin => { margin with right }]

def TemplateChoice.fields : List (Reader.Field TemplateChoice) :=
  [.of "name" false text fun name template => { template with name },
   .of "margin" false (record Margins.fields .unset) fun margin template =>
    { template with margin },
   .of "header" false (optional kept) fun header template => { template with header },
   .of "footer" false (optional kept) fun footer template => { template with footer }]

/-- A template: its name, or a record of its fields. -/
def TemplateChoice.reader : Reader TemplateChoice :=
  buffered fun room units =>
    match units with
    | .str _ :: _ => (text room units).map fun (name, rest) => (.named name, rest)
    | units => record fields (.named "") room units

def Finish.fields : List (Reader.Field Finish) :=
  [.of "css" false (optional text) fun css finish => { finish with css },
   .of "paper" false (optional text) fun paper finish => { finish with paper },
   .of "load_css" false flag fun loadCss finish => { finish with loadCss },
   .of "wrap" false flag fun wrap finish => { finish with wrap },
   .of "load_images" false flag fun loadImages finish => { finish with loadImages },
   .of "load_images_as_urls" false flag fun imagesAsUrls finish => { finish with imagesAsUrls }]

def SavePlan.fields : List (Reader.Field SavePlan) :=
  [.of "dir" false (optional text) fun folder plan =>
    { plan with folder := folder.map Path.ofString },
   .of "data" false flag fun data plan => { plan with data },
   .of "skeleton" false flag fun skeleton plan => { plan with skeleton },
   .of "rendered_template" false flag fun page plan => { plan with page },
   .of "pdf" false flag fun pdf plan => { plan with pdf }]

def Skeleton.fields : List (Reader.Field Skeleton) :=
  [.of "template" false TemplateChoice.reader fun template skeleton =>
    { skeleton with template },
   .of "data" false kept fun data skeleton => { skeleton with data },
   .of "content" false kept fun content skeleton => { skeleton with content },
   .of "style" false (record Finish.fields .plain) fun finish skeleton =>
    { skeleton with finish },
   .of "no_printer" false flag fun noPrinter skeleton => { skeleton with noPrinter },
   .of "save" false (optional (record SavePlan.fields .nothing)) fun save skeleton =>
    { skeleton with save }]

def Skeleton.reader : Reader Skeleton :=
  record fields blank

def Skeleton.ofJson (text : String) : Except DataFault Skeleton :=
  Reader.document reader Reader.depthLimit text

end Pressroom
