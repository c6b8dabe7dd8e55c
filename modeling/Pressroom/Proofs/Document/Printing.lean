import Pressroom.Document.Engine
import Pressroom.Proofs.Document.Body
import Pressroom.Proofs.Inline.Passes

/-!
Documents on their way through an engine whose printer is watched. Nothing else that an engine works
with is written down. Main statement: the printer is asked once or not at all, for the page of the
document that is answered.
-/

namespace Pressroom

variable {W ν : Type}

/-! ### Watched engines -/

lemma FileReader.notes_readText (files : FileReader (StateM W)) (path : Path) (w : W) :
    Notes (ν := ν) (files.unnoticed.readText path) (files.readText path) w [] := by
  refine (notes_unnoticed (files.read path) w).quiet_bind ?_
  generalize ((files.read path).run w).1 = found
  cases found with
  | error fault => exact notes_pure _ _
  | ok bytes =>
    dsimp only
    cases Text.decode? bytes <;> exact notes_pure _ _

lemma Template.notes_load (files : FileReader (StateM W)) (base : Path) (name : String) (w : W) :
    Notes (ν := ν) (load files.unnoticed base name) (load files base name) w [] := by
  unfold load
  split
  · exact notes_pure _ w
  · refine (notes_unnoticed (files.isFolder _) w).quiet_bind ?_
    generalize ((files.isFolder _).run w).1 = found
    cases found with
    | error fault => exact notes_pure _ _
    | ok isFolder =>
      refine (files.notes_readText _ _).quiet_bind ?_
      generalize ((files.readText _).run _).1 = text
      cases text <;> exact notes_pure _ _

namespace Inline.Inliner

/-- An inliner of which nothing is written down. -/
def unnoticed (inliner : Inliner (StateM W)) : Inliner (Watch W ν) :=
  inliner.watched fun _ => []

variable (inliner : Inliner (StateM W)) (page : List Char) (w : W)

lemma notes_inlineStyles_unnoticed :
    Notes (ν := ν) (inliner.unnoticed.inlineStyles page) (inliner.inlineStyles page) w [] := by
  have hnotes := inliner.notes_inlineStyles (fun _ => ([] : List ν)) page w
  rwa [List.flatMap_eq_nil_iff.2 fun _ _ => List.flatMap_eq_nil_iff.2 fun _ _ => rfl] at hnotes

lemma notes_inlineImages_unnoticed :
    Notes (ν := ν) (inliner.unnoticed.inlineImages page) (inliner.inlineImages page) w [] := by
  have hnotes := inliner.notes_inlineImages (fun _ => ([] : List ν)) page w
  rwa [List.flatMap_eq_nil_iff.2 fun _ _ => List.flatMap_eq_nil_iff.2 fun _ _ => rfl] at hnotes

end Inline.Inliner

namespace Engine

open Inline (Inliner)

def unnoticed (engine : Engine (StateM W)) : Engine (Watch W ν) :=
  { engine with
    files := engine.files.unnoticed
    fetch := fun url => noted (fun _ => []) (engine.fetch url) }

lemma notes_furniture (press : Press) (images : Inliner (StateM W)) (node : Option Value)
    (standard : String) (w : W) :
    Notes (ν := ν) (furniture press images.unnoticed node standard)
      (furniture press images node standard) w [] := by
  unfold furniture
  cases furnitureMarkup? press.sections node standard with
  | none => exact notes_pure _ w
  | some found => exact (images.notes_inlineImages_unnoticed _ w).quiet_bind (notes_pure _ _)

lemma notes_loadResources (inliner : Inliner (StateM W)) (finish : Finish) (page : List Char)
    (w : W) :
    Notes (ν := ν) (loadResources inliner.unnoticed finish page)
      (loadResources inliner finish page) w [] := by
  unfold loadResources
  cases finish.loadCss with
  | true =>
    refine (inliner.notes_inlineStyles_unnoticed page w).quiet_bind ?_
    cases finish.loadImages with
    | true => exact (inliner.notes_inlineImages_unnoticed _ _).quiet_bind (notes_pure _ _)
    | false => exact notes_pure _ _
  | false =>
    cases finish.loadImages with
    | true => exact (inliner.notes_inlineImages_unnoticed _ w).quiet_bind (notes_pure _ _)
    | false => exact notes_pure _ w

variable (engine : Engine (StateM W))

lemma notes_wrap (template : Template) (finish : Finish) (margin : Margins) (body : List Char)
    (w : W) :
    Notes (ν := ν) (engine.unnoticed.wrap template finish margin body)
      (engine.wrap template finish margin body) w [] :=
  (notes_loadResources (engine.inliner template.folder finish.imagesAsUrls) finish _ w).quiet_bind
    (notes_pure _ _)

lemma notes_compose (skeleton : Skeleton) (template : Template) (w : W) :
    Notes (ν := ν) (engine.unnoticed.compose skeleton template) (engine.compose skeleton template) w
      [] := by
  unfold compose
  refine (notes_furniture _ (engine.inliner _ _) _ _ w).quiet_bind ?_
  refine (notes_furniture _ (engine.inliner _ _) _ _ _).quiet_bind ?_
  cases skeleton.finish.wrap with
  | true => exact (engine.notes_wrap _ _ _ _ _).quiet_bind (notes_pure _ _)
  | false => exact notes_pure _ _

end Engine

/-! ### Printing -/

/-- A page that a printer was asked for. -/
structure Job where
  page : List Char
  options : PrintOptions
  answer : Except PrintFault ByteArray

/-- A printer of which is written down what it is asked for. -/
def Printer.watched (printer : Printer (StateM W)) : Printer (Watch W Job) := fun page options =>
  noted (fun answer => [⟨page, options, answer⟩]) (printer page options)

/-- The page is that of a document, and so is what stands around it. -/
structure Job.Of (job : Job) (skeleton : Skeleton) (document : Document) : Prop where
  page : job.page = document.page
  header : job.options.header = document.header
  footer : job.options.footer = document.footer
  margin : job.options.margin = document.margin
  paper : job.options.paper = skeleton.finish.paper.bind Paper.ofName?

namespace Engine

/-- There is a printer, and the skeleton asks for a printed document and does not forbid it. -/
def Prints (printer : Option (Printer (StateM W))) (skeleton : Skeleton) : Prop :=
  printer.isSome ∧ (∃ plan, skeleton.save = some plan ∧ plan.pdf = true) ∧
    skeleton.noPrinter = false

lemma wantsPdf_iff {skeleton : Skeleton} :
    wantsPdf skeleton = true ↔
      (∃ plan, skeleton.save = some plan ∧ plan.pdf = true) ∧ skeleton.noPrinter = false := by
  rw [wantsPdf, Bool.and_eq_true, Bool.not_eq_true']
  cases skeleton.save <;> simp

/-- What the printer is asked for, and what comes of it. -/
structure Printed (printer : Option (Printer (StateM W))) (skeleton : Skeleton)
    (document : Document) (jobs : List Job) (result : Except PrintFault (Option ByteArray)) :
    Prop where
  once : jobs.length ≤ 1
  asked_iff : jobs ≠ [] ↔ Prints printer skeleton
  unasked : jobs = [] → result = .ok none
  asked : ∀ job ∈ jobs, job.Of skeleton document ∧ result = job.answer.map some

section Monads

variable {m : Type → Type} [Monad m] (printer : Printer m) {skeleton : Skeleton}
  (document : Document)

lemma print_of_unwanted (h : wantsPdf skeleton = false) :
    print (some printer) skeleton document = pure (.ok none) := by
  simp [print, h]

lemma print_of_wanted (h : wantsPdf skeleton = true) :
    print (some printer) skeleton document = do
      let answer ← printer document.page
        { paper := skeleton.finish.paper.bind Paper.ofName?
          margin := document.margin
          header := document.header
          footer := document.footer }
      return answer.map some := by
  simp [print, h]

end Monads

lemma printed_nil {printer : Option (Printer (StateM W))} {skeleton : Skeleton}
    {document : Document} (h : ¬ Prints printer skeleton) :
    Printed printer skeleton document [] (.ok none) where
  once := Nat.zero_le 1
  asked_iff := ⟨fun hne => absurd rfl hne, fun hprints => absurd hprints h⟩
  unasked _ := rfl
  asked _ hjob := absurd hjob List.not_mem_nil

lemma exists_print (printer : Option (Printer (StateM W))) (skeleton : Skeleton)
    (document : Document) (w : W) :
    ∃ jobs, Notes (print (printer.map Printer.watched) skeleton document)
        (print printer skeleton document) w jobs ∧
      Printed printer skeleton document jobs ((print printer skeleton document).run w).1 := by
  cases printer with
  | none => exact ⟨[], notes_pure _ w, printed_nil fun h => Bool.false_ne_true h.1⟩
  | some printer =>
    cases hwants : wantsPdf skeleton with
    | false =>
      have hnot : ¬ Prints (some printer) skeleton := fun h =>
        Bool.false_ne_true (hwants.symm.trans (wantsPdf_iff.2 h.2))
      rw [Option.map_some, print_of_unwanted _ _ hwants, print_of_unwanted _ _ hwants]
      exact ⟨[], notes_pure _ w, printed_nil hnot⟩
    | true =>
      rw [Option.map_some, print_of_wanted _ _ hwants, print_of_wanted _ _ hwants]
      refine ⟨_, (notes_noted _ _ w).bind_quiet (notes_pure _ _), Nat.le_refl 1, ?_, nofun, ?_⟩
      · exact ⟨fun _ => ⟨rfl, wantsPdf_iff.1 hwants⟩, fun _ => nofun⟩
      · rintro job hjob
        cases List.mem_singleton.1 hjob
        exact ⟨⟨rfl, rfl, rfl, rfl, rfl⟩, rfl⟩

/-! ### Rendering -/

/-- What becomes of a skeleton, and what the printer is asked for on the way. -/
structure Rendered (engine : Engine (StateM W)) (skeleton : Skeleton)
    (printer : Option (Printer (StateM W))) (w : W) (jobs : List Job)
    (result : Except DocumentFault Document) : Prop where
  /-- The printer is asked once or not at all. -/
  once : jobs.length ≤ 1
  /-- Without a template it is not asked, and all fails. -/
  no_template : ∀ fault, engine.templateIn skeleton.template.name w = .error fault →
    jobs = [] ∧ result = .error (.template fault)
  asked_iff : ∀ template, engine.templateIn skeleton.template.name w = .ok template →
    (jobs ≠ [] ↔ Prints printer skeleton)
  /-- A page that cannot be printed makes all fail. -/
  failed : ∀ job ∈ jobs, ∀ fault, job.answer = .error fault → result = .error (.print fault)
  /-- Otherwise there is a document. -/
  returned : ∀ template, engine.templateIn skeleton.template.name w = .ok template →
    (∀ job ∈ jobs, ∀ fault, job.answer ≠ .error fault) → ∃ document, result = .ok document
  /-- It is the one that was printed, and it holds what the printer answered. -/
  printed : ∀ document, result = .ok document → ∀ job ∈ jobs,
    job.Of skeleton document ∧ ∃ pdf, job.answer = .ok pdf ∧ document.pdf = some pdf
  unprinted : ∀ document, result = .ok document → jobs = [] → document.pdf = none

variable {engine : Engine (StateM W)} {skeleton : Skeleton} {printer : Option (Printer (StateM W))}
  {w : W}

def withPdf (document : Document) : Except PrintFault (Option ByteArray) →
    Except DocumentFault Document
  | .error fault => .error (.print fault)
  | .ok pdf => .ok { document with pdf }

lemma Printed.rendered {template : Template} {document : Document} {jobs : List Job}
    {result : Except PrintFault (Option ByteArray)}
    (h : Printed printer skeleton document jobs result)
    (hloaded : engine.templateIn skeleton.template.name w = .ok template) :
    Rendered engine skeleton printer w jobs (withPdf document result) where
  once := h.once
  no_template fault hfault := nomatch hloaded.symm.trans hfault
  asked_iff _ _ := h.asked_iff
  failed job hjob fault hfault := by
    rw [(h.asked job hjob).2, hfault]
    rfl
  returned _ _ hall := by
    cases result with
    | ok pdf => exact ⟨_, rfl⟩
    | error fault =>
      cases jobs with
      | nil => cases h.unasked rfl
      | cons job jobs =>
        have hjob : job ∈ job :: jobs := List.mem_cons_self
        cases hanswer : job.answer with
        | error fault => exact absurd hanswer (hall job hjob fault)
        | ok pdf => cases hanswer ▸ (h.asked job hjob).2
  printed other hother job hjob := by
    obtain ⟨hof, hresult⟩ := h.asked job hjob
    cases hanswer : job.answer with
    | error fault =>
      rw [hresult, hanswer] at hother
      cases hother
    | ok pdf =>
      rw [hresult, hanswer] at hother
      cases hother
      exact ⟨⟨hof.page, hof.header, hof.footer, hof.margin, hof.paper⟩, pdf, rfl, rfl⟩
  unprinted other hother hnil := by
    rw [h.unasked hnil] at hother
    cases hother
    rfl

lemma rendered_of_error {fault : TemplateFault}
    (hloaded : engine.templateIn skeleton.template.name w = .error fault) :
    Rendered engine skeleton printer w [] (.error (.template fault)) where
  once := Nat.zero_le 1
  no_template other hother := by
    cases hloaded.symm.trans hother
    exact ⟨rfl, rfl⟩
  asked_iff _ htemplate := nomatch hloaded.symm.trans htemplate
  failed _ hjob := absurd hjob List.not_mem_nil
  returned _ htemplate := nomatch hloaded.symm.trans htemplate
  printed _ hdocument := nomatch hdocument
  unprinted _ hdocument := nomatch hdocument

lemma exists_render (engine : Engine (StateM W)) (skeleton : Skeleton)
    (printer : Option (Printer (StateM W))) (w : W) :
    ∃ jobs, Notes (engine.unnoticed.render skeleton (printer.map Printer.watched))
        (engine.render skeleton printer) w jobs ∧
      Rendered engine skeleton printer w jobs
        ((engine.render skeleton printer).run w).1.value := by
  have hnotes := Template.notes_load (ν := Job) engine.files engine.config.templates
    skeleton.template.name w
  cases hloading : (Template.load engine.files engine.config.templates
    skeleton.template.name).run w with
  | mk found w₁ =>
  have hloaded : engine.templateIn skeleton.template.name w = found := congrArg Prod.fst hloading
  cases found with
  | error fault =>
    refine ⟨[], hnotes.quiet_bind ?_, ?_⟩
    · rw [hloading]
      exact notes_pure _ _
    · rw [render, run_bind, hloading]
      exact rendered_of_error hloaded
  | ok template =>
    cases hcomposing : (engine.compose skeleton template).run w₁ with
    | mk composed w₂ =>
    obtain ⟨jobs, hprint, hprinted⟩ := exists_print printer skeleton composed.value w₂
    cases hprinting : (print printer skeleton composed.value).run w₂ with
    | mk printed w₃ =>
    rw [hprinting] at hprinted
    refine ⟨jobs, hnotes.quiet_bind ?_, ?_⟩
    · rw [hloading]
      refine (engine.notes_compose skeleton template w₁).quiet_bind ?_
      rw [hcomposing]
      refine hprint.bind_quiet ?_
      rw [hprinting]
      cases printed <;> exact notes_pure _ _
    · have hvalue : ((engine.render skeleton printer).run w).1.value =
          withPdf composed.value printed := by
        rw [render, run_bind, hloading]
        dsimp only
        rw [run_bind, hcomposing, run_bind, hprinting]
        cases printed <;> rfl
      rw [hvalue]
      exact hprinted.rendered hloaded

end Engine

end Pressroom
