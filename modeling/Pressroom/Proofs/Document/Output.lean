import Pressroom.Document.Archive
import Pressroom.Proofs.Document.Printing
import Pressroom.Proofs.Document.Saved
import Pressroom.Proofs.Text.Utf8

/-!
What is kept of a document. Whether a page is printed and whether it is kept is told by different
fields of a skeleton, and what it is made of is looked up anew for either. Main statement: it is one
page that is printed, answered and kept, and what else is kept is what the skeleton holds and what
the printer answered.
-/

namespace Pressroom

variable {W : Type}

structure Delivery where
  folder : Path
  blobs : List Blob
  answer : Except FileFault (List Path)

def Store.watched (store : Store (StateM W)) : Store (Watch W Delivery) := fun folder blobs =>
  noted (fun answer => [⟨folder, blobs, answer⟩]) (store folder blobs)

/-- A value that some text holds, its floating-point numbers being read as they are written. -/
structure Value.Spelled (value : Value) : Prop where
  text : ∃ text, Value.ofJson Reader.depthLimit text = .ok value
  floats : value.FloatsReadBack

/-- A skeleton that some text holds, its floating-point numbers being read as they are written. -/
structure Skeleton.Spelled (skeleton : Skeleton) : Prop where
  text : ∃ text, Skeleton.ofJson text = .ok skeleton
  floats : skeleton.toValue.FloatsReadBack

/-- So the data of a skeleton can be read back wherever the skeleton can. -/
theorem Skeleton.Spelled.data {skeleton : Skeleton} (h : skeleton.Spelled) :
    skeleton.data.Spelled := by
  obtain ⟨text, htext⟩ := h.text
  have hfits := (Skeleton.storable_of_ofJson htext).data.mono (Nat.sub_le _ 1)
  have hfloats : skeleton.data.FloatsReadBack := fun x hx => h.floats x (by
    simp [Skeleton.toValue, Value.numerals, Value.fieldNumerals, hx])
  exact ⟨⟨_, (Reader.restores_kept hfits).document hfloats⟩, hfloats⟩

namespace Document

/-- There is one blob of this name and this kind if it is wanted, and none if not. -/
structure Offers (wanted : Prop) (name : String) (Kind : ByteArray → Prop) (blobs : List Blob) :
    Prop where
  one : wanted → ∃ data, blobs = [⟨name, data⟩] ∧ Kind data
  none : ¬ wanted → blobs = []

/-- The data are the bytes of a text that holds a value. -/
def Holds {α : Type} (ofText : String → Except DataFault α) (a : α) (data : ByteArray) : Prop :=
  ∃ text, Text.decode? data = some text ∧ ofText text = .ok a

lemma holds_toUTF8 {α : Type} {ofText : String → Except DataFault α} {a : α} {text : String} :
    Holds ofText a text.toUTF8 ↔ ofText text = .ok a := by
  constructor
  · rintro ⟨found, hfound, h⟩
    cases (Text.decode?_toUTF8 text).symm.trans hfound
    exact h
  · exact fun h => ⟨text, Text.decode?_toUTF8 text, h⟩

/-- What is kept of a document, in this order: each part if it is asked for and there is something
to keep. -/
def Kept (document : Document) (skeleton : Skeleton) (plan : SavePlan) (jobs : List Job)
    (blobs : List Blob) : Prop :=
  ∃ data request page pdf, blobs = data ++ request ++ page ++ pdf ∧
    Offers (plan.data = true ∧ skeleton.data ≠ .null) "data.json"
      (fun bytes => skeleton.data.Spelled →
        Holds (Value.ofJson Reader.depthLimit) skeleton.data bytes) data ∧
    Offers (plan.skeleton = true) "skeleton.json"
      (fun bytes => skeleton.Spelled → Holds Skeleton.ofJson skeleton bytes) request ∧
    Offers (plan.page = true) "rendered_template.html"
      (fun bytes => bytes = (String.ofList document.page).toUTF8 ∧
        ∀ job ∈ jobs, bytes = (String.ofList job.page).toUTF8) page ∧
    Offers (plan.pdf = true ∧ document.pdf.isSome = true) "doc.pdf"
      (fun bytes => document.pdf = some bytes ∧ ∃ job ∈ jobs, job.answer = .ok bytes) pdf

/-- There is something to keep of a document. -/
def Keeps (document : Document) (skeleton : Skeleton) (plan : SavePlan) : Prop :=
  (plan.data = true ∧ skeleton.data ≠ .null) ∨ plan.skeleton = true ∨ plan.page = true ∨
    (plan.pdf = true ∧ document.pdf.isSome = true)

section Keeping

variable {document : Document} {skeleton : Skeleton} {plan : SavePlan} {jobs : List Job}
  {blobs : List Blob} {wanted : Prop} {name : String} {Kind : ByteArray → Prop}

lemma offers_of_wanted {data : ByteArray} (h : wanted) (hkind : Kind data) :
    Offers wanted name Kind [⟨name, data⟩] :=
  ⟨fun _ => ⟨data, rfl, hkind⟩, fun hnot => absurd h hnot⟩

lemma offers_nil (h : ¬ wanted) : Offers wanted name Kind [] :=
  ⟨fun hwanted => absurd hwanted h, fun _ => rfl⟩

lemma Offers.eq_nil_iff (h : Offers wanted name Kind blobs) : blobs = [] ↔ ¬ wanted := by
  refine ⟨fun hnil hwanted => ?_, h.none⟩
  obtain ⟨data, hone, -⟩ := h.one hwanted
  exact List.cons_ne_nil _ _ (hone.symm.trans hnil)

lemma Kept.ne_nil_iff (h : document.Kept skeleton plan jobs blobs) :
    blobs ≠ [] ↔ document.Keeps skeleton plan := by
  obtain ⟨data, request, page, pdf, rfl, hdata, hrequest, hpage, hpdf⟩ := h
  rw [ne_eq, List.append_eq_nil_iff, List.append_eq_nil_iff, List.append_eq_nil_iff,
    hdata.eq_nil_iff, hrequest.eq_nil_iff, hpage.eq_nil_iff, hpdf.eq_nil_iff, Keeps]
  tauto

lemma holds_data {data : Value} (h : data.Spelled) :
    Holds (Value.ofJson Reader.depthLimit) data data.indented.toUTF8 := by
  obtain ⟨text, htext⟩ := h.text
  have hfits := Reader.yields_kept.document htext
  exact holds_toUTF8.2 ((Reader.restores_kept hfits).document h.floats)

lemma holds_skeleton (h : skeleton.Spelled) :
    Holds Skeleton.ofJson skeleton skeleton.toJson.toUTF8 := by
  obtain ⟨text, htext⟩ := h.text
  exact holds_toUTF8.2 ((Skeleton.storable_of_ofJson htext).ofJson_toJson h.floats)

lemma kept_blobs (plan : SavePlan) (hpage : ∀ job ∈ jobs, job.page = document.page)
    (hpdf : ∀ pdf, document.pdf = some pdf → ∃ job ∈ jobs, job.answer = .ok pdf) :
    document.Kept skeleton plan jobs (document.blobs skeleton plan) := by
  refine ⟨_, _, _, _, rfl, ?data, ?request, ?page, ?pdf⟩
  case data =>
    split
    · next hplan => exact offers_nil fun h => Bool.false_ne_true (hplan.symm.trans h.1)
    · next hnull => exact offers_nil fun h => h.2 hnull
    · next hplan hdata => exact offers_of_wanted ⟨hplan, hdata⟩ holds_data
  case request =>
    split
    · next hplan => exact offers_of_wanted hplan holds_skeleton
    · next hplan => exact offers_nil hplan
  case page =>
    split
    · next hplan =>
      exact offers_of_wanted hplan ⟨rfl, fun job hjob => by rw [hpage job hjob]⟩
    · next hplan => exact offers_nil hplan
  case pdf =>
    split
    · next pdf hplan hsome =>
      exact offers_of_wanted ⟨hplan, by rw [hsome]; rfl⟩ ⟨hsome, hpdf pdf hsome⟩
    · next hnot =>
      refine offers_nil fun h => ?_
      obtain ⟨pdf, hsome⟩ := Option.isSome_iff_exists.1 h.2
      exact hnot pdf h.1 hsome

/-- What becomes of a document, and what the store is given on the way. -/
structure Saved (document : Document) (skeleton : Skeleton) (jobs : List Job)
    (deliveries : List Delivery) (answer : Except DocumentFault (List Path)) : Prop where
  /-- The store is used once or not at all. -/
  once : deliveries.length ≤ 1
  used_iff : deliveries ≠ [] ↔ ∃ plan, skeleton.save = some plan ∧ plan.folder.isSome = true ∧
    document.Keeps skeleton plan
  used : ∀ delivery ∈ deliveries, ∃ plan, skeleton.save = some plan ∧
    plan.folder = some delivery.folder ∧ delivery.blobs ≠ [] ∧
    document.Kept skeleton plan jobs delivery.blobs ∧ answer = delivery.answer.mapError .store
  unused : deliveries = [] → answer = .ok []

lemma saved_nil (h : ∀ plan, skeleton.save = some plan → plan.folder.isSome = true →
    ¬ document.Keeps skeleton plan) : document.Saved skeleton jobs [] (.ok []) where
  once := Nat.zero_le 1
  used_iff := by
    refine ⟨fun hne => absurd rfl hne, ?_⟩
    rintro ⟨plan, hplan, hfolder, hkeeps⟩
    exact absurd hkeeps (h plan hplan hfolder)
  used _ hdelivery := absurd hdelivery List.not_mem_nil
  unused _ := rfl

lemma exists_saveTo
    (hkept : ∀ plan, document.Kept skeleton plan jobs (document.blobs skeleton plan)) {V : Type}
    (store : Store (StateM V)) (v : V) :
    ∃ deliveries, Notes (document.saveTo skeleton store.watched) (document.saveTo skeleton store) v
        deliveries ∧
      document.Saved skeleton jobs deliveries ((document.saveTo skeleton store).run v).1 := by
  unfold Document.saveTo
  cases hsave : skeleton.save with
  | none => exact ⟨[], notes_pure _ v, saved_nil fun _ hplan => nomatch hsave.symm.trans hplan⟩
  | some plan =>
    dsimp only
    cases hfolder : plan.folder with
    | none =>
      refine ⟨[], notes_pure _ v, saved_nil fun other hother hsome => ?_⟩
      cases hsave.symm.trans hother
      rw [hfolder] at hsome
      exact absurd hsome Bool.false_ne_true
    | some folder =>
      cases hblobs : document.blobs skeleton plan with
      | nil =>
        refine ⟨[], notes_pure _ v, saved_nil fun other hother _ hkeeps => ?_⟩
        cases hsave.symm.trans hother
        exact (hkept plan).ne_nil_iff.2 hkeeps hblobs
      | cons blob blobs =>
        have hgiven := hkept plan
        rw [hblobs] at hgiven
        have hne : blob :: blobs ≠ [] := List.cons_ne_nil blob blobs
        refine ⟨_, (notes_noted _ _ v).bind_quiet (notes_pure _ _), Nat.le_refl 1, ?_, ?_, nofun⟩
        · exact ⟨fun _ => ⟨plan, hsave, by rw [hfolder]; rfl, hgiven.ne_nil_iff.1 hne⟩,
            fun _ => nofun⟩
        · rintro delivery hdelivery
          cases List.mem_singleton.1 hdelivery
          exact ⟨plan, hsave, hfolder, hne, hgiven, rfl⟩

end Keeping

end Document

lemma Engine.Rendered.kept {engine : Engine (StateM W)} {skeleton : Skeleton}
    {printer : Option (Printer (StateM W))} {w : W} {jobs : List Job} {document : Document}
    (h : engine.Rendered skeleton printer w jobs (.ok document)) (plan : SavePlan) :
    document.Kept skeleton plan jobs (document.blobs skeleton plan) := by
  refine Document.kept_blobs plan (fun job hjob => (h.printed document rfl job hjob).1.page) ?_
  intro pdf hpdf
  cases jobs with
  | nil => cases (h.unprinted document rfl rfl).symm.trans hpdf
  | cons job jobs =>
    have hjob : job ∈ job :: jobs := List.mem_cons_self
    obtain ⟨-, printed, hanswer, hprinted⟩ := h.printed document rfl job hjob
    cases hprinted.symm.trans hpdf
    exact ⟨job, hjob, hanswer⟩

/-- **One document everywhere.** The printer is asked once, if there is one and the skeleton wants
it, or not at all, and it is asked for the page of the document that is answered, or all fails. And
of this document the store is given, once or not at all, the parts that are asked for: the data and
the skeleton, which are read back if some text can hold them and their floating-point numbers are
read as they are written, the page that the printer was asked for, and what it answered. -/
theorem render_saveTo (engine : Engine (StateM W)) (skeleton : Skeleton)
    (printer : Option (Printer (StateM W))) (w : W) :
    ∃ jobs, Notes (engine.unnoticed.render skeleton (printer.map Printer.watched))
        (engine.render skeleton printer) w jobs ∧
      engine.Rendered skeleton printer w jobs ((engine.render skeleton printer).run w).1.value ∧
      ∀ document, ((engine.render skeleton printer).run w).1.value = .ok document →
        ∀ {V : Type} (store : Store (StateM V)) (v : V),
          ∃ deliveries, Notes (document.saveTo skeleton store.watched)
              (document.saveTo skeleton store) v deliveries ∧
            document.Saved skeleton jobs deliveries
              ((document.saveTo skeleton store).run v).1 := by
  obtain ⟨jobs, hnotes, hrendered⟩ := Engine.exists_render engine skeleton printer w
  refine ⟨jobs, hnotes, hrendered, fun document hdocument V store v => ?_⟩
  rw [hdocument] at hrendered
  exact Document.exists_saveTo hrendered.kept store v

/-- A header that is there, but null. -/
def Skeleton.nullHeader : Skeleton :=
  { blank with template := { TemplateChoice.named "letter" with header := some .null } }

/-- Arrays in arrays, so many of them. -/
def Value.nested : ℕ → Value
  | 0 => .null
  | depth + 1 => .arr [nested depth]

lemma Value.not_fits_nested (room : ℕ) : ¬ Value.Fits room (nested (room + 1)) := by
  induction room with
  | zero => nofun
  | succ room ih =>
    intro h
    cases h with
    | arr h => exact ih (h _ (List.mem_singleton.2 rfl))

/-- Digits that are read as a number whose own digits are read as the next one. -/
lemma Value.exists_misread :
    ∃ number, Value.ofJson Reader.depthLimit "9.012237342658062" = .ok number ∧ number ≠ .null ∧
      Value.ofJson Reader.depthLimit number.indented ≠ .ok number := by
  let again (value : Value) := (Value.ofJson Reader.depthLimit value.indented).toOption
  obtain ⟨number, hnumber, htexts⟩ := exists_ok
    (f := fun value => (value.indented, (again value).map Value.indented))
    (b := ("9.012237342658063", some "9.012237342658064"))
    (show (Value.ofJson Reader.depthLimit "9.012237342658062").toOption.map _ = _
      by decide +kernel)
  obtain ⟨hfirst, hagain⟩ := Prod.mk.inj htexts
  refine ⟨number, hnumber, ?_, fun hsame => ?_⟩
  · rintro rfl
    exact absurd hfirst (by decide)
  · dsimp only [again] at hagain
    rw [hsame] at hagain
    exact absurd (hfirst.symm.trans (Option.some.inj hagain)) (by decide)

lemma Document.mem_blobs_data (document : Document) {skeleton : Skeleton}
    (h : skeleton.data ≠ .null) :
    ⟨"data.json", skeleton.data.indented.toUTF8⟩ ∈
      document.blobs skeleton { SavePlan.nothing with data := true } := by
  unfold blobs
  split
  · next hplan => cases hplan
  · next hnull => exact absurd hnull h
  · exact List.mem_cons_self

def Document.bare : Document where
  template := ⟨"", .ofString "", .ofString ""⟩
  sections := .empty
  body := []
  wrapped := none
  header := none
  footer := none
  margin := .unset
  pdf := none

/-- What is kept of a document is not always read back: a header that is null is read as none, data
in too many arrays is not read, and a number may be read as the one next to it. -/
theorem render_saveTo_astray :
    (∃ bytes, ⟨"skeleton.json", bytes⟩ ∈ Document.bare.blobs .nullHeader
        { SavePlan.nothing with skeleton := true } ∧
      ¬ Document.Holds Skeleton.ofJson .nullHeader bytes) ∧
    (∃ bytes, ⟨"data.json", bytes⟩ ∈ Document.bare.blobs
        { Skeleton.blank with data := .nested 128 } { SavePlan.nothing with data := true } ∧
      ¬ Document.Holds (Value.ofJson Reader.depthLimit) (.nested 128) bytes) ∧
    ∃ number, Value.ofJson Reader.depthLimit "9.012237342658062" = .ok number ∧
      ∃ bytes, ⟨"data.json", bytes⟩ ∈ Document.bare.blobs { Skeleton.blank with data := number }
          { SavePlan.nothing with data := true } ∧
        ¬ Document.Holds (Value.ofJson Reader.depthLimit) number bytes := by
  refine ⟨⟨_, List.mem_cons_self, fun h => ?null⟩, ⟨_, List.mem_cons_self, fun h => ?deep⟩, ?float⟩
  case null =>
    have hstorable := Skeleton.storable_of_ofJson (Document.holds_toUTF8.1 h)
    exact (hstorable.template.header _ rfl).2 rfl
  case deep =>
    exact Value.not_fits_nested 127 (Reader.yields_kept.document (Document.holds_toUTF8.1 h))
  case float =>
    obtain ⟨number, hnumber, hnull, hmisread⟩ := Value.exists_misread
    exact ⟨number, hnumber, _, Document.bare.mem_blobs_data hnull,
      fun h => hmisread (Document.holds_toUTF8.1 h)⟩

end Pressroom
