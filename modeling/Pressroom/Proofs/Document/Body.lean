import Pressroom.Document.Engine
import Pressroom.Proofs.Outcome
import Pressroom.Proofs.Render.Session

/-!
The body of a document. Header, footer and content are rendered by one renderer, in this order, and
what the first two do to it might show in the third. It does not: calls leave the counter as they
found it. Main statement: a call comes to the same output behind all others, so the body of a
document depends on its template and its content alone.
-/

namespace Pressroom

open Markup Render Machine

def furnitureCall? (sections : Sections) (node : Option Value) (standard : String) : Option Call :=
  (Engine.furnitureMarkup? sections node standard).map fun (node, markup) =>
    .render markup (.node node)

/-- The calls that a document makes on its renderer. -/
def Skeleton.calls (skeleton : Skeleton) (sections : Sections) : List Call :=
  (furnitureCall? sections skeleton.template.header "header").toList ++
    (furnitureCall? sections skeleton.template.footer "footer").toList ++
    [.process skeleton.content]

namespace Engine

variable {W : Type} {engine : Engine (StateM W)} {skeleton : Skeleton}
  {printer : Option (Printer (StateM W))} {w : W} {document : Document}

/-- The template of a skeleton, as it is found in a world. -/
def templateIn (engine : Engine (StateM W)) (name : String) (w : W) :
    Except TemplateFault Template :=
  ((Template.load engine.files engine.config.templates name).run w).1

lemma compose_value (engine : Engine (StateM W)) (skeleton : Skeleton) (template : Template)
    (w : W) :
    let composed := ((engine.compose skeleton template).run w).1.value
    composed.sections = (Sections.extract template.markup.toList).value ∧
      composed.body =
        (Press.process ⟨composed.sections, engine.evaluator⟩ skeleton.content).text := by
  unfold compose
  cases skeleton.finish.wrap <;> exact ⟨rfl, rfl⟩

lemma run_bind {α β : Type} (x : StateM W α) (f : α → StateM W β) (w : W) :
    (x >>= f).run w = (f (x.run w).1).run (x.run w).2 := rfl

lemma render_ok (h : ((engine.render skeleton printer).run w).1.value = .ok document) :
    ∃ template, engine.templateIn skeleton.template.name w = .ok template ∧
      document.sections = (Sections.extract template.markup.toList).value ∧
      document.body =
        (Press.process ⟨document.sections, engine.evaluator⟩ skeleton.content).text := by
  rw [render, run_bind] at h
  cases hloaded : engine.templateIn skeleton.template.name w with
  | error fault =>
    rw [templateIn] at hloaded
    rw [hloaded] at h
    cases h
  | ok template =>
    rw [templateIn] at hloaded
    rw [hloaded] at h
    dsimp only at h
    rw [run_bind, run_bind] at h
    obtain ⟨hsections, hbody⟩ := engine.compose_value skeleton template
      ((Template.load engine.files engine.config.templates skeleton.template.name).run w).2
    refine ⟨template, rfl, ?_⟩
    split at h
    · cases h
    · cases h
      exact ⟨hsections, hbody⟩

lemma body_of_render_ok {σ : Type} {oracle : Oracle σ} (hlike : oracle.Like engine.evaluator)
    (h : ((engine.render skeleton printer).run w).1.value = .ok document) (s : σ) :
    ∃ outputs s', session document.sections oracle (skeleton.calls document.sections) (s, 0) =
        some (outputs, s', 0) ∧
      (outputs.map (·.text)).getLast? = some document.body := by
  obtain ⟨template, -, -, hbody⟩ := render_ok h
  obtain ⟨s', hsession⟩ :=
    session_of_like document.sections hlike (skeleton.calls document.sections) s 0
  refine ⟨_, s', hsession, ?_⟩
  rw [Skeleton.calls, List.map_append, List.map_append, hbody]
  simp [answer, Press.process]

lemma body_unique {skeleton' : Skeleton} {printer' : Option (Printer (StateM W))}
    {document' : Document} (hname : skeleton.template.name = skeleton'.template.name)
    (hcontent : skeleton.content = skeleton'.content)
    (h : ((engine.render skeleton printer).run w).1.value = .ok document)
    (h' : ((engine.render skeleton' printer').run w).1.value = .ok document') :
    document.body = document'.body := by
  obtain ⟨template, hload, hsections, hbody⟩ := render_ok h
  obtain ⟨template', hload', hsections', hbody'⟩ := render_ok h'
  rw [hname, hload'] at hload
  cases hload
  rw [hbody, hbody', hsections, hsections', hcontent]

end Engine

/-- **A renderer has no memory.** Behind whatever calls, a call comes to the output that it has on a
new renderer; the counter, which keeps to the bound all the way, is as it was. So the body of a
document, which comes from the renderer behind its header and its footer, is the same for skeletons
with one template name and one content. -/
theorem session_forgets {σ : Type} (sections : Sections) {oracle : Oracle σ} {evaluator : Evaluator}
    (hlike : oracle.Like evaluator) (before : List Call) (call : Call) (s : σ) :
    (∃ outputs s₁ output s₂ visited,
      session sections oracle before (s, 0) = some (outputs, s₁, 0) ∧
      run sections oracle call (s₁, 0) = some (output, s₂, 0) ∧
      Steps (step sections oracle (some inclusionLimit)) (start call s₁ 0) visited
        (finish output s₂ 0) ∧
      (∀ m ∈ visited, m.counter ≤ inclusionLimit) ∧
      (∀ s₀, ∃ s₀', run sections oracle call (s₀, 0) = some (output, s₀', 0)) ∧
      output = answer sections inclusionLimit call evaluator) ∧
    ∀ {W : Type} (engine : Engine (StateM W)) (skeleton skeleton' : Skeleton)
      (printer printer' : Option (Printer (StateM W))) (w : W) (document document' : Document),
      engine.evaluator = evaluator →
      skeleton.template.name = skeleton'.template.name → skeleton.content = skeleton'.content →
      ((engine.render skeleton printer).run w).1.value = .ok document →
      ((engine.render skeleton' printer').run w).1.value = .ok document' →
      document.body = document'.body ∧
        ∃ outputs s', session document.sections oracle (skeleton.calls document.sections) (s, 0) =
            some (outputs, s', 0) ∧
          (outputs.map (·.text)).getLast? = some document.body := by
  refine ⟨exists_steps_behind sections hlike before call s, ?_⟩
  intro W engine skeleton skeleton' printer printer' w document document' hevaluator hname hcontent
    h h'
  subst hevaluator
  exact ⟨Engine.body_unique hname hcontent h h', Engine.body_of_render_ok hlike h s⟩

/-- The expression language of the library, with a list of what it has been asked. -/
def Render.Oracle.recording : Oracle (List (List Char)) where
  evaluate := fun source scope asked => (Expr.evaluate source scope, asked ++ [source])
  test := fun source scope asked => (Expr.test source scope, asked ++ [source])

lemma recording_like : Oracle.recording.Like .standard := fun _ _ _ => ⟨rfl, rfl⟩

/-- An engine with one template, whatever it is asked for. Its header includes itself. -/
def letterEngine : Engine (StateM Unit) where
  config := .standard
  files :=
    { read := fun _ => pure (.ok ("$$[header]$$%%section[[$]]%%!![header]!!" ++
        "$$[p]$$<p>\x7b\x7bt\x7d\x7d</p>!![p]!!").toUTF8)
      isFolder := fun _ => pure (.ok false) }
  fetch := fun url => pure (.error (.failed url))
  guess := .common
  evaluator := .standard

def letter : Skeleton :=
  { Skeleton.blank with
    template := .named "letter"
    content := .arr [.obj [("type", .str "p"), ("t", .str "Hello")]] }

/-- The same with the header. -/
def headedLetter : Skeleton :=
  { letter with
    template :=
      { TemplateChoice.named "letter" with header := some (.obj [("type", .str "header")]) } }

set_option maxRecDepth 20000 in
/-- In the second letter the renderer has been down to the bound in front of the body. -/
theorem session_forgets_letter :
    Oracle.recording.Like .standard ∧
    ∃ plain headed : Document,
      ((letterEngine.render letter none).run ()).1.value = .ok plain ∧
      ((letterEngine.render headedLetter none).run ()).1.value = .ok headed ∧
      plain.body = "<p>Hello</p>".toList ∧ headed.header = some [] ∧ plain.body = headed.body := by
  obtain ⟨plain, hplain, hbody⟩ := exists_ok (f := Document.body) (b := "<p>Hello</p>".toList)
    (show ((letterEngine.render letter none).run ()).1.value.toOption.map _ = _ by decide +kernel)
  obtain ⟨headed, hheaded, hheader⟩ := exists_ok (f := Document.header) (b := some [])
    (show ((letterEngine.render headedLetter none).run ()).1.value.toOption.map _ = _ by
      decide +kernel)
  refine ⟨recording_like, plain, headed, hplain, hheaded, hbody, hheader, ?_⟩
  exact ((session_forgets plain.sections recording_like [] (.process letter.content) []).2
    letterEngine letter headedLetter none none () plain headed rfl rfl rfl hplain hheaded).1

end Pressroom
