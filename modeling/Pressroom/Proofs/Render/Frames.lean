import Pressroom.Proofs.Expr.Enclosed
import Pressroom.Proofs.Expr.Mentions
import Pressroom.Proofs.Render.Ending

/-!
Loop frames that are not named. A frame takes a few names for itself: its element, its position, the
scope around it and the scope itself. A markup that mentions none of them and asks for no style of
the scope is the same in the frame as around it, whatever loops, conditions and inclusions are in
it: a loop in it puts its own frame on both scopes, and under that they still are told apart only by
the names of the first frame.
-/

namespace Pressroom

open Markup Pressroom.Expr

/-! ### What a markup asks of its scope -/

namespace Markup.Node

mutual

/-- What a directive asks of its scope, at any depth: the value or the truth of an expression, or,
where there is none, the style of the scope. -/
def requests : Node → List (Option (List Char))
  | .text _ => []
  | .expression source => [some source]
  | .style selector _ => [selector]
  | .inclusion source => [some source]
  | .loop _ _ array body => some array :: requestsAll body
  | .conditional branches none => branchRequests branches
  | .conditional branches (some body) => branchRequests branches ++ requestsAll body

/-- What a tree of markup asks of its scope. -/
def requestsAll : List Node → List (Option (List Char))
  | [] => []
  | n :: ns => n.requests ++ requestsAll ns

/-- What conditions and their branches ask of their scope. -/
def branchRequests : List (List Char × List Node) → List (Option (List Char))
  | [] => []
  | (condition, body) :: branches =>
    some condition :: (requestsAll body ++ branchRequests branches)

end

end Markup.Node

/-- Nothing asks for the style of the scope, and no expression mentions a name among these. -/
structure Unaware (names : List String) (requests : List (Option (List Char))) : Prop where
  noStyle : none ∉ requests
  unnamed : ∀ source, some source ∈ requests → ∀ n ∈ mentioned source, n ∉ names

lemma unaware_append {names : List String} {rs rs' : List (Option (List Char))} :
    Unaware names (rs ++ rs') ↔ Unaware names rs ∧ Unaware names rs' := by
  refine ⟨fun ⟨hstyle, hnames⟩ => ?_, fun ⟨⟨hstyle, hnames⟩, hstyle', hnames'⟩ => ?_⟩
  · simp only [List.mem_append, not_or] at hstyle
    exact ⟨⟨hstyle.1, fun source h => hnames source (List.mem_append_left _ h)⟩,
      hstyle.2, fun source h => hnames source (List.mem_append_right _ h)⟩
  · refine ⟨by simp [hstyle, hstyle'], fun source h => ?_⟩
    exact (List.mem_append.1 h).elim (hnames source) (hnames' source)

lemma Unaware.tail {names : List String} {r : Option (List Char)} {rs : List (Option (List Char))}
    (h : Unaware names (r :: rs)) : Unaware names rs :=
  ⟨fun hnone => h.noStyle (List.mem_cons_of_mem _ hnone),
    fun source hsource => h.unnamed source (List.mem_cons_of_mem _ hsource)⟩

/-! ### Scopes that differ in a few names -/

/-- The names that a loop frame takes for itself. -/
def frameNames (element : String) (index : Option String) : List String :=
  "$" :: Scope.rootField :: element :: index.toList

/-- Two scopes in which all names are bound alike but those that a frame takes for itself. -/
def Scope.AgreeBut (element : String) (index : Option String) (s s' : Scope) : Prop :=
  ∀ n ∉ frameNames element index, s.resolve? n = s'.resolve? n

namespace Scope.AgreeBut

variable {element : String} {index : Option String} {s s' : Scope}

lemma of_frame (value : Value) (position : Nat) (scope : Scope) :
    AgreeBut element index (.frame element value index position scope) scope := by
  intro n hn
  simp only [frameNames, List.mem_cons, Option.mem_toList, not_or] at hn
  obtain ⟨-, hroot, helement, hindex⟩ := hn
  rw [Scope.resolve?, Scope.get?, if_neg hroot, if_neg helement, if_neg hindex]
  rfl

/-- The frames of a loop inside differ no more than the scopes that they are put on: the scope
around them is their only field that is not the same, and it goes by a name of the first frame. -/
lemma frame (h : AgreeBut element index s s') (element' : String) (value : Value)
    (index' : Option String) (position : Nat) :
    AgreeBut element index (.frame element' value index' position s)
      (.frame element' value index' position s') := by
  intro n hn
  have hne : n ≠ Scope.rootField := by
    rintro rfl
    exact hn (by simp [frameNames])
  rw [Scope.resolve?, Scope.resolve?, h n hn, Scope.get?, Scope.get?, if_neg hne, if_neg hne]

lemma agreeOn (h : AgreeBut element index s s') {ns : List String}
    (hns : ∀ n ∈ ns, n ∉ frameNames element index) : AgreeOn ns s s' := by
  intro n hn
  have hne : n ≠ "$" := by
    rintro rfl
    exact hns _ hn (by simp [frameNames])
  rw [lookup, lookup, if_neg hne, if_neg hne, h n (hns n hn)]

end Scope.AgreeBut

namespace Render

/-! ### Markup that does not know of a frame -/

section Agree

variable {element : String} {index : Option String}

lemma evaluate_eq_of_unaware {s s' : Scope} (h : s.AgreeBut element index s') {source : List Char}
    {requests : List (Option (List Char))}
    (hunaware : Unaware (frameNames element index) (some source :: requests)) :
    Evaluator.standard.evaluate source s = Evaluator.standard.evaluate source s' ∧
      Evaluator.standard.test source s = Evaluator.standard.test source s' :=
  evaluate_congr (h.agreeOn (hunaware.unnamed source List.mem_cons_self))

variable (process? : Option (Value → Output))

mutual

-- By the tree. The scopes stay open, because a loop inside goes on with a frame on each of them.

lemma nodes_agree (ns : List Node) {s s' : Scope} (h : s.AgreeBut element index s')
    (hunaware : Unaware (frameNames element index) (Node.requestsAll ns)) :
    nodes .standard process? ns s = nodes .standard process? ns s' :=
  match ns with
  | [] => by rw [nodes, nodes]
  | n :: ns => by
    rw [Node.requestsAll, unaware_append] at hunaware
    rw [nodes, nodes, node_agree n h hunaware.1, nodes_agree ns h hunaware.2]

lemma node_agree (n : Node) {s s' : Scope} (h : s.AgreeBut element index s')
    (hunaware : Unaware (frameNames element index) n.requests) :
    node .standard process? n s = node .standard process? n s' :=
  match n with
  | .text t => by rw [node, node]
  | .expression source => by
    rw [Node.requests] at hunaware
    obtain ⟨hvalue, -⟩ := evaluate_eq_of_unaware h hunaware
    simp only [node, expression, hvalue]
  | .style none spread => by
    rw [Node.requests] at hunaware
    exact absurd List.mem_cons_self hunaware.noStyle
  | .style (some source) spread => by
    rw [Node.requests] at hunaware
    obtain ⟨hvalue, -⟩ := evaluate_eq_of_unaware h hunaware
    simp only [node, style, hvalue]
  | .inclusion source => by
    rw [Node.requests] at hunaware
    obtain ⟨hvalue, -⟩ := evaluate_eq_of_unaware h hunaware
    simp only [node, inclusion, hvalue]
  | .loop element' index' source body => by
    rw [Node.requests] at hunaware
    obtain ⟨hvalue, -⟩ := evaluate_eq_of_unaware h hunaware
    have hround (item : Value) (position : Nat) :
        nodes .standard process? body (.frame element' item index' position s) =
          nodes .standard process? body (.frame element' item index' position s') :=
      nodes_agree body (h.frame element' item index' position) hunaware.tail
    simp only [node, hvalue, hround]
  | .conditional branches none => by
    rw [Node.requests] at hunaware
    rw [node, node]
    exact branch_agree branches h hunaware rfl
  | .conditional branches (some body) => by
    rw [Node.requests, unaware_append] at hunaware
    rw [node, node]
    exact branch_agree branches h hunaware.1 (nodes_agree body h hunaware.2)

lemma branch_agree (branches : List (List Char × List Node)) {s s' : Scope}
    (h : s.AgreeBut element index s')
    (hunaware : Unaware (frameNames element index) (Node.branchRequests branches))
    {otherwise otherwise' : Unit → Output} (hotherwise : otherwise () = otherwise' ()) :
    branch .standard process? otherwise branches s =
      branch .standard process? otherwise' branches s' :=
  match branches with
  | [] => by rw [branch, branch, hotherwise]
  | (condition, body) :: branches => by
    rw [Node.branchRequests] at hunaware
    obtain ⟨-, htest⟩ := evaluate_eq_of_unaware h hunaware
    obtain ⟨hbody, hbranches⟩ := unaware_append.1 hunaware.tail
    rw [branch, branch, htest, nodes_agree body h hbody,
      branch_agree branches h hbranches hotherwise]

end

end Agree

lemma rounds_const (output : Output) (position : Nat) (items : List Value) :
    rounds (fun _ _ => output) position items = .concat (List.replicate items.length output) := by
  rw [rounds_eq, List.map_const', List.length_zipIdx]

end Render

namespace Press

open Render

lemma renderWithin_frame {element : String} {index : Option String} {body : List Char}
    (h : Unaware (frameNames element index) (Node.requestsAll (Node.ofMarkup body)))
    (sections : Sections) (room : Nat) (value : Value) (position : Nat) (scope : Scope) :
    renderWithin ⟨sections, .standard⟩ room body (.frame element value index position scope) =
      renderWithin ⟨sections, .standard⟩ room body scope := by
  rw [← nodes_eq_renderWithin, ← nodes_eq_renderWithin]
  exact nodes_agree _ _ (.of_frame value position scope) h

/-- **A loop frame is invisible to what does not name it.** In a frame and around it an expression
that mentions no name of the frame has the same value, truth or error, and a markup of which that
holds throughout is the same page with the same events. So a loop with such a body repeats the page
of its body, once for each item. -/
theorem renderWithin_unaware (element : String) (index : Option String) :
    (∀ source : List Char, (∀ n ∈ mentioned source, n ∉ frameNames element index) →
      ∀ (value : Value) (position : Nat) (scope : Scope),
        evaluate source (.frame element value index position scope) = evaluate source scope ∧
          test source (.frame element value index position scope) = test source scope) ∧
      ∀ body : List Char,
        Unaware (frameNames element index) (Node.requestsAll (Node.ofMarkup body)) →
        ∀ (sections : Sections) (room : Nat) (scope : Scope),
          let press : Press := ⟨sections, .standard⟩
          (∀ (value : Value) (position : Nat),
            press.renderWithin room body (.frame element value index position scope) =
              press.renderWithin room body scope) ∧
          ∀ (array : List Char) (items : List Value), evaluate array scope = .ok (.arr items) →
            node press.evaluator (press.processor room)
                (Node.ofDirective (.loop element index array body)) scope =
              .after (.evaluated array (.ok (.arr items)))
                (.concat (List.replicate items.length (press.renderWithin room body scope))) := by
  refine ⟨fun source hsource value position scope => ?_, fun body hbody sections room scope => ?_⟩
  · exact evaluate_congr ((Scope.AgreeBut.of_frame value position scope).agreeOn hsource)
  · have hframe := renderWithin_frame hbody sections room
    refine ⟨fun value position => hframe value position scope, fun array items harray => ?_⟩
    have hvalue : Evaluator.standard.evaluate array scope = .ok (.arr items) := harray
    have hround (item : Value) (position : Nat) :
        nodes .standard (processor ⟨sections, .standard⟩ room) (Node.ofMarkup body)
            (.frame element item index position scope) =
          renderWithin ⟨sections, .standard⟩ room body scope :=
      (nodes_eq_renderWithin _ room body _).trans (hframe item position scope)
    simp only [Node.ofDirective, node, hvalue, hround, rounds_const]

/-- A loop whose body knows nothing of a loop around it. -/
def innerLoop : List Char :=
  "%%for[x]{lists}%%{{x . root}}%%endfor%%".toList

/-- A node to repeat it over. -/
def twoRows : Scope :=
  .node (.obj [("rows", .arr [.null, .bool true]), ("lists", .arr [.obj [("root", .str "a")]])])

lemma evaluate_rows : evaluate "rows".toList twoRows = .ok (.arr [.null, .bool true]) := by
  have hread : Term.ofSource "rows".toList = .ok (.name "rows") :=
    ofSource_spaced (Draft.derives_lexemes .single
      (.name ⟨⟨'r', "ows".toList, by decide, by decide⟩, by decide⟩))
  rw [evaluate, hread]
  rfl

/-- The property `root` of an item is not the scope around the loop. -/
theorem renderWithin_unaware_innerLoop :
    (∀ n ∈ mentioned "x . root".toList, n ∉ frameNames "row" (some "i")) ∧
      Unaware (frameNames "row" (some "i")) (Node.requestsAll (Node.ofMarkup innerLoop)) ∧
      evaluate "rows".toList twoRows = .ok (.arr [.null, .bool true]) ∧
      evaluate "x . root".toList (.frame "row" .null (some "i") 0 twoRows) =
        evaluate "x . root".toList twoRows ∧
      node .standard (processor ⟨.empty, .standard⟩ 1)
          (Node.ofDirective (.loop "row" (some "i") "rows".toList innerLoop)) twoRows =
        .after (.evaluated "rows".toList (.ok (.arr [.null, .bool true])))
          (.concat (List.replicate 2 (renderWithin ⟨.empty, .standard⟩ 1 innerLoop twoRows))) := by
  have hproperty : ∀ n ∈ mentioned "x . root".toList, n ∉ frameNames "row" (some "i") := by
    decide +kernel
  have hlists : ∀ n ∈ mentioned "lists".toList, n ∉ frameNames "row" (some "i") := by
    decide +kernel
  have hrequests : Node.requestsAll (Node.ofMarkup innerLoop) =
      [some "lists".toList, some "x . root".toList] := by
    decide +kernel
  have hunaware :
      Unaware (frameNames "row" (some "i")) (Node.requestsAll (Node.ofMarkup innerLoop)) := by
    rw [hrequests]
    refine ⟨by simp, fun source hsource => ?_⟩
    simp only [List.mem_cons, Option.some.injEq, List.not_mem_nil, or_false] at hsource
    rcases hsource with rfl | rfl
    · exact hlists
    · exact hproperty
  obtain ⟨hexpression, hbody⟩ := renderWithin_unaware "row" (some "i")
  exact ⟨hproperty, hunaware, evaluate_rows, (hexpression _ hproperty .null 0 twoRows).1,
    (hbody innerLoop hunaware .empty 1 twoRows).2 _ _ evaluate_rows⟩

end Press

end Pressroom
