import Mathlib.Data.List.Chain
import Pressroom.Proofs.Markup.Parts

/-!
Drafts: templates as their authors mean them, before they are written down. A draft knows which
marker belongs to which directive; once it is written, only the text of the markers says so.

`Sound` is what an author can see to: expressions that do not end their own directive early, names
that can be read back, ids that tell nested directives of one kind apart. `Clear` is what is left
to go wrong then. A marker of the bracket dialect ends in the two signs that another one starts
with, so a text between two markers can be taken for a marker of its own.
-/

namespace Pressroom.Markup

/-! ### Markers as they are written -/

namespace Dialect

/-- An expression as a marker carries it: between braces, or as an attribute. -/
def carry (name : String) (e : List Char) : Dialect → List Char
  | bracket => '{' :: e ++ ['}']
  | tag => ' ' :: (name.toList ++ '=' :: '"' :: (e ++ ['"']))

/-- What stands in front of an expression that a marker carries. -/
def carryStart (name : String) : Dialect → List Char
  | bracket => ['{']
  | tag => ' ' :: (name.toList ++ ['=', '"'])

/-- What stands behind an expression that a marker carries. -/
def carryEnd : Dialect → Char
  | bracket => '}'
  | tag => '"'

lemma carry_eq (d : Dialect) (name : String) (e : List Char) :
    d.carry name e = d.carryStart name ++ (e ++ [d.carryEnd]) := by
  cases d <;> simp [carry, carryStart, carryEnd]

end Dialect

/-- The parameters of a style directive. -/
def params (selector : Option (List Char)) (spread : Bool) : List Char :=
  selector.getD [] ++ ',' :: (if spread then "true" else "false").toList

/-- Parameters as a marker carries them, if there is anything to say. -/
def carryParams : Option (List Char) → Bool → List Char
  | none, false => []
  | selector, spread => '[' :: params selector spread ++ [']']

/-- The names of loop variables as a marker carries them. -/
def carryNames (element : List Char) : Option (List Char) → List Char
  | none => '[' :: element ++ [']']
  | some index => '[' :: element ++ ',' :: index ++ [']']

/-- A token of written markup: text, an expression between braces, or a marker with its id and what
it carries. -/
inductive Token where
  | text (t : List Char)
  | expression (source : List Char)
  | marker (d : Dialect) (part : Part) (id carried : List Char)

/-- A token written down. -/
def Token.spelling : Token → List Char
  | text t => t
  | expression source => ['{', '{'] ++ source ++ ['}', '}']
  | marker d part id carried =>
    (d.start part).toList ++ id ++ carried ++ (d.finish part).toList

def spell (ts : List Token) : List Char :=
  ts.flatMap Token.spelling

/-! ### Drafts -/

mutual

/-- A directive as it is meant, with the dialect and the id it is to be written with. -/
inductive Draft where
  | text (t : List Char)
  | expression (source : List Char)
  | style (d : Dialect) (selector : Option (List Char)) (spread : Bool)
  | inclusion (d : Dialect) (source : List Char)
  | loop (d : Dialect) (id element : List Char) (index : Option (List Char)) (array : List Char)
    (body : List Draft)
  | conditional (d : Dialect) (id condition : List Char) (body : List Draft) (chain : Chain)

/-- What there is to a conditional behind its first body. -/
inductive Chain where
  | done
  | otherwise (body : List Draft)
  | elseIf (condition : List Char) (body : List Draft) (chain : Chain)

end

mutual

/-- The tokens of a draft. -/
def Draft.tokens : Draft → List Token
  | .text t => [.text t]
  | .expression source => [.expression source]
  | .style d selector spread => [.marker d .style [] (carryParams selector spread)]
  | .inclusion d source => [.marker d .inclusion [] ('[' :: source ++ [']'])]
  | .loop d id element index array body =>
    .marker d .loop id (carryNames element index ++ d.carry "array" array) ::
      (tokens body ++ [.marker d .loopEnd id []])
  | .conditional d id condition body chain =>
    .marker d .conditional id (d.carry "condition" condition) ::
      (tokens body ++ chain.tokens d id ++ [.marker d .conditionalEnd id []])

def Chain.tokens (d : Dialect) (id : List Char) : Chain → List Token
  | .done => []
  | .otherwise body => .marker d .otherwise id [] :: Markup.tokens body
  | .elseIf condition body chain =>
    .marker d .elseIf id (d.carry "condition" condition) ::
      (Markup.tokens body ++ chain.tokens d id)

def tokens : List Draft → List Token
  | [] => []
  | x :: xs => x.tokens ++ tokens xs

end

def write (xs : List Draft) : List Char :=
  spell (tokens xs)

example : write [.loop .bracket ['1'] "x".toList (some "i".toList) "$.xs".toList
    [.style .bracket none true, .style .tag none false, .inclusion .tag "x".toList]] =
      "%%for1[x,i]{$.xs}%%%%style[,true]%%<a-style/><a-section[x]/>%%endfor1%%".toList := by decide

example : write [.conditional .tag [] "c".toList [.text ['a']]
    (.elseIf "d".toList [.text ['b']] (.otherwise [.expression ['e']]))] =
      ("<a-if condition=\"c\">a<a-else-if condition=\"d\"/>b" ++
        "<a-else/>\x7b\x7be\x7d\x7d</a-if>").toList := by decide

mutual

/-- The loops and conditionals of a draft at any depth, each with its dialect and its id. -/
def Draft.blocks : Draft → List (Kind × Dialect × List Char)
  | .loop d id _ _ _ body => (.loop, d, id) :: blocks body
  | .conditional d id _ body chain => (.conditional, d, id) :: (blocks body ++ chain.blocks)
  | _ => []

/-- The loops and conditionals of a chain at any depth. -/
def Chain.blocks : Chain → List (Kind × Dialect × List Char)
  | .done => []
  | .otherwise body => Markup.blocks body
  | .elseIf _ body chain => Markup.blocks body ++ chain.blocks

/-- The loops and conditionals of a template at any depth. -/
def blocks : List Draft → List (Kind × Dialect × List Char)
  | [] => []
  | x :: xs => x.blocks ++ blocks xs

end

/-! ### Sound drafts -/

/-- The word does not occur in the text, its letters in either case. -/
def Lacks (word : String) (t : List Char) : Prop :=
  Marker.cut? [.text word.toList] t = none
  deriving Decidable

/-- A text in which nothing can start that is not text. -/
structure Literal (t : List Char) : Prop where
  percent : '%' ∉ t
  brace : '{' ∉ t
  opener : Lacks "<a" t
  closer : Lacks "</a" t

instance (t : List Char) : Decidable (Literal t) :=
  decidable_of_iff ('%' ∉ t ∧ '{' ∉ t ∧ Lacks "<a" t ∧ Lacks "</a" t)
    ⟨fun ⟨h1, h2, h3, h4⟩ => ⟨h1, h2, h3, h4⟩, fun ⟨h1, h2, h3, h4⟩ => ⟨h1, h2, h3, h4⟩⟩

/-- An expression that ends no directive, be it the one it stands in or one around that. -/
structure Embedded (close : Marker) (e : List Char) : Prop where
  percents : Lacks "%%" e
  opener : Lacks "<a-" e
  closer : Lacks "</a-" e
  close : close.cut? e = none

instance (close : Marker) (e : List Char) : Decidable (Embedded close e) :=
  decidable_of_iff (Lacks "%%" e ∧ Lacks "<a-" e ∧ Lacks "</a-" e ∧ close.cut? e = none)
    ⟨fun ⟨h1, h2, h3, h4⟩ => ⟨h1, h2, h3, h4⟩, fun ⟨h1, h2, h3, h4⟩ => ⟨h1, h2, h3, h4⟩⟩

/-- A name that is read as the whole name of a loop variable. -/
def IsName (name : List Char) : Prop :=
  loopVariable? name = some (name, [])
  deriving Decidable

mutual

/-- What an author sees to: every part of the draft reads back by itself, and no directive has one
of its kind, its dialect and its id inside it. -/
def Draft.Sound : Draft → Prop
  | .text t => Literal t
  | .expression e => Embedded [.text ['}', '}']] e ∧ e.getLast? ≠ some '}'
  | .style d selector _ =>
    ∀ s ∈ selector, Embedded d.styleParamsClose s ∧ Text.trim s = s ∧ s ≠ []
  | .inclusion d e => Embedded d.inclusionClose e ∧ ∀ c ∈ e, c ≠ '\n' ∧ c ≠ '\r'
  | .loop d id element index array body =>
    IsId id ∧ IsName element ∧ (∀ name ∈ index, IsName name) ∧
      Embedded d.expressionClose array ∧ (.loop, d, id) ∉ blocks body ∧ Sound body
  | .conditional d id condition body chain =>
    IsId id ∧ Embedded d.expressionClose condition ∧
      (.conditional, d, id) ∉ blocks body ++ chain.blocks ∧ Sound body ∧ chain.Sound d

/-- The chain of a conditional of a dialect is sound. -/
def Chain.Sound (d : Dialect) : Chain → Prop
  | .done => True
  | .otherwise body => Markup.Sound body
  | .elseIf condition body chain =>
    Embedded d.elseIfClose condition ∧ Markup.Sound body ∧ chain.Sound d

def Sound : List Draft → Prop
  | [] => True
  | x :: xs => x.Sound ∧ Sound xs

end

mutual

def Draft.decideSound : (x : Draft) → Decidable x.Sound
  | .text t => inferInstanceAs (Decidable (Literal t))
  | .expression e => inferInstanceAs (Decidable (Embedded _ e ∧ _))
  | .style d selector _ => inferInstanceAs (Decidable
      (∀ s ∈ selector, Embedded d.styleParamsClose s ∧ Text.trim s = s ∧ s ≠ []))
  | .inclusion d e => inferInstanceAs (Decidable (Embedded d.inclusionClose e ∧ ∀ c ∈ e, _))
  | .loop d id element index array body =>
    have := decideSound body
    inferInstanceAs (Decidable (IsId id ∧ IsName element ∧ (∀ name ∈ index, IsName name) ∧
      Embedded d.expressionClose array ∧ _ ∉ _ ∧ Sound body))
  | .conditional d id condition body chain =>
    have := decideSound body
    have := chain.decideSound d
    inferInstanceAs (Decidable
      (IsId id ∧ Embedded d.expressionClose condition ∧ _ ∉ _ ∧ Sound body ∧ chain.Sound d))

def Chain.decideSound (d : Dialect) : (chain : Chain) → Decidable (chain.Sound d)
  | .done => isTrue trivial
  | .otherwise body => Markup.decideSound body
  | .elseIf condition body chain =>
    have := Markup.decideSound body
    have := chain.decideSound d
    inferInstanceAs (Decidable
      (Embedded d.elseIfClose condition ∧ Markup.Sound body ∧ chain.Sound d))

def decideSound : (xs : List Draft) → Decidable (Sound xs)
  | [] => isTrue trivial
  | x :: xs =>
    have := x.decideSound
    have := decideSound xs
    inferInstanceAs (Decidable (x.Sound ∧ Sound xs))

end

instance (xs : List Draft) : Decidable (Sound xs) := decideSound xs

/-- Whether a token is text. -/
def Token.IsText : Token → Prop
  | .text _ => True
  | _ => False

instance : DecidablePred Token.IsText
  | .text _ => isTrue trivial
  | .expression _ | .marker .. => isFalse id

/-- No text is next to another one. -/
def Apart (ts : List Token) : Prop :=
  ts.IsChain fun a b => ¬ (a.IsText ∧ b.IsText)
  deriving Decidable

/-- A template that an author may write. -/
structure WellFormed (xs : List Draft) : Prop where
  sound : Sound xs
  apart : Apart (tokens xs)

instance (xs : List Draft) : Decidable (WellFormed xs) :=
  decidable_of_iff (Sound xs ∧ Apart (tokens xs))
    ⟨fun ⟨h1, h2⟩ => ⟨h1, h2⟩, fun ⟨h1, h2⟩ => ⟨h1, h2⟩⟩

/-! ### Clear drafts -/

/-- Whether a token is a marker of the bracket dialect. -/
def Token.IsSigns : Token → Prop
  | .marker .bracket _ _ _ => True
  | _ => False

instance : DecidablePred Token.IsSigns
  | .marker .bracket _ _ _ => isTrue trivial
  | .marker .tag _ _ _ | .text _ | .expression _ => isFalse id

/-- The text spells the word of a bracket marker with an id, whatever blanks stand behind it. -/
def Spells (part : Part) (id t : List Char) : Prop :=
  Marker.strip? [.text ((Dialect.bracket.start part).toList.drop 2 ++ id), .blanks] t = some []
  deriving Decidable

/-- Tokens start with a text between two markers that reads as the marker with an id: it spells the
word, and takes the signs that belong to the markers. -/
def Misread (part : Part) (id : List Char) : List Token → Prop
  | before :: .text t :: after :: _ => before.IsSigns ∧ after.IsSigns ∧ Spells part id t
  | _ => False

instance (part : Part) (id : List Char) : DecidablePred (Misread part id)
  | before :: .text t :: after :: _ =>
    inferInstanceAs (Decidable (before.IsSigns ∧ after.IsSigns ∧ Spells part id t))
  | [] | [_] | [_, .text _] | _ :: .expression _ :: _ | _ :: .marker .. :: _ => isFalse False.elim

/-- Tokens start with a text between a marker and an expression that reads as the `else-if` with an
id, and there is an end to its condition. -/
def MisreadElseIf (d : Dialect) (id : List Char) (following : List Token) : List Token → Prop
  | before :: .text t :: .expression e :: after =>
    before.IsSigns ∧ Spells .elseIf id t ∧
      d.elseIfClose.cut? ('{' :: e ++ ['}', '}'] ++ spell (after ++ following)) ≠ none
  | _ => False

instance (d : Dialect) (id : List Char) (following : List Token) :
    DecidablePred (MisreadElseIf d id following)
  | before :: .text t :: .expression _ :: _ =>
    inferInstanceAs (Decidable (before.IsSigns ∧ Spells .elseIf id t ∧ _ ≠ none))
  | [] | [_] | [_, .text _] | _ :: .text _ :: .text _ :: _ | _ :: .text _ :: .marker .. :: _ |
    _ :: .expression _ :: _ | _ :: .marker .. :: _ => isFalse False.elim

/-- Somewhere among tokens a text between two markers reads as the marker with an id. -/
def Stray (d : Dialect) (part : Part) (id : List Char) (ts : List Token) : Prop :=
  d = .bracket ∧ ∃ us ∈ ts.tails, Misread part id us
  deriving Decidable

/-- Somewhere among tokens a text between a marker and an expression reads as an `else-if`. -/
def StrayElseIf (d : Dialect) (id : List Char) (ts following : List Token) : Prop :=
  d = .bracket ∧ ∃ us ∈ ts.tails, MisreadElseIf d id following us
  deriving Decidable

/-- Between the condition of a branch and the next marker of its conditional, which stands first in
what follows, no text reads as an `else` or an `else-if`. -/
def Guarded (d : Dialect) (id : List Char) (body following : List Token) : Prop :=
  ¬ Stray d .otherwise id (body ++ following.take 1) ∧ ¬ StrayElseIf d id body following
  deriving Decidable

mutual

/-- No text inside a directive reads as one of its markers. -/
def Draft.Clear : Draft → Prop
  | .loop d id _ _ _ body =>
    ¬ Stray d .loopEnd id (tokens body ++ [.marker d .loopEnd id []]) ∧ Clear body
  | .conditional d id _ body chain =>
    ¬ Stray d .conditionalEnd id
        (tokens body ++ chain.tokens d id ++ [.marker d .conditionalEnd id []]) ∧
      Guarded d id (tokens body) (chain.tokens d id) ∧ Clear body ∧ chain.Clear d id
  | _ => True

/-- No text inside a chain reads as a marker of its conditional. -/
def Chain.Clear (d : Dialect) (id : List Char) : Chain → Prop
  | .done => True
  | .otherwise body => Markup.Clear body
  | .elseIf _ body chain =>
    Guarded d id (Markup.tokens body) (chain.tokens d id) ∧ Markup.Clear body ∧
      chain.Clear d id

def Clear : List Draft → Prop
  | [] => True
  | x :: xs => x.Clear ∧ Clear xs

end

mutual

def Draft.decideClear : (x : Draft) → Decidable x.Clear
  | .text _ | .expression _ | .style .. | .inclusion .. => isTrue trivial
  | .loop d id _ _ _ body =>
    have := decideClear body
    inferInstanceAs (Decidable (¬ Stray d .loopEnd id _ ∧ Clear body))
  | .conditional d id _ body chain =>
    have := decideClear body
    have := chain.decideClear d id
    inferInstanceAs (Decidable (¬ Stray d .conditionalEnd id _ ∧ Guarded d id _ _ ∧ Clear body ∧
      chain.Clear d id))

def Chain.decideClear (d : Dialect) (id : List Char) :
    (chain : Chain) → Decidable (chain.Clear d id)
  | .done => isTrue trivial
  | .otherwise body => Markup.decideClear body
  | .elseIf _ body chain =>
    have := Markup.decideClear body
    have := chain.decideClear d id
    inferInstanceAs (Decidable (Guarded d id _ _ ∧ Markup.Clear body ∧ chain.Clear d id))

def decideClear : (xs : List Draft) → Decidable (Clear xs)
  | [] => isTrue trivial
  | x :: xs =>
    have := x.decideClear
    have := decideClear xs
    inferInstanceAs (Decidable (x.Clear ∧ Clear xs))

end

instance (xs : List Draft) : Decidable (Clear xs) := decideClear xs

end Pressroom.Markup
