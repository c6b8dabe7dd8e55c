import Pressroom.Data.Value

/-!
What expressions refer to. A scope is a content node, or one round of a loop around an enclosing
scope, which it keeps as its field `root`.
-/

namespace Pressroom

/-- The data that an expression is evaluated against. -/
inductive Scope where
  /-- A content node: its fields are the fields of the scope. -/
  | node (value : Value)
  /-- One round of a loop: the element under its name, the position under the name for it, and the
  scope around the loop. -/
  | frame (element : String) (value : Value) (index : Option String) (position : Nat)
      (outer : Scope)

/-- What a name is bound to. -/
inductive Binding where
  | value (v : Value)
  | scope (s : Scope)

namespace Scope

/-- The field of a loop frame that holds the enclosing scope. -/
def rootField : String := "root"

/-- A field of the scope itself. The enclosing scope of a loop comes before its element, and the
element before the position. -/
def get? (key : String) : Scope → Option Binding
  | node v => (v.field? key).map .value
  | frame element v index position outer =>
    if key = rootField then some (.scope outer)
    else if key = element then some (.value v)
    else if index = some key then some (.value (.num (.int position)))
    else none

/-- What a bare name is bound to: a field of the scope, or else of the nearest scope around it that
has one. -/
def resolve? (name : String) : Scope → Option Binding
  | node v => (node v).get? name
  | frame element v index position outer =>
    ((frame element v index position outer).get? name).or (outer.resolve? name)

def toValue : Scope → Value
  | node v => v
  | frame element v index position outer =>
    .obj (Value.ofEntries
      ((index.map fun name => (name, Value.num (.int position))).toList ++
        [(element, v), (rootField, outer.toValue)]))

end Scope

def Binding.toValue : Binding → Value
  | value v => v
  | scope s => s.toValue

def Scope.style? (scope : Scope) : Option Value :=
  (scope.get? "style").map Binding.toValue

end Pressroom
