import Pressroom.Number.Layout

/-!
Values: the data that content trees, expressions and documents are made of. Whole numbers are kept
exactly and apart from floating-point numbers; objects keep their fields in the order in which the
keys first came.
-/

namespace Pressroom

/-- A number is whole and exact, or a finite floating-point number. -/
inductive Numeral where
  | int (n : Int)
  | float (x : Float)

def Numeral.toFloat : Numeral → Float
  | .int n => Number.ofInt n
  | .float x => x

/-- Numbers inside arrays and objects are the same if they are equal and of one kind. -/
def Numeral.same : Numeral → Numeral → Bool
  | .int a, .int b => a == b
  | .float a, .float b => a == b
  | _, _ => false

def Numeral.text : Numeral → String
  | .int n => toString n
  | .float x => Number.text x

inductive Value where
  | null
  | bool (b : Bool)
  | num (n : Numeral)
  | str (s : String)
  | arr (items : List Value)
  | obj (fields : List (String × Value))

instance : Inhabited Value := ⟨.null⟩

namespace Value

/-- The fields with `value` under `key`: a key that is there keeps its place, a new one goes to the
end. -/
def insert (key : String) (value : Value) : List (String × Value) → List (String × Value)
  | [] => [(key, value)]
  | (k, v) :: fields =>
    if k = key then (k, value) :: fields else (k, v) :: insert key value fields

/-- The fields written one after the other, later ones replacing earlier ones of the same key. -/
def ofEntries (entries : List (String × Value)) : List (String × Value) :=
  entries.foldl (fun fields entry => insert entry.1 entry.2 fields) []

def field? (key : String) : Value → Option Value
  | .obj fields => fields.lookup key
  | _ => none

def str? : Value → Option String
  | .str s => some s
  | _ => none

def isObject : Value → Bool
  | .obj _ => true
  | _ => false

/-- The exact bound below which whole floating-point results become exact whole numbers. -/
def exactBound : Float := 9000000000000000

/-- The value of a floating-point result. Whole results of moderate size are exact whole numbers,
so that they are written without a fraction; what is no finite number has no value of its own. -/
def ofFloat (x : Float) : Value :=
  match Number.Binary.ofFloat? x with
  | none => .null
  | some b =>
    if b.isWhole && Number.abs x < exactBound then .num (.int b.floor) else .num (.float x)

mutual

/-- Whether two values are the same. The order of the fields of objects does not matter. -/
def same : Value → Value → Bool
  | .null, .null => true
  | .bool a, .bool b => a == b
  | .num a, .num b => a.same b
  | .str a, .str b => a == b
  | .arr as, .arr bs => sameItems as bs
  | .obj as, .obj bs => as.length == bs.length && sameFields as bs
  | _, _ => false

def sameItems : List Value → List Value → Bool
  | [], [] => true
  | a :: as, b :: bs => a.same b && sameItems as bs
  | _, _ => false

/-- Whether every field of the first object is a field of the second. -/
def sameFields : List (String × Value) → List (String × Value) → Bool
  | [], _ => true
  | (key, a) :: as, bs =>
    (match bs.lookup key with
      | some b => a.same b
      | none => false) && sameFields as bs

end

theorem lookup_cons (key other : String) (value : Value) (fields : List (String × Value)) :
    ((key, value) :: fields).lookup other =
      if other = key then some value else fields.lookup other := by
  rw [List.lookup_cons]
  by_cases h : other = key
  · simp [h]
  · rw [beq_false_of_ne h, if_neg h]

theorem lookup_insert (key other : String) (value : Value) (fields : List (String × Value)) :
    (insert key value fields).lookup other =
      if other = key then some value else fields.lookup other := by
  induction fields with
  | nil => simp [insert, lookup_cons]
  | cons entry fields ih =>
    obtain ⟨k, v⟩ := entry
    unfold insert
    split <;> grind [lookup_cons]

/-- The keys after writing a field: the same ones, or one more at the end. -/
theorem keys_insert (key : String) (value : Value) (fields : List (String × Value)) :
    (insert key value fields).map (·.1) =
      if key ∈ fields.map (·.1) then fields.map (·.1) else fields.map (·.1) ++ [key] := by
  induction fields with
  | nil => simp [insert]
  | cons entry fields ih =>
    obtain ⟨k, v⟩ := entry
    unfold insert
    split
    · next h => simp [h]
    · next h =>
      have : key ≠ k := fun e => h e.symm
      simp only [List.map_cons, ih, List.mem_cons, this, false_or]
      split <;> simp_all

end Value

end Pressroom
