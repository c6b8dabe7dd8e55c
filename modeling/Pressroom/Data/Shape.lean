import Pressroom.Data.Reader

/-!
Records read from JSON text. A record is written as an object, with its fields in any order and
others among them, or as an array of its fields in their order. A field may be missing if the
record starts from a value that has it, but may not come twice.
-/

namespace Pressroom.Reader

/-- Why these units do not start with what is wanted there. Scalars are read before they are
refused, so that a fault in their text comes first. -/
def mismatch (units : List Lexeme) : DataFault :=
  match units with
  | .null :: _ | .bool _ :: _ | .num (some _) :: _ | .str (some _) :: _
  | .openObject :: _ | .openArray :: _ => .misshapen
  | _ => .malformed

def text : Reader String := fun _ units =>
  match units with
  | .str (some s) :: rest => .ok (s, rest)
  | _ => .error (mismatch units)

def flag : Reader Bool := fun _ units =>
  match units with
  | .bool b :: rest => .ok (b, rest)
  | _ => .error (mismatch units)

def count : Reader Nat := fun _ units =>
  match units with
  | .num (some (.int (.ofNat n))) :: rest => .ok (n, rest)
  | _ => .error (mismatch units)

/-- Null for nothing, or something. -/
def optional {α : Type} (read : Reader α) : Reader (Option α) := fun room units =>
  match units with
  | .null :: rest => .ok (none, rest)
  | _ => (read room units).map fun (result, rest) => (some result, rest)

/-- The items of a list up to its end, at least one. -/
def listItems {α : Type} (read : Reader α) : (fuel : Nat) → Reader (List α)
  | 0, _, _ => .error .malformed
  | fuel + 1, room, units => do
    let (first, rest) ← read room units
    match rest with
    | .comma :: rest =>
      let (others, rest) ← listItems read fuel room rest
      return (first :: others, rest)
    | .closeArray :: rest => return ([first], rest)
    | _ => .error .malformed

def list {α : Type} (read : Reader α) : Reader (List α) := fun room units =>
  match units, room with
  | .openArray :: _, 0 => .error .malformed
  | .openArray :: .closeArray :: rest, _ + 1 => .ok ([], rest)
  | .openArray :: rest, room + 1 => listItems read rest.length room rest
  | units, _ => .error (mismatch units)

/-- A field of a record of type `σ`: how its value is read and put into the record. -/
structure Field (σ : Type) where
  name : String
  required : Bool
  read : Reader (σ → σ)

def Field.of {σ α : Type} (name : String) (required : Bool) (read : Reader α)
    (set : α → σ → σ) : Field σ where
  name := name
  required := required
  read := fun room units => (read room units).map fun (result, rest) => (set result, rest)

variable {σ : Type}

/-- The fields of a record written as an object, up to its end; `seen` are the names so far. -/
def recordEntries (fields : List (Field σ)) (room : Nat) :
    (fuel : Nat) → (seen : List String) → (record : σ) → List Lexeme →
      Except DataFault (σ × List Lexeme)
  | 0, _, _, _ => .error .malformed
  | fuel + 1, seen, record, units =>
    match units with
    | .str (some key) :: rest => do
      let (seen, record, rest) ←
        match fields.find? (·.name == key), rest with
        | some field, rest =>
          if seen.contains key then .error .misshapen
          else match rest with
            | .colon :: rest => do
              let (update, rest) ← field.read room rest
              pure (key :: seen, update record, rest)
            | _ => .error .malformed
        | none, .colon :: rest => do pure (seen, record, ← skipped rest)
        | none, _ => .error .malformed
      match rest with
      | .comma :: rest => recordEntries fields room fuel seen record rest
      | .closeObject :: rest =>
        if fields.all fun field => !field.required || seen.contains field.name
        then return (record, rest) else .error .misshapen
      | _ => .error .malformed
    | _ => .error .malformed

/-- The fields of a record written as an array, up to its end; `first` tells that none has come
yet. -/
def recordItems (room : Nat) :
    (fields : List (Field σ)) → (first : Bool) → (record : σ) → List Lexeme →
      Except DataFault (σ × List Lexeme)
  | [], _, record, .closeArray :: rest => .ok (record, rest)
  | [], _, _, _ => .error .malformed
  | field :: fields, first, record, units =>
    match units, first with
    | .closeArray :: rest, _ =>
      if (field :: fields).any (·.required) then .error .misshapen else .ok (record, rest)
    | units, true => do
      let (update, rest) ← field.read room units
      recordItems room fields false (update record) rest
    | .comma :: units, false => do
      let (update, rest) ← field.read room units
      recordItems room fields false (update record) rest
    | _, false => .error .malformed

def record (fields : List (Field σ)) (start : σ) : Reader σ := fun room units =>
  match units, room with
  | .openObject :: _, 0 | .openArray :: _, 0 => .error .malformed
  | .openObject :: .closeObject :: rest, _ + 1 =>
    if fields.any (·.required) then .error .misshapen else .ok (start, rest)
  | .openObject :: rest, room + 1 => recordEntries fields room rest.length [] start rest
  | .openArray :: rest, room + 1 => recordItems room fields true start rest
  | units, _ => .error (mismatch units)

/-- A value that is read as a whole before its shape is looked at: faults of its text come first,
and whatever is then wrong with it is its shape. -/
def buffered {α : Type} (read : Reader α) : Reader α := fun room units =>
  match kept room units with
  | .error fault => .error fault
  | .ok _ =>
    match read room units with
    | .ok result => .ok result
    | .error _ => .error .misshapen

end Pressroom.Reader
