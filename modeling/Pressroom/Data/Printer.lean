import Pressroom.Data.Value

/-!
JSON text of values. The compact form has no blanks at all; the indented form puts every entry on a
line of its own. Both are one printer with two records of what stands between the parts.
-/

namespace Pressroom

/-- What stands between the parts of a JSON text. -/
structure Spacing where
  /-- In front of an entry, or of a closing bracket, at a nesting depth. -/
  line : Nat → List Char
  /-- Between a key and its value. -/
  colon : List Char

def Spacing.compact : Spacing := ⟨fun _ => [], [':']⟩

/-- One entry per line, indented by two spaces per level. -/
def Spacing.indented : Spacing :=
  ⟨fun depth => '\n' :: List.replicate (2 * depth) ' ', [':', ' ']⟩

def jsonChar (c : Char) : List Char :=
  match c with
  | '"' => ['\\', '"']
  | '\\' => ['\\', '\\']
  | '\x08' => ['\\', 'b']
  | '\t' => ['\\', 't']
  | '\n' => ['\\', 'n']
  | '\x0C' => ['\\', 'f']
  | '\r' => ['\\', 'r']
  | c =>
    if c.toNat < 0x20 then
      ['\\', 'u', '0', '0', Nat.digitChar (c.toNat / 16), Nat.digitChar (c.toNat % 16)]
    else [c]

def jsonString (s : String) : List Char :=
  '"' :: s.toList.flatMap jsonChar ++ ['"']

def Numeral.json : Numeral → List Char
  | .int n => (toString n).toList
  | .float x => (Number.jsonText x).toList

namespace Value

mutual

def write (spacing : Spacing) (depth : Nat) : Value → List Char
  | .null => ['n', 'u', 'l', 'l']
  | .bool true => ['t', 'r', 'u', 'e']
  | .bool false => ['f', 'a', 'l', 's', 'e']
  | .num n => n.json
  | .str s => jsonString s
  | .arr [] => ['[', ']']
  | .arr (item :: items) =>
    '[' :: spacing.line (depth + 1) ++ write spacing (depth + 1) item ++
      writeItems spacing (depth + 1) items ++ spacing.line depth ++ [']']
  | .obj [] => ['{', '}']
  | .obj ((key, value) :: fields) =>
    '{' :: spacing.line (depth + 1) ++ jsonString key ++ spacing.colon ++
      write spacing (depth + 1) value ++
      writeFields spacing (depth + 1) fields ++ spacing.line depth ++ ['}']

def writeItems (spacing : Spacing) (depth : Nat) : List Value → List Char
  | [] => []
  | item :: items =>
    ',' :: spacing.line depth ++ write spacing depth item ++ writeItems spacing depth items

def writeFields (spacing : Spacing) (depth : Nat) : List (String × Value) → List Char
  | [] => []
  | (key, value) :: fields =>
    ',' :: spacing.line depth ++ jsonString key ++ spacing.colon ++ write spacing depth value ++
      writeFields spacing depth fields

end

def compact (value : Value) : String :=
  String.ofList (value.write .compact 0)

def indented (value : Value) : String :=
  String.ofList (value.write .indented 0)

end Value

end Pressroom
