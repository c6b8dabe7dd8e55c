import Pressroom.Text.Search

/-!
Paths of files. A path is a text; slashes separate its segments. Segments that are empty or a single
dot lead nowhere, except that a leading dot is kept as it is written; everything else is a step, up
for two dots and down otherwise.
-/

namespace Pressroom

structure Path where
  text : List Char
  deriving Repr, DecidableEq

namespace Path

open Text

/-- What stands between the slashes of a path. -/
abbrev Segment := List Char

def here : Segment := ['.']

def up : Segment := ['.', '.']

def isStep (s : Segment) : Bool :=
  s != [] && s != here

def ofString (s : String) : Path := ⟨s.toList⟩

def toString (path : Path) : String := String.ofList path.text

def segments (path : Path) : List Segment :=
  pieces ['/'] path.text

def ofSegments (segments : List Segment) : Path :=
  ⟨join ['/'] segments⟩

def isAbsolute (path : Path) : Bool :=
  path.text.head? == some '/'

/-- A path under another one. An absolute path stays what it is. -/
def append (base path : Path) : Path :=
  if path.isAbsolute then path
  else if base.text.isEmpty || base.text.getLast? == some '/' then ⟨base.text ++ path.text⟩
  else ⟨base.text ++ '/' :: path.text⟩

instance : Div Path := ⟨append⟩

/-! ### The last step -/

/-- The segments up to the last step. -/
def dropIdle (segments : List Segment) : List Segment :=
  (segments.reverse.dropWhile (!isStep ·)).reverse

/-- A path taken apart: the segment it starts with if that one is no step, the segments up to the
last step, and that step. -/
structure Parts where
  /-- The empty segment in front of a root, or a leading dot. -/
  lead : Option Segment
  inner : List Segment
  last : Option Segment

def parts (path : Path) : Parts :=
  match path.segments with
  | [] => ⟨none, [], none⟩
  | first :: rest =>
    if first = here || path.isAbsolute then
      ⟨some first, (dropIdle rest).dropLast, (dropIdle rest).getLast?⟩
    else ⟨none, (dropIdle (first :: rest)).dropLast, (dropIdle (first :: rest)).getLast?⟩

/-- The path that starts with a lead and goes on with segments. -/
def ofLead (lead : Option Segment) (segments : List Segment) : Path :=
  if lead = some [] ∧ segments = [] then ⟨['/']⟩ else ofSegments (lead.toList ++ segments)

/-- The path without its last step. A root and an empty path have none. -/
def parent? (path : Path) : Option Path :=
  match path.parts with
  | ⟨lead, inner, some _⟩ => some (ofLead lead (dropIdle inner))
  | ⟨some lead, _, none⟩ => if lead = here then some ⟨[]⟩ else none
  | ⟨none, _, none⟩ => none

/-- The last step of a path if it goes down. -/
def fileName? (path : Path) : Option Segment :=
  path.parts.last.filter (· != up)

/-- A file name in front of its last dot, and what is behind it. A name that starts with its only
dot has no extension. -/
def splitName (name : Segment) : Segment × Option Segment :=
  match name.reverse.dropWhile (· != '.') with
  | _ :: c :: before => ((c :: before).reverse, some (name.reverse.takeWhile (· != '.')).reverse)
  | _ => (name, none)

/-- What stands behind the last dot of the file name. -/
def extension? (path : Path) : Option Segment :=
  path.fileName?.bind fun name => (splitName name).2

/-- The path with another extension; a path without a file name stays as it is. -/
def withExtension (path : Path) (extension : Segment) : Path :=
  match path.fileName? with
  | none => path
  | some name =>
    ofLead path.parts.lead (path.parts.inner ++ [(splitName name).1 ++ '.' :: extension])

/-! ### Cleaning -/

/-- The segments without those that stay or go up; each one that goes up takes the segment in front
of it away. `kept` are the segments so far, the last one first. -/
def settle (kept : List Segment) : List Segment → List Segment
  | [] => kept.reverse
  | s :: rest =>
    if s = here then settle kept rest
    else if s = up then settle kept.tail rest
    else settle (s :: kept) rest

/-- The path without segments that stay or go up, found without looking at any file. -/
def clean (path : Path) : Path :=
  ofSegments (settle [] path.segments)

end Path

end Pressroom
