import Pressroom.Document.Engine

/-!
What is kept of a document: named blobs in a folder.
-/

namespace Pressroom

structure Blob where
  name : String
  data : ByteArray

/-- What keeps blobs in a folder and answers with their paths. -/
abbrev Store (m : Type → Type) :=
  Path → List Blob → m (Except FileFault (List Path))

namespace Blob

variable {m : Type → Type} [Monad m]

def ofText (name text : String) : Blob := ⟨name, text.toUTF8⟩

/-- Writes blobs into a folder that is there, one after the other up to the first that fails. -/
def writeAll (disk : Disk m) (folder : Path) : List Blob → m (Except FileFault (List Path))
  | [] => return .ok []
  | blob :: blobs => do
    let path := folder / Path.ofString blob.name
    match ← disk.write path blob.data with
    | .error fault => return .error fault
    | .ok () => return (← writeAll disk folder blobs).map (path :: ·)

/-- Writes blobs into a folder, which is made if it is missing. The answer tells their paths. -/
def persist (disk : Disk m) : Store m := fun folder blobs => do
  match ← disk.makeFolders folder with
  | .error fault => return .error fault
  | .ok () => writeAll disk folder blobs

end Blob

namespace Document

/-- What a plan keeps of a document. -/
def blobs (document : Document) (skeleton : Skeleton) (plan : SavePlan) : List Blob :=
  (match plan.data, skeleton.data with
    | false, _ | true, .null => []
    | true, data => [.ofText "data.json" data.indented]) ++
  (if plan.skeleton then [.ofText "skeleton.json" skeleton.toJson] else []) ++
  (if plan.page then [.ofText "rendered_template.html" (String.ofList document.page)] else []) ++
  (match plan.pdf, document.pdf with
    | true, some pdf => [⟨"doc.pdf", pdf⟩]
    | _, _ => [])

/-- Keeps of a document what its skeleton asks for, in a store. The store is not used where no
folder is given or nothing is to be kept. -/
def saveTo {m : Type → Type} [Monad m] (document : Document) (skeleton : Skeleton)
    (store : Store m) : m (Except DocumentFault (List Path)) := do
  match skeleton.save with
  | none => return .ok []
  | some plan =>
    match plan.folder, document.blobs skeleton plan with
    | none, _ | some _, [] => return .ok []
    | some folder, blobs => return (← store folder blobs).mapError .store

def save {m : Type → Type} [Monad m] (document : Document) (skeleton : Skeleton)
    (disk : Disk m) : m (Except DocumentFault (List Path)) :=
  document.saveTo skeleton (Blob.persist disk)

end Document

end Pressroom
