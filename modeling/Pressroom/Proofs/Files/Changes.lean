import Mathlib.Data.List.TakeWhile
import Pressroom.Files.Disk
import Pressroom.Proofs.Outcome
import Pressroom.Proofs.Text.Pieces

/-!
What changes in a tree of files. A tree grows if no folder and no name in it goes away, and then
each path leads where it led before. Files are written where there is no folder and folders are made
where there is nothing, so that a tree only grows; and where each of them does not lead, nothing
changes.
-/

namespace Pressroom

open Pressroom.Path (Segment)

namespace FileTree

variable {tree after last : FileTree} {place found : Place} {steps : List Segment}

def file? (tree : FileTree) (place : Place) : Option ByteArray :=
  match tree.node? place with
  | some (.file bytes) => some bytes
  | _ => none

lemma read_eq_ok_iff {path : Path} {bytes : ByteArray} :
    tree.read path = .ok bytes ↔
      ∃ place, tree.find path = .ok place ∧ tree.file? place = some bytes := by
  rw [read, bind_eq_ok]
  refine exists_congr fun place => and_congr_right fun _ => ?_
  rw [file?]
  rcases tree.node? place with _ | _ | _ <;> simp

/-! ### Trees that grow -/

/-- What is in a tree stays there: folders are folders still, and names are still in use. -/
structure Grows (tree after : FileTree) : Prop where
  folder : ∀ place, tree.hasFolder place = true → after.hasFolder place = true
  inUse : ∀ place, (tree.node? place).isSome = true → (after.node? place).isSome = true

lemma Grows.refl (tree : FileTree) : tree.Grows tree :=
  ⟨fun _ => id, fun _ => id⟩

lemma Grows.trans (h : tree.Grows after) (hlast : after.Grows last) : tree.Grows last :=
  ⟨fun place hfolder => hlast.folder place (h.folder place hfolder),
    fun place hinUse => hlast.inUse place (h.inUse place hinUse)⟩

lemma walk_append (tree : FileTree) (place : Place) (a b : List Segment) :
    tree.walk place (a ++ b) = tree.walk place a >>= (tree.walk · b) := by
  induction a generalizing place with
  | nil => rfl
  | cons s a ih =>
    rw [List.cons_append, walk, walk]
    split_ifs
    · rfl
    · exact ih _
    · exact ih _
    · rfl
    · cases tree.below? s place with
      | none => rfl
      | some place => exact ih place

lemma Grows.below? (h : tree.Grows after) {s : Segment}
    (hbelow : tree.below? s place = some found) :
    after.below? s place = some found := by
  cases place with
  | around => cases hbelow
  | inside steps =>
    rw [FileTree.below?] at hbelow ⊢
    split at hbelow
    · next hsome => rwa [if_pos (h.inUse _ hsome)]
    · cases hbelow

/-- **In a tree that grows, segments lead where they led before.** -/
theorem Grows.walk (h : tree.Grows after) {segments : List Segment}
    (hwalk : tree.walk place segments = .ok found) : after.walk place segments = .ok found := by
  induction segments generalizing place with
  | nil => exact hwalk
  | cons s rest ih =>
    rw [FileTree.walk] at hwalk
    split_ifs at hwalk with hfolder hstep hup hlong <;> rw [FileTree.walk]
    all_goals
      rw [Bool.not_eq_true', Bool.not_eq_false] at hfolder
      rw [h.folder place hfolder, Bool.not_true, if_neg Bool.false_ne_true]
    · rw [if_pos hstep]
      exact ih hwalk
    · rw [if_neg hstep, if_pos hup]
      exact ih hwalk
    · rw [if_neg hstep, if_neg hup, if_neg hlong]
      cases hbelow : tree.below? s place with
      | none =>
        rw [hbelow] at hwalk
        cases hwalk
      | some below =>
        rw [hbelow] at hwalk
        rw [h.below? hbelow]
        exact ih hwalk

lemma Grows.find (h : tree.Grows after) {path : Path} (hfind : tree.find path = .ok found) :
    after.find path = .ok found := by
  obtain ⟨origin, horigin, hwalk⟩ := bind_eq_ok.1 hfind
  exact bind_eq_ok.2 ⟨origin, horigin, h.walk hwalk⟩

/-! ### Steps by names and slashes -/

lemma walk_slashes (hfolder : tree.hasFolder place = true) {slashes : List Segment}
    (h : ∀ s ∈ slashes, s = []) : tree.walk place slashes = .ok place := by
  induction slashes with
  | nil => rfl
  | cons s slashes ih =>
    obtain ⟨rfl, hslashes⟩ := List.forall_mem_cons.1 h
    rw [walk, hfolder]
    exact ih hslashes

lemma walk_slash_eq_ok_iff {segments : List Segment} :
    tree.walk place (segments ++ [[]]) = .ok found ↔
      tree.walk place segments = .ok found ∧ tree.hasFolder found = true := by
  rw [walk_append, bind_eq_ok]
  constructor
  · rintro ⟨inner, hwalk, hslash⟩
    by_cases hfolder : tree.hasFolder inner = true
    · rw [walk_slashes hfolder (by simp)] at hslash
      obtain rfl := Except.ok.inj hslash
      exact ⟨hwalk, hfolder⟩
    · rw [walk, if_pos (by simpa using hfolder)] at hslash
      cases hslash
  · rintro ⟨hwalk, hfolder⟩
    exact ⟨found, hwalk, walk_slashes hfolder (by simp)⟩

/-- A segment that goes down and is not too long. -/
structure IsName (name : Segment) : Prop where
  ne_nil : name ≠ []
  ne_here : name ≠ Path.here
  ne_up : name ≠ Path.up
  short : byteSize name ≤ nameLimit

lemma IsName.walk_cons {name : Segment} (hname : IsName name)
    (hfolder : tree.hasFolder (.inside steps) = true)
    (hinUse : (tree.node? (.inside (steps ++ [name]))).isSome = true) (rest : List Segment) :
    tree.walk (.inside steps) (name :: rest) = tree.walk (.inside (steps ++ [name])) rest := by
  have hstep : Path.isStep name = true := by simp [Path.isStep, hname.ne_nil, hname.ne_here]
  rw [walk, hfolder, hstep, if_neg (by simp), if_neg (by simp), if_neg hname.ne_up,
    if_neg (not_lt.2 hname.short), below?, if_pos hinUse]

/-! ### Targets -/

/-- A path ends with a name, and slashes perhaps: the name is in the folder that the segments in
front of it lead to. -/
inductive Ends (tree : FileTree) (path : Path) (folder : Place) (name : Segment) (slashed : Bool) :
    Prop where
  | intro {origin : Place} {inner slashes : List Segment} (hstart : start path = .ok origin)
      (hsegments : path.segments = inner ++ name :: slashes) (hslashes : ∀ s ∈ slashes, s = [])
      (hslashed : slashed = !slashes.isEmpty) (hname : IsName name)
      (hwalk : tree.walk origin inner = .ok folder) (hfolder : tree.hasFolder folder = true)

lemma exists_slashes (segments : List Segment) :
    ∃ slashes, (∀ s ∈ slashes, s = []) ∧
      segments = (segments.reverse.dropWhile (· == [])).reverse ++ slashes ∧
      (segments.reverse.takeWhile (· == [])).isEmpty = slashes.isEmpty := by
  refine ⟨(segments.reverse.takeWhile (· == [])).reverse, fun s hs => ?_, ?_, by simp⟩
  · simpa using List.mem_takeWhile_imp (List.mem_reverse.1 hs)
  · rw [← List.reverse_append, List.takeWhile_append_dropWhile, List.reverse_reverse]

lemma ends_of_target {path : Path} {folder : Place} {name : Segment} {slashed : Bool}
    (h : tree.target path = .ok (.named folder name slashed)) :
    Ends tree path folder name slashed := by
  obtain ⟨origin, hstart, htarget⟩ := bind_eq_ok.1 h
  obtain ⟨slashes, hslashes, hsegments, hempty⟩ := exists_slashes path.segments
  dsimp only at htarget
  have hhead := List.head?_dropWhile_not (· == []) path.segments.reverse
  split at htarget
  · cases htarget
  · next last inner hlast =>
    rw [hlast] at hsegments hhead
    obtain ⟨place, hwalk, hnamed⟩ := bind_eq_ok.1 htarget
    split_ifs at hnamed with hidle hlong
    · cases hnamed
    · obtain ⟨rfl, rfl, rfl⟩ := Target.named.inj (Except.ok.inj hnamed)
      rw [Bool.or_eq_true, decide_eq_true_iff, decide_eq_true_iff, not_or] at hidle
      obtain ⟨hwalk, hfolder⟩ := walk_slash_eq_ok_iff.1 hwalk
      exact .intro hstart (by simpa using hsegments) hslashes (by rw [hempty])
        ⟨by simpa using hhead, hidle.1, hidle.2, not_lt.1 hlong⟩ hwalk hfolder

lemma Ends.find_eq {path : Path} {name : Segment} {slashed : Bool}
    (h : Ends tree path (.inside steps) name slashed) (hgrows : tree.Grows after)
    (hinUse : (after.node? (.inside (steps ++ [name]))).isSome = true)
    (hslashed : slashed = true → after.hasFolder (.inside (steps ++ [name])) = true) :
    after.find path = .ok (.inside (steps ++ [name])) := by
  obtain ⟨hstart, hsegments, hslashes, hends, hname, hwalk, hfolder⟩ := h
  refine bind_eq_ok.2 ⟨_, hstart, ?_⟩
  rw [hsegments, walk_append, hgrows.walk hwalk, ok_bind,
    hname.walk_cons (hgrows.folder _ hfolder) hinUse]
  rename_i slashes
  cases slashes with
  | nil => rfl
  | cons s slashes => exact walk_slashes (hslashed (hends.trans rfl)) hslashes

/-! ### What is put into a tree -/

section Put

variable (hsteps : steps ≠ [])

include hsteps

lemma node?_put_self (tree : FileTree) (node : FileNode) :
    (tree.put steps node).node? (.inside steps) = some node := by
  rw [node?_put tree hsteps, if_pos rfl]

lemma node?_put_of_ne (node : FileNode) (h : place ≠ .inside steps) :
    (tree.put steps node).node? place = tree.node? place := by
  rw [node?_put tree hsteps, if_neg h]

lemma grows_put (hfree : tree.hasFolder (.inside steps) = false) (node : FileNode) :
    tree.Grows (tree.put steps node) := by
  constructor
  · intro place hfolder
    have hne : place ≠ .inside steps := fun e => by rw [e, hfree] at hfolder; cases hfolder
    rwa [hasFolder, node?_put_of_ne hsteps node hne]
  · intro place hinUse
    rw [node?_put tree hsteps]
    split
    · rfl
    · exact hinUse

lemma file?_put_file (bytes : ByteArray) (place : Place) :
    (tree.put steps (.file bytes)).file? place =
      if place = .inside steps then some bytes else tree.file? place := by
  rw [file?, node?_put tree hsteps]
  by_cases h : place = .inside steps
  · rw [if_pos h, if_pos h]
  · rw [if_neg h, if_neg h]
    rfl

lemma hasFolder_put_file (hfree : tree.hasFolder (.inside steps) = false) (bytes : ByteArray)
    (place : Place) :
    (tree.put steps (.file bytes)).hasFolder place = tree.hasFolder place := by
  by_cases h : place = .inside steps
  · rw [h, hfree, hasFolder, tree.node?_put_self hsteps]
  · rw [hasFolder, node?_put_of_ne hsteps _ h]
    rfl

lemma file?_put_folder (hfree : tree.node? (.inside steps) = none) (place : Place) :
    (tree.put steps .folder).file? place = tree.file? place := by
  by_cases h : place = .inside steps
  · rw [h, file?, node?_put_self hsteps, file?, hfree]
  · rw [file?, node?_put_of_ne hsteps _ h]
    rfl

end Put

/-! ### Files that are written -/

/-- A file was written, and that is all. -/
structure Wrote (path : Path) (place : Place) (bytes : ByteArray) (tree after : FileTree) :
    Prop where
  grows : tree.Grows after
  leads : after.find path = .ok place
  file : ∀ other, after.file? other = if other = place then some bytes else tree.file? other
  folder : ∀ other, after.hasFolder other = tree.hasFolder other

/-- **Writing makes one file**, with the last name of the path in the folder in front of it. -/
theorem wrote_of_write {path : Path} {bytes : ByteArray} (h : tree.write path bytes = .ok after) :
    ∃ steps name, Ends tree path (.inside steps) name false ∧
      Wrote path (.inside (steps ++ [name])) bytes tree after := by
  obtain ⟨target, htarget, hput⟩ := bind_eq_ok.1 h
  rcases target with ⟨steps | _, name, _ | _⟩ | _
  · have hends := ends_of_target htarget
    have hsteps : steps ++ [name] ≠ [] := by simp
    dsimp only at hput
    split_ifs at hput with hfolder
    rw [Bool.not_eq_true] at hfolder
    cases hput
    have hgrows := grows_put hsteps hfolder (.file bytes)
    refine ⟨steps, name, hends, hgrows, ?_, file?_put_file hsteps bytes,
      hasFolder_put_file hsteps hfolder bytes⟩
    exact hends.find_eq hgrows (by rw [tree.node?_put_self hsteps]; rfl) nofun
  all_goals cases hput

/-! ### Folders that are made -/

/-- There are more folders, where these paths lead, and that is all. -/
structure MoreFolders (paths : Path → Prop) (tree after : FileTree) : Prop where
  grows : tree.Grows after
  file : ∀ place, after.file? place = tree.file? place
  folder : ∀ place, after.hasFolder place = true →
    tree.hasFolder place = true ∨ ∃ path, paths path ∧ after.find path = .ok place

section MoreFolders

variable {paths more : Path → Prop}

lemma MoreFolders.refl (tree : FileTree) : MoreFolders paths tree tree :=
  ⟨.refl tree, fun _ => rfl, fun _ => .inl⟩

lemma MoreFolders.trans (h : MoreFolders paths tree after) (hlast : MoreFolders paths after last) :
    MoreFolders paths tree last where
  grows := h.grows.trans hlast.grows
  file place := (hlast.file place).trans (h.file place)
  folder place hfolder := by
    rcases hlast.folder place hfolder with hafter | hmade
    · refine (h.folder place hafter).imp_right fun ⟨path, hpath, hfind⟩ => ?_
      exact ⟨path, hpath, hlast.grows.find hfind⟩
    · exact .inr hmade

lemma MoreFolders.mono (h : MoreFolders paths tree after) (hmore : ∀ path, paths path → more path) :
    MoreFolders more tree after :=
  ⟨h.grows, h.file, fun place hfolder => (h.folder place hfolder).imp_right
    fun ⟨path, hpath, hfind⟩ => ⟨path, hmore path hpath, hfind⟩⟩

end MoreFolders

theorem moreFolders_of_makeFolder {path : Path} (h : tree.makeFolder path = .ok after) :
    MoreFolders (· = path) tree after := by
  obtain ⟨target, htarget, hput⟩ := bind_eq_ok.1 h
  rcases target with ⟨steps | _, name, slashed⟩ | _
  · have hends := ends_of_target htarget
    have hsteps : steps ++ [name] ≠ [] := by simp
    dsimp only at hput
    split_ifs at hput with hinUse
    rw [Bool.not_eq_true, Option.isSome_eq_false_iff, Option.isNone_iff_eq_none] at hinUse
    cases hput
    have hfree : tree.hasFolder (.inside (steps ++ [name])) = false := by rw [hasFolder, hinUse]
    have hgrows := grows_put hsteps hfree .folder
    have hnode := tree.node?_put_self hsteps .folder
    refine ⟨hgrows, file?_put_folder hsteps hinUse, fun place hfolder => ?_⟩
    by_cases hplace : place = .inside (steps ++ [name])
    · refine .inr ⟨path, rfl, ?_⟩
      rw [hplace]
      exact hends.find_eq hgrows (by rw [hnode]; rfl) fun _ => by rw [hasFolder, hnode]
    · rw [hasFolder, node?_put_of_ne hsteps _ hplace] at hfolder
      exact .inl hfolder
  all_goals cases hput

/-- What is done to a tree makes folders where these paths lead, and that is all. -/
def OnlyMakes {α : Type} (paths : Path → Prop) (x : StateM FileTree α) : Prop :=
  ∀ tree, MoreFolders paths tree (x.run tree).2

section OnlyMakes

variable {α β : Type} {paths more : Path → Prop} {x : StateM FileTree α} {f : α → StateM FileTree β}

lemma onlyMakes_pure (a : α) : OnlyMakes paths (pure a : StateM FileTree α) :=
  fun tree => .refl tree

lemma OnlyMakes.bind (h : OnlyMakes paths x) (hf : ∀ a, OnlyMakes paths (f a)) :
    OnlyMakes paths (x >>= f) := by
  intro tree
  rw [StateT.run_bind]
  exact (h tree).trans (hf _ _)

lemma OnlyMakes.mono (h : OnlyMakes paths x) (hmore : ∀ path, paths path → more path) :
    OnlyMakes more x :=
  fun tree => (h tree).mono hmore

lemma onlyMakes_isFolder (path : Path) : OnlyMakes paths (disk.isFolder path) :=
  fun tree => .refl tree

lemma onlyMakes_makeFolder (path : Path) : OnlyMakes (· = path) (disk.makeFolder path) := by
  intro tree
  change MoreFolders _ tree (change (·.makeFolder path) tree).2
  rw [change]
  split
  · next h => exact moreFolders_of_makeFolder h
  · exact .refl tree

lemma onlyMakes_ensureFolder (path : Path) : OnlyMakes (· = path) (disk.ensureFolder path) := by
  refine (onlyMakes_makeFolder path).bind fun made => ?_
  split
  · exact onlyMakes_pure _
  · refine (onlyMakes_isFolder path).bind fun isFolder => ?_
    split <;> exact onlyMakes_pure _

end OnlyMakes

end FileTree

/-- A path, the path without its last step, and so on. -/
inductive Path.Ancestor : Path → Path → Prop where
  | self (path : Path) : Ancestor path path
  | parent {path parent ancestor : Path} (hparent : path.parent? = some parent)
      (h : Ancestor parent ancestor) : Ancestor path ancestor

namespace FileTree

lemma onlyMakes_makeFoldersWithin (fuel : Nat) (path : Path) :
    OnlyMakes path.Ancestor (disk.makeFoldersWithin fuel path) := by
  have hensure (path : Path) : OnlyMakes path.Ancestor (disk.ensureFolder path) :=
    (onlyMakes_ensureFolder path).mono fun _ h => h ▸ .self path
  induction fuel generalizing path with
  | zero => exact onlyMakes_pure _
  | succ fuel ih =>
    rw [Disk.makeFoldersWithin]
    split_ifs
    · exact onlyMakes_pure _
    · refine (hensure path).bind fun made => ?_
      split
      · next parent hparent =>
        refine ((ih parent).mono fun _ => .parent hparent).bind fun made => ?_
        split
        · exact hensure path
        · exact onlyMakes_pure _
      · exact onlyMakes_pure _

/-- **Making a folder and those above it changes no file**, whether it comes to an end or fails on
the way. -/
theorem onlyMakes_makeFolders (path : Path) : OnlyMakes path.Ancestor (disk.makeFolders path) :=
  onlyMakes_makeFoldersWithin _ path

end FileTree

end Pressroom
