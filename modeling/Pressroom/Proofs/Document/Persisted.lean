import Pressroom.Document.Archive
import Pressroom.Proofs.Files.Plain

/-!
Blobs that are kept in a folder of a tree. They are written one after the other, so that of several
blobs with one name the last one stays. Main statement: each blob that was written is read back at
its path and no other file has changed; or the folder cannot be made or a blob cannot be written,
and then this is so for the blobs in front of it.
-/

namespace Pressroom

open Pressroom.Path (IsPlain)

namespace Blob

/-- The last blob with a name has these data. -/
def Latest (blobs : List Blob) (name : String) (data : ByteArray) : Prop :=
  ∃ before rest, blobs = before ++ ⟨name, data⟩ :: rest ∧ ∀ later ∈ rest, later.name ≠ name

/-- The tree with blobs kept in a folder of it: each of them is in the place that the folder leads
to, and what is read there are the last data with its name. Files that the paths of the blobs do not
lead to are as they were, nothing is gone, and new folders are only on the way. -/
structure Persisted (tree : FileTree) (folder : Path) (blobs : List Blob) (after : FileTree) :
    Prop where
  grows : tree.Grows after
  inside : ∀ blob ∈ blobs, ∃ steps, after.landing folder = .ok (.inside steps) ∧
    after.find (folder / .ofString blob.name) = .ok (.inside (steps ++ [blob.name.toList]))
  reads_back : ∀ blob ∈ blobs, ∃ data, Latest blobs blob.name data ∧
    after.read (folder / .ofString blob.name) = .ok data
  file : ∀ place, (∀ blob ∈ blobs, after.find (folder / .ofString blob.name) ≠ .ok place) →
    after.file? place = tree.file? place
  folder : ∀ place, after.hasFolder place = true →
    tree.hasFolder place = true ∨ ∃ path, folder.Ancestor path ∧ after.find path = .ok place

section Persisted

variable {tree made after : FileTree} {folder : Path} {blob : Blob} {blobs : List Blob}
  {steps : List Path.Segment}

lemma Latest.cons {name : String} {data : ByteArray} (h : Latest blobs name data) (blob : Blob) :
    Latest (blob :: blobs) name data := by
  obtain ⟨before, rest, rfl, hrest⟩ := h
  exact ⟨blob :: before, rest, rfl, hrest⟩

lemma persisted_nil (h : FileTree.MoreFolders folder.Ancestor tree after) :
    Persisted tree folder [] after where
  grows := h.grows
  inside := nofun
  reads_back := nofun
  file place _ := h.file place
  folder := h.folder

lemma Persisted.of_moreFolders (h : Persisted made folder blobs after)
    (hmade : FileTree.MoreFolders folder.Ancestor tree made) :
    Persisted tree folder blobs after where
  grows := hmade.grows.trans h.grows
  inside := h.inside
  reads_back := h.reads_back
  file place hplace := (h.file place hplace).trans (hmade.file place)
  folder place hfolder := by
    rcases h.folder place hfolder with hplace | hway
    · refine (hmade.folder place hplace).imp_right fun ⟨path, hpath, hfind⟩ => ?_
      exact ⟨path, hpath, h.grows.find hfind⟩
    · exact .inr hway

lemma Persisted.leads_elsewhere (h : Persisted tree folder blobs after) {name : String}
    (hnone : ∀ blob ∈ blobs, blob.name ≠ name) :
    ∀ blob ∈ blobs,
      after.find (folder / .ofString blob.name) ≠ .ok (.inside (steps ++ [name.toList])) := by
  intro blob hblob hfind
  obtain ⟨others, -, hleads⟩ := h.inside blob hblob
  rw [hleads] at hfind
  have hsame := Place.inside.inj (Except.ok.inj hfind)
  have hname := List.head_eq_of_cons_eq (List.append_inj' hsame rfl).2
  exact hnone blob hblob (String.toList_inj.1 hname)

/-- **One blob is written in front of the others.** Its data are read unless there is another one
with its name. -/
lemma Persisted.cons (hlanding : tree.landing folder = .ok (.inside steps))
    (hwrote : FileTree.Wrote (folder / .ofString blob.name) (.inside (steps ++ [blob.name.toList]))
      blob.data tree made)
    (h : Persisted made folder blobs after) : Persisted tree folder (blob :: blobs) after := by
  have hgrows := hwrote.grows.trans h.grows
  have hleads := h.grows.find hwrote.leads
  refine ⟨hgrows, ?_, ?_, ?_, ?_⟩
  · intro other hother
    rcases List.mem_cons.1 hother with rfl | hother
    · exact ⟨steps, hgrows.landing hlanding, hleads⟩
    · exact h.inside other hother
  · intro other hother
    rcases List.mem_cons.1 hother with rfl | hother
    · by_cases hagain : ∃ later ∈ blobs, later.name = other.name
      · obtain ⟨later, hlater, hname⟩ := hagain
        obtain ⟨data, hlatest, hread⟩ := h.reads_back later hlater
        rw [hname] at hlatest hread
        exact ⟨data, hlatest.cons other, hread⟩
      · have hlast (later : Blob) (hlater : later ∈ blobs) : later.name ≠ other.name :=
          fun hname => hagain ⟨later, hlater, hname⟩
        refine ⟨other.data, ⟨[], blobs, rfl, hlast⟩, ?_⟩
        rw [FileTree.read_eq_ok_iff]
        refine ⟨_, hleads, ?_⟩
        rw [h.file _ (h.leads_elsewhere hlast), hwrote.file, if_pos rfl]
    · obtain ⟨data, hlatest, hread⟩ := h.reads_back other hother
      exact ⟨data, hlatest.cons blob, hread⟩
  · intro place hplace
    obtain ⟨hself, hothers⟩ := List.forall_mem_cons.1 hplace
    rw [h.file place hothers, hwrote.file, if_neg]
    rintro rfl
    exact hself hleads
  · intro place hfolder
    rw [← hwrote.folder]
    exact h.folder place hfolder

lemma Persisted.changed_inside (h : Persisted tree folder blobs after) {place : Place}
    (hchanged : after.file? place ≠ tree.file? place) :
    ∃ steps, ∃ blob ∈ blobs, after.landing folder = .ok (.inside steps) ∧
      place = .inside (steps ++ [blob.name.toList]) := by
  by_contra hnone
  refine hchanged (h.file place fun blob hblob hfind => hnone ?_)
  obtain ⟨steps, hlanding, hleads⟩ := h.inside blob hblob
  rw [hleads] at hfind
  exact ⟨steps, blob, hblob, hlanding, (Except.ok.inj hfind).symm⟩

end Persisted

/-! ### Runs -/

def paths (folder : Path) (blobs : List Blob) : List Path :=
  blobs.map fun blob => folder / .ofString blob.name

/-- What comes of writing blobs into a folder: all of them are kept, or those in front of one that
cannot be written. -/
inductive Written (tree : FileTree) (folder : Path) (blobs : List Blob) :
    Except FileFault (List Path) × FileTree → Prop where
  | all {after : FileTree} (h : Persisted tree folder blobs after) :
      Written tree folder blobs (.ok (paths folder blobs), after)
  | before {written rest : List Blob} {failing : Blob} {fault : FileFault} {after : FileTree}
      (hblobs : blobs = written ++ failing :: rest) (h : Persisted tree folder written after)
      (hfault : after.write (folder / .ofString failing.name) failing.data = .error fault) :
      Written tree folder blobs (.error fault, after)

section Runs

variable {blobs : List Blob}

lemma run_writeAll_nil (tree : FileTree) (folder : Path) :
    (writeAll FileTree.disk folder []).run tree = (.ok [], tree) := rfl

lemma run_writeAll_cons (tree : FileTree) (folder : Path) (blob : Blob) (blobs : List Blob) :
    (writeAll FileTree.disk folder (blob :: blobs)).run tree =
      match tree.write (folder / .ofString blob.name) blob.data with
      | .error fault => (.error fault, tree)
      | .ok made =>
        let (answer, after) := (writeAll FileTree.disk folder blobs).run made
        (answer.map (folder / .ofString blob.name :: ·), after) := by
  have hwrite : (FileTree.disk.write (folder / .ofString blob.name) blob.data).run tree =
      FileTree.change (·.write (folder / .ofString blob.name) blob.data) tree := rfl
  rw [writeAll, StateT.run_bind, hwrite, FileTree.change]
  cases tree.write (folder / .ofString blob.name) blob.data <;> rfl

lemma written_writeAll (hplain : ∀ blob ∈ blobs, IsPlain blob.name.toList) (folder : Path)
    (tree : FileTree) :
    Written tree folder blobs ((writeAll FileTree.disk folder blobs).run tree) := by
  induction blobs generalizing tree with
  | nil =>
    rw [run_writeAll_nil]
    exact .all (persisted_nil (.refl tree))
  | cons blob blobs ih =>
    obtain ⟨hname, hnames⟩ := List.forall_mem_cons.1 hplain
    cases hwrite : tree.write (folder / .ofString blob.name) blob.data with
    | error fault =>
      rw [run_writeAll_cons, hwrite]
      exact .before rfl (persisted_nil (.refl tree)) hwrite
    | ok made =>
      obtain ⟨steps, hlanding, hwrote⟩ := FileTree.wrote_of_write_plain hname hwrite
      have hrest := ih hnames made
      rw [run_writeAll_cons, hwrite]
      dsimp only
      generalize (writeAll FileTree.disk folder blobs).run made = ran at hrest
      cases hrest with
      | all h => exact .all (h.cons hlanding hwrote)
      | before hblobs h hfault =>
        exact .before (congrArg (blob :: ·) hblobs) (h.cons hlanding hwrote) hfault

lemma run_persist (tree : FileTree) (folder : Path) (blobs : List Blob) :
    (persist FileTree.disk folder blobs).run tree =
      match (FileTree.disk.makeFolders folder).run tree with
      | (.error fault, made) => (.error fault, made)
      | (.ok (), made) => (writeAll FileTree.disk folder blobs).run made := by
  rw [persist, StateT.run_bind]
  rcases (FileTree.disk.makeFolders folder).run tree with ⟨_ | ⟨⟩, made⟩ <;> rfl

/-- **Keeping blobs writes what it tells and nothing else.** If it comes to an end, the answer is
the path of each blob in the folder, in order, and the blobs are kept. If it fails, those are kept
that were written so far: none if the folder could not be made, and else those in front of the one
that could not be written, which the fault is about. Only their files have changed, all of them in
the folder. -/
theorem persist_writes (hplain : ∀ blob ∈ blobs, IsPlain blob.name.toList) (folder : Path)
    (tree : FileTree) :
    (∀ answer after, (persist FileTree.disk folder blobs).run tree = (.ok answer, after) →
      answer = paths folder blobs ∧ Persisted tree folder blobs after) ∧
    ∀ fault after, (persist FileTree.disk folder blobs).run tree = (.error fault, after) →
      ∃ written, Persisted tree folder written after ∧
        ((written = [] ∧ (FileTree.disk.makeFolders folder).run tree = (.error fault, after)) ∨
          ∃ failing rest, blobs = written ++ failing :: rest ∧
            after.write (folder / .ofString failing.name) failing.data = .error fault) ∧
        ∀ place, after.file? place ≠ tree.file? place →
          ∃ steps, ∃ blob ∈ written, after.landing folder = .ok (.inside steps) ∧
            place = .inside (steps ++ [blob.name.toList]) := by
  have hmakes := FileTree.onlyMakes_makeFolders folder tree
  rw [run_persist]
  generalize (FileTree.disk.makeFolders folder).run tree = ran at hmakes ⊢
  rcases ran with ⟨_ | ⟨⟩, made⟩
  · refine ⟨nofun, fun fault after h => ?_⟩
    cases h
    have hkept := persisted_nil hmakes
    exact ⟨[], hkept, .inl ⟨rfl, rfl⟩, fun place => hkept.changed_inside⟩
  · have hwritten := written_writeAll hplain folder made
    refine ⟨fun answer after h => ?_, fun fault after h => ?_⟩
    · dsimp only at h
      rw [h] at hwritten
      cases hwritten with
      | all hkept => exact ⟨rfl, hkept.of_moreFolders hmakes⟩
    · dsimp only at h
      rw [h] at hwritten
      cases hwritten with
      | before hblobs hkept hfault =>
        have hkept := hkept.of_moreFolders hmakes
        exact ⟨_, hkept, .inr ⟨_, _, hblobs, hfault⟩, fun place => hkept.changed_inside⟩

/-- Two blobs with one name, and one with another name between them. -/
def repeated : List Blob :=
  [.ofText "a.txt" "1", .ofText "b.txt" "2", .ofText "a.txt" "3"]

/-- A file, and a folder that has the name of a blob. -/
def blocked : FileTree :=
  .ofContents [(.ofString "kept.txt", some "0".toUTF8), (.ofString "out/b.txt", none)]

/-- In a new folder all blobs are kept; where the name of one is a folder, those in front of it. -/
theorem persist_writes_repeated :
    (∃ after, (persist FileTree.disk (.ofString "new/in") repeated).run blocked =
        (.ok (["new/in/a.txt", "new/in/b.txt", "new/in/a.txt"].map .ofString), after) ∧
      Persisted blocked (.ofString "new/in") repeated after) ∧
    ∃ after, (persist FileTree.disk (.ofString "out") repeated).run blocked =
        (.error .isFolder, after) ∧
      ∃ written, Persisted blocked (.ofString "out") written after ∧
        ∃ failing rest, repeated = written ++ failing :: rest ∧
          after.write (.ofString "out" / .ofString failing.name) failing.data =
            .error .isFolder := by
  have hplain : ∀ blob ∈ repeated, IsPlain blob.name.toList := by decide +kernel
  have hkept : ((persist FileTree.disk (.ofString "new/in") repeated).run blocked).1 =
      .ok (["new/in/a.txt", "new/in/b.txt", "new/in/a.txt"].map .ofString) := by decide +kernel
  have hfails : ((persist FileTree.disk (.ofString "out") repeated).run blocked).1 =
      .error .isFolder := by decide +kernel
  refine ⟨⟨_, Prod.ext hkept rfl, ((persist_writes hplain _ _).1 _ _ (Prod.ext hkept rfl)).2⟩,
    ⟨_, Prod.ext hfails rfl, ?_⟩⟩
  obtain ⟨written, hwritten, hnone | hsome, -⟩ :=
    (persist_writes hplain _ _).2 _ _ (Prod.ext hfails rfl)
  · have hfolder : ((FileTree.disk.makeFolders (.ofString "out")).run blocked).1 = .ok () := by
      decide +kernel
    rw [hnone.2] at hfolder
    cases hfolder
  · exact ⟨written, hwritten, hsome⟩

end Runs

end Blob

end Pressroom
