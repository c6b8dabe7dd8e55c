import Pressroom.Inline.PublicFolder
import Pressroom.Proofs.Files.Clean

/-!
Public URLs. The first folder that a clean path leads through serves the file, and what the URL says
behind the name of the folder never leads out of it. It is what stands behind the folder in the path
unless the name of the folder, with a slash behind it, stands further to the front already: then the
cut is made there, be it in the middle of a segment.
-/

namespace Pressroom.Inline

open Text Pressroom.Path

namespace PublicFolder

/-- The path leads through the folder: its name stands between slashes. -/
def Leads (served : PublicFolder) (path : Path) : Prop :=
  '/' :: served.folder.toList ++ ['/'] <:+: path.text

variable {served : PublicFolder} {path : Path}

lemma rest?_eq_none_iff : served.rest? path = none ↔ ¬ served.Leads path := by
  rw [Leads, ← occursIn_iff, rest?]
  cases hoccurs : occursIn ('/' :: served.folder.toList ++ ['/']) path.text with
  | false => simp
  | true =>
    have hname : served.folder.toList ++ ['/'] <:+: path.text :=
      (List.suffix_cons _ _).isInfix.trans (occursIn_iff.1 hoccurs)
    obtain ⟨before, rest, hcut⟩ := exists_cut?_of_infix hname
    simp [hcut]

lemma rest?_eq_some_iff {rest : List Char} :
    served.rest? path = some rest ↔ served.Leads path ∧
      ∃ before, path.text = before ++ (served.folder.toList ++ '/' :: rest) ∧
        ∀ a b, path.text = a ++ (served.folder.toList ++ '/' :: b) → before.length ≤ a.length := by
  by_cases hleads : served.Leads path
  · rw [rest?, if_pos (occursIn_iff.2 hleads)]
    simp [hleads, cut?_eq_some_iff]
  · simp [rest?_eq_none_iff.2 hleads, hleads]

end PublicFolder

section

variable {base : String} {folders : List PublicFolder} {path : Path}

/-- Whether a path leads through a folder can be told. -/
instance (served : PublicFolder) (path : Path) : Decidable (served.Leads path) :=
  inferInstanceAs (Decidable (_ <:+: _))

lemma findSome?_of_none (hnone : ∀ served ∈ folders, ¬ served.Leads path) :
    folders.findSome? (fun served => (served.rest? path).map fun rest => (served, rest)) =
      none := by
  rw [List.findSome?_eq_none_iff]
  intro served hserved
  rw [PublicFolder.rest?_eq_none_iff.2 (hnone served hserved), Option.map_none]

lemma exists_rest {served : PublicFolder} (h : served.Leads path) :
    ∃ rest, served.rest? path = some rest :=
  Option.ne_none_iff_exists'.1 fun hnone => PublicFolder.rest?_eq_none_iff.1 hnone h

lemma publicUrl_of_none (hnone : ∀ served ∈ folders, ¬ served.Leads path.clean) :
    publicUrl base folders path = .error (.notPublic path.clean) := by
  rw [publicUrl, findSome?_of_none hnone]

lemma publicUrl_of_leads {before after : List PublicFolder} {served : PublicFolder}
    {rest : List Char} (hbefore : ∀ other ∈ before, ¬ other.Leads path.clean)
    (hrest : served.rest? path.clean = some rest) :
    publicUrl base (before ++ served :: after) path =
      .ok (trimSlashes base.toList ++ '/' :: served.remote.toList ++ '/' :: rest) := by
  rw [publicUrl, List.findSome?_append, findSome?_of_none hbefore]
  simp [hrest]

lemma exists_first_leads (h : ∃ served ∈ folders, served.Leads path) :
    ∃ before served after, folders = before ++ served :: after ∧
      (∀ other ∈ before, ¬ other.Leads path) ∧ served.Leads path := by
  induction folders with
  | nil => simp at h
  | cons served folders ih =>
    by_cases hserved : served.Leads path
    · exact ⟨[], served, folders, rfl, nofun, hserved⟩
    · obtain ⟨other, hother, hleads⟩ := h
      rcases List.mem_cons.1 hother with rfl | hother
      · exact absurd hleads hserved
      · obtain ⟨before, first, after, rfl, hbefore, hfirst⟩ := ih ⟨other, hother, hleads⟩
        exact ⟨served :: before, first, after, rfl,
          List.forall_mem_cons.2 ⟨hserved, hbefore⟩, hfirst⟩

lemma goes_down_behind {front rest : List Char} (h : path.clean.text = front ++ '/' :: rest) :
    ∀ s ∈ segments ⟨rest⟩, s ≠ here ∧ s ≠ up := by
  intro s hs
  have hsplit : path.clean.segments = segments ⟨front⟩ ++ segments ⟨rest⟩ := by
    rw [← segments_append, ← h]
  have hmem : s ∈ path.clean.segments := by
    rw [hsplit]
    exact List.mem_append_right _ hs
  exact goes_down_of_mem_clean hmem

lemma exists_served (h : ∃ served ∈ folders, served.Leads path.clean) :
    ∃ before served after front rest, folders = before ++ served :: after ∧
      (∀ other ∈ before, ¬ other.Leads path.clean) ∧ served.Leads path.clean ∧
      publicUrl base folders path =
        .ok (trimSlashes base.toList ++ '/' :: served.remote.toList ++ '/' :: rest) ∧
      path.clean.text = front ++ '/' :: rest := by
  obtain ⟨before, served, after, rfl, hbefore, hleads⟩ := exists_first_leads h
  obtain ⟨rest, hrest⟩ := exists_rest hleads
  obtain ⟨-, front, htext, -⟩ := PublicFolder.rest?_eq_some_iff.1 hrest
  refine ⟨before, served, after, front ++ served.folder.toList, rest, rfl, hbefore, hleads,
    publicUrl_of_leads hbefore hrest, ?_⟩
  rw [htext, List.append_assoc]

/-- **Public URLs stay in the first folder that serves the file.** There is no URL just when the
clean path leads through none of the folders. Otherwise the first one that it leads through serves
the file, and behind its name the URL goes on with an end of the clean path that starts behind a
slash and has no segment that stays or goes up. -/
theorem publicUrl_stays_inside (base : String) (folders : List PublicFolder) (path : Path) :
    (publicUrl base folders path = .error (.notPublic path.clean) ↔
      ∀ served ∈ folders, ¬ served.Leads path.clean) ∧
    ((∃ served ∈ folders, served.Leads path.clean) →
      ∃ before served after front rest, folders = before ++ served :: after ∧
        (∀ other ∈ before, ¬ other.Leads path.clean) ∧ served.Leads path.clean ∧
        publicUrl base folders path =
          .ok (trimSlashes base.toList ++ '/' :: served.remote.toList ++ '/' :: rest) ∧
        path.clean.text = front ++ '/' :: rest ∧
        ∀ s ∈ segments ⟨rest⟩, s ≠ here ∧ s ≠ up) := by
  refine ⟨⟨fun herror served hserved hleads => ?_, publicUrl_of_none⟩, fun h => ?_⟩
  · obtain ⟨_, _, _, _, _, _, _, _, hok, _⟩ := exists_served ⟨served, hserved, hleads⟩
    rw [herror] at hok
    cases hok
  · obtain ⟨before, served, after, front, rest, hfolders, hbefore, hleads, hok, htext⟩ :=
      exists_served h
    exact ⟨before, served, after, front, rest, hfolders, hbefore, hleads, hok, htext,
      goes_down_behind htext⟩

/-- **The URL goes on with what stands behind the folder** just when the name of the folder does not
end a segment further to the front. -/
theorem publicUrl_behind_folder_iff {before after : List PublicFolder} {served : PublicFolder}
    {front rest : List Char} (hbefore : ∀ other ∈ before, ¬ other.Leads path.clean)
    (htext : path.clean.text = front ++ '/' :: (served.folder.toList ++ '/' :: rest)) :
    publicUrl base (before ++ served :: after) path =
        .ok (trimSlashes base.toList ++ '/' :: served.remote.toList ++ '/' :: rest) ↔
      ∀ a b, path.clean.text = a ++ (served.folder.toList ++ '/' :: b) →
        front.length < a.length := by
  have hleads : served.Leads path.clean := ⟨front, rest, by simp [htext]⟩
  obtain ⟨found, hfound⟩ := exists_rest hleads
  obtain ⟨-, cut, hcut, hfirst⟩ := PublicFolder.rest?_eq_some_iff.1 hfound
  have htext' : path.clean.text = (front ++ ['/']) ++ (served.folder.toList ++ '/' :: rest) := by
    simp [htext]
  rw [publicUrl_of_leads hbefore hfound]
  simp only [Except.ok.injEq, List.append_cancel_left_eq, List.cons.injEq, true_and]
  constructor
  · rintro rfl a b hab
    have hlength := congrArg List.length (hcut.symm.trans htext')
    have hle := hfirst a b hab
    simp at hlength
    omega
  · intro h
    -- the first place is neither in front of this one nor behind it
    have hlt := h cut found hcut
    have hle := hfirst (front ++ ['/']) rest htext'
    have hlength : cut.length = (front ++ ['/']).length := by
      simp at hle ⊢
      omega
    have hsame := List.append_inj_right (hcut.symm.trans htext') hlength
    simpa using hsame

end

/-- A folder whose name comes again further back in the path, behind one that does not serve it. -/
theorem publicUrl_behind_folder_again :
    (∀ a b, (Path.ofString "/srv/app/public/img/public/a.png").clean.text =
      a ++ ("public".toList ++ '/' :: b) → "/srv/app".length < a.length) ∧
    publicUrl "http://h/" [⟨"img/private", "p"⟩, ⟨"public", "files"⟩]
      (.ofString "/srv/app/public/img/public/a.png") =
        .ok "http://h/files/img/public/a.png".toList := by
  have hurl : publicUrl "http://h/" ([⟨"img/private", "p"⟩] ++ [⟨"public", "files"⟩])
      (.ofString "/srv/app/public/img/public/a.png") =
        .ok "http://h/files/img/public/a.png".toList := by decide +kernel
  have hbefore : ∀ other ∈ [PublicFolder.mk "img/private" "p"],
      ¬ other.Leads (Path.ofString "/srv/app/public/img/public/a.png").clean := by decide +kernel
  have htext : (Path.ofString "/srv/app/public/img/public/a.png").clean.text =
      "/srv/app".toList ++ '/' :: ((PublicFolder.mk "public" "files").folder.toList ++
        '/' :: "img/public/a.png".toList) := by decide +kernel
  exact ⟨(publicUrl_behind_folder_iff hbefore htext).1 hurl, hurl⟩

/-- The path leads through the folder, but the URL goes on behind the end of another segment. -/
theorem publicUrl_inside_segment :
    (Path.ofString "notpublic/public/x.png").clean.text =
        "notpublic".toList ++ ("/public/".toList ++ "x.png".toList) ∧
      (∀ a b, "notpublic/public/x.png".toList = a ++ ("/public/".toList ++ b) →
        "notpublic".length ≤ a.length) ∧
      publicUrl "http://h/" [⟨"public", "files"⟩] (.ofString "notpublic/public/x.png") =
        .ok "http://h/files/public/x.png".toList := by
  have hcut : cut? "/public/".toList "notpublic/public/x.png".toList =
      some ("notpublic".toList, "x.png".toList) := by decide +kernel
  refine ⟨by decide +kernel, fun a b hab => ?_, by decide +kernel⟩
  exact (cut?_eq_some_iff.1 hcut).2 a b (by rw [hab, List.append_assoc])

end Pressroom.Inline
