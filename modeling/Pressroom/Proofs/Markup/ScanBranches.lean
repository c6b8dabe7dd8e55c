import Pressroom.Proofs.Markup.Branches
import Pressroom.Proofs.Markup.Finding

/-!
The branches of a conditional by offsets. The scanner looks for the next `else-if` and for the next
`else` in all of the markup that is left and drops what goes beyond the end of the conditional; the
reader only sees the conditional. They find the same branches, because a match that stays inside is
one whatever stands behind the end.
-/

namespace Pressroom.Markup

open Text Scan

lemma find_close {d : Dialect} {id text more tail rest : List Char} {opened stop : Nat}
    (hid : IsId id) (hopen : (d.elseIfOpen id).strip? (more ++ tail) = some rest)
    (h : At text opened rest) (hstop : At text stop tail) :
    ∃ o, attempt (find text d.elseIfClose opened) = found (some o) ∧
      match elseIf? d id more with
      | none => o.filter (·.2 ≤ stop) = none
      | some (next, behind) => ∃ close closed, o.filter (·.2 ≤ stop) = some (close, closed) ∧
          slice? text opened close = some next ∧ At text closed (behind ++ tail) := by
  have hmem : d.elseIfClose ∈ d.markers id := by simp [Dialect.markers]
  have hclosed := Dialect.closed_of_mem_markers hmem
  have hled := Dialect.led_of_mem_markers hmem
  have hplain := plain_of_mem_markers hid hmem
  have hopenMem : d.elseIfOpen id ∈ d.markers id := by simp [Dialect.markers]
  have hopenClosed := Dialect.closed_of_mem_markers hopenMem
  by_cases hin : tail <:+ rest
  · obtain ⟨middle, rfl⟩ := hin
    have hopen := (Marker.strip?_append_iff hopenClosed).1 hopen
    have heq : elseIf? d id more = d.elseIfClose.cut? middle := by
      rw [elseIf?, hopen]
      rfl
    obtain ⟨o, ho, hcut⟩ := find_within hplain hclosed hled h hstop
    refine ⟨o, ho, ?_⟩
    rw [heq]
    cases hc : d.elseIfClose.cut? middle with
    | none => rwa [hc] at hcut
    | some x =>
      obtain ⟨next, behind⟩ := x
      rw [hc] at hcut
      obtain ⟨closed, hf, hat⟩ := hcut
      obtain ⟨end', rfl, -⟩ := Marker.cut?_eq_some_iff.1 hc
      rw [List.append_assoc] at h
      exact ⟨opened + size next, closed, hf, h.slice?_eq h.forward, hat⟩
  · -- the marker goes on behind the place, and so does its end
    have hnone : elseIf? d id more = none := by
      cases hs : (d.elseIfOpen id).strip? more with
      | none => rw [elseIf?, hs]; rfl
      | some r =>
        have hr : (d.elseIfOpen id).strip? (more ++ tail) = some (r ++ tail) :=
          (Marker.strip?_append_iff hopenClosed).2 hs
        rw [hopen, Option.some.injEq] at hr
        exact absurd ⟨r, hr.symm⟩ hin
    have hfind := find_finds hplain hled h
    rw [hnone]
    cases hcut : d.elseIfClose.cut? rest with
    | none =>
      rw [hcut] at hfind
      exact ⟨none, by rw [show find text d.elseIfClose opened = found none from hfind]; rfl, rfl⟩
    | some x =>
      rw [hcut] at hfind
      obtain ⟨closed, hc, hat⟩ := hfind
      refine ⟨some (opened + size x.1, closed), by rw [hc]; rfl, ?_⟩
      have hlt : stop < closed := by
        by_contra hle
        rw [not_lt] at hle
        exact hin (((hat.le_iff hstop).1 hle).trans (Marker.cut?_suffix hcut))
      simp [hlt]

section

variable {d : Dialect} {id condition body : List Char}

lemma branches_to_end {chain : List Char} (more : List Char)
    (ho : (d.elseIfOpen id).Silent chain more) (he : (d.elseMarker id).cut? chain = none) :
    branches d id condition body chain = ([⟨condition, body.reverse ++ chain⟩], none) := by
  have hquiet : Quiet d id chain [] := quiet_of_silent more ho (Marker.cut?_eq_none_iff.1 he)
  have hbranches : branches d id condition body (chain ++ []) =
      branches d id condition (chain.reverse ++ body) [] := branches_append hquiet
  rw [List.append_nil] at hbranches
  rw [hbranches, branches]
  simp

lemma branches_to_else {before behind after : List Char} (hid : IsId id) (more : List Char)
    (hs : (d.elseMarker id).strip? behind = some after)
    (he : (d.elseMarker id).Silent before behind)
    (ho : (d.elseIfOpen id).Silent before (behind ++ more)) :
    branches d id condition body (before ++ behind) =
      ([⟨condition, body.reverse ++ before⟩], some after) := by
  have hnone : elseIf? d id behind = none := by
    rw [elseIf?, elseIfOpen_of_else hid hs]
    rfl
  rw [branches_append (quiet_of_silent more ho he), branches_of_else hnone hs]
  simp

lemma branches_past {before more : List Char} {c : Char}
    (hquiet : Quiet d id before (c :: more)) (h : elseIf? d id (c :: more) = none)
    (he : (d.elseMarker id).strip? (c :: more) = none) :
    branches d id condition body (before ++ c :: more) =
      branches d id condition (c :: (before.reverse ++ body)) more := by
  have hone : Quiet d id [c] more :=
    ⟨misses_cons.2 ⟨h, misses_nil more⟩, misses_cons.2 ⟨he, misses_nil more⟩⟩
  rw [branches_append hquiet]
  exact branches_append hone

end

lemma slice?_body {text body before behind : List Char} {start search : Nat}
    (hstart : At text start (body ++ (before ++ behind)))
    (hsearch : At text search (before ++ behind)) :
    slice? text start (search + size before) = some (body ++ before) := by
  rw [← List.append_assoc] at hstart
  exact hstart.slice?_eq hsearch.forward

/-! ### Turns of the loop -/

section

variable {text : List Char} {d : Dialect} {id condition body tail : List Char}
  {stop start search : Nat} {o e : Option (Nat × Nat)}
  (ho : attempt (find text (d.elseIfOpen id) search) = found (some o))
  (he : attempt (find text (d.elseMarker id) search) = found (some e))

include ho he

lemma scanBranches_to_end {chain : List Char} (hstop : At text stop tail)
    (hstart : At text start (body.reverse ++ (chain ++ tail)))
    (hopen : (d.elseIfOpen id).Silent chain tail) (hnone : o.filter (·.1 < stop) = none)
    (helse : (d.elseMarker id).cut? chain = none) (hno : e.filter (·.2 ≤ stop) = none) :
    scanBranches text d id stop condition start search =
      found (some (branches d id condition body chain)) := by
  have hslice : slice? text start stop = some (body.reverse ++ chain) :=
    At.slice?_eq (by rwa [List.append_assoc]) hstop
  rw [scanBranches, ho, found_bind, he, found_bind, hnone, hno]
  simp [hslice, branches_to_end tail hopen helse, pure_eq]

lemma scanBranches_to_else {before behind after : List Char} {closed : Nat} (hid : IsId id)
    (hstop : At text stop tail)
    (hstart : At text start (body.reverse ++ (before ++ (behind ++ tail))))
    (hsearch : At text search (before ++ (behind ++ tail)))
    (hclosed : At text closed (after ++ tail))
    (hopen : (d.elseIfOpen id).Silent before (behind ++ tail))
    (hlater : ∀ x ∈ o.filter (·.1 < stop), ¬ x.1 < search + size before)
    (hstrip : (d.elseMarker id).strip? behind = some after)
    (hsilent : (d.elseMarker id).Silent before behind)
    (hfirst : e.filter (·.2 ≤ stop) = some (search + size before, closed)) :
    scanBranches text d id stop condition start search =
      found (some (branches d id condition body (before ++ behind))) := by
  have hnone : (o.filter (·.1 < stop)).filter (fun x => decide (x.1 < search + size before)) =
      none := by
    rw [Option.filter_eq_none_iff]
    exact fun x hx => by simpa using hlater x hx
  rw [scanBranches, ho, found_bind, he, found_bind, hfirst]
  simp only [Option.all_some, hnone, slice?_body hstart hsearch, hclosed.slice?_eq hstop,
    branches_to_else hid tail hstrip hsilent hopen]
  rfl

variable {pos opened : Nat} {c : Option (Nat × Nat)}
  (hsome : o.filter (·.1 < stop) = some (pos, opened))
  (hfirst : (e.filter (·.2 ≤ stop)).all (fun x => pos < x.1) = true)
  (hc : attempt (find text d.elseIfClose opened) = found (some c))

include hsome hfirst hc

lemma scanBranches_to_elseIf {close closed : Nat} {others : List Branch}
    {otherwise : Option (List Char)} {body next : List Char}
    (hclose : c.filter (·.2 ≤ stop) = some (close, closed))
    (hbody : slice? text start pos = some body) (hnext : slice? text opened close = some next)
    (hforward : search < closed) (hinside : closed ≤ size text)
    (hrest : scanBranches text d id stop next closed closed = found (some (others, otherwise))) :
    scanBranches text d id stop condition start search =
      found (some (⟨condition, body⟩ :: others, otherwise)) := by
  rw [scanBranches, ho, found_bind, he, found_bind, hsome]
  simp only [Option.filter_some, hfirst, if_true, hc, found_bind, hclose]
  simp [hbody, hnext, hforward, hinside, hrest, pure_eq]

lemma scanBranches_past (hclose : c.filter (·.2 ≤ stop) = none) (hforward : search < pos + 1)
    (hinside : pos + 1 ≤ size text) :
    scanBranches text d id stop condition start search =
      scanBranches text d id stop condition start (pos + 1) := by
  rw [scanBranches, ho, found_bind, he, found_bind, hsome]
  simp only [Option.filter_some, hfirst, if_true, hc, found_bind, hclose, hforward, hinside,
    and_self, dite_true]

end

lemma find_else {text : List Char} {d : Dialect} {id : List Char} (hid : IsId id)
    {stop search : Nat} {chain tail : List Char} (hstop : At text stop tail)
    (hsearch : At text search (chain ++ tail)) :
    ∃ e, attempt (find text (d.elseMarker id) search) = found (some e) ∧
      ((e.filter (·.2 ≤ stop) = none ∧ (d.elseMarker id).cut? chain = none) ∨
        ∃ before after closed, (d.elseMarker id).cut? chain = some (before, after) ∧
          At text closed (after ++ tail) ∧
          e.filter (·.2 ≤ stop) = some (search + size before, closed)) := by
  have hmem : d.elseMarker id ∈ d.markers id := by simp [Dialect.markers]
  obtain ⟨e, he, hcut⟩ := find_within (plain_of_mem_markers hid hmem)
    (Dialect.closed_of_mem_markers hmem) (Dialect.led_of_mem_markers hmem) hsearch hstop
  refine ⟨e, he, ?_⟩
  cases h : (d.elseMarker id).cut? chain with
  | none =>
    rw [h] at hcut
    exact .inl ⟨hcut, rfl⟩
  | some x =>
    rw [h] at hcut
    obtain ⟨closed, hf, hclosed⟩ := hcut
    exact .inr ⟨x.1, x.2, closed, rfl, hclosed, hf⟩

lemma scanBranches_opened {text : List Char} {d : Dialect} {id : List Char} (hid : IsId id)
    {stop start search opened : Nat} {condition body before more tail rest : List Char}
    {o e : Option (Nat × Nat)} (hstop : At text stop tail)
    (hstart : At text start (body.reverse ++ (before ++ (more ++ tail))))
    (hsearch : At text search (before ++ (more ++ tail)))
    (ho : attempt (find text (d.elseIfOpen id) search) = found (some o))
    (he : attempt (find text (d.elseMarker id) search) = found (some e)) (hmore : more ≠ [])
    (hopen : (d.elseIfOpen id).Silent before (more ++ tail))
    (hstrip : (d.elseIfOpen id).strip? (more ++ tail) = some rest) (hat : At text opened rest)
    (hsome : o.filter (·.1 < stop) = some (search + size before, opened))
    (hfirst : (e.filter (·.2 ≤ stop)).all (fun x => search + size before < x.1) = true)
    (helse : (d.elseMarker id).Silent before more ∧ (d.elseMarker id).strip? more = none)
    (ih : ∀ {condition body chain : List Char} {start search : Nat}, chain.length < more.length →
      At text start (body.reverse ++ (chain ++ tail)) → At text search (chain ++ tail) →
        scanBranches text d id stop condition start search =
          found (some (branches d id condition body chain))) :
    scanBranches text d id stop condition start search =
      found (some (branches d id condition body (before ++ more))) := by
  have hmem : d.elseIfOpen id ∈ d.markers id := by simp [Dialect.markers]
  have hquiet := quiet_of_silent tail hopen helse.1
  obtain ⟨c, hc, hclose⟩ := find_close hid hstrip hat hstop
  cases helseIf : elseIf? d id more with
  | some x =>
    obtain ⟨next, behind⟩ := x
    rw [helseIf] at hclose
    obtain ⟨close, closed, hf, hslice, hclosed⟩ := hclose
    have hshorter := length_elseIf?_lt helseIf
    have hforward : search < closed := hsearch.lt_of_length_lt hclosed (by simp; omega)
    have hrest : scanBranches text d id stop next closed closed =
        found (some (branches d id next [] behind)) := ih hshorter hclosed hclosed
    rw [scanBranches_to_elseIf ho he hsome hfirst hc hf (slice?_body hstart hsearch) hslice
      hforward hclosed.le_size hrest, branches_append hquiet, branches_of_elseIf? helseIf]
    simp
  | none =>
    obtain ⟨m, more, rfl⟩ := List.exists_cons_of_ne_nil hmore
    rw [helseIf] at hclose
    have hm := (couldStart_of_strip?
      ((plain_of_mem_markers hid hmem).byteLed (Dialect.led_of_mem_markers hmem)) hstrip).1
    have hplace : At text (search + size before + 1) (more ++ tail) := hsearch.forward.next hm
    rw [scanBranches_past ho he hsome hfirst hc hclose (by omega) hplace.le_size,
      branches_past hquiet helseIf helse.2]
    exact ih (by simp) (by simpa using hstart) hplace

/-- **The branches of a conditional by offsets are its branches.** -/
theorem scanBranches_eq {text : List Char} {d : Dialect} {id : List Char} (hid : IsId id)
    {stop start search : Nat} {condition body chain tail : List Char} (hstop : At text stop tail)
    (hstart : At text start (body.reverse ++ (chain ++ tail)))
    (hsearch : At text search (chain ++ tail)) :
    scanBranches text d id stop condition start search =
      found (some (branches d id condition body chain)) := by
  induction hn : chain.length using Nat.strongRecOn
    generalizing chain condition body start search with
  | ind n ih =>
  subst hn
  have hmem : d.elseIfOpen id ∈ d.markers id := by simp [Dialect.markers]
  obtain ⟨o, ho, hopen⟩ := find_before (plain_of_mem_markers hid hmem)
    (Dialect.led_of_mem_markers hmem) hsearch hstop
  obtain ⟨e, he, helse⟩ := find_else hid hstop hsearch
  rcases hopen with ⟨hnone, hopen⟩ |
      ⟨before, more, rest, opened, hmore, rfl, hopen, hstrip, hat, hsome⟩ <;>
    rcases helse with ⟨hno, hcut⟩ | ⟨b, after, closed, hcut, hclosed, hf⟩
  · -- neither of the two
    exact scanBranches_to_end ho he hstop hstart hopen hnone hcut hno
  · -- only an `else`
    obtain ⟨behind, rfl, -, hs, hsilent⟩ := Marker.cut?_eq_some_iff.1 hcut
    rw [List.append_assoc] at hstart hsearch
    exact scanBranches_to_else ho he hid hstop hstart hsearch hclosed (misses_append.1 hopen).1
      (by simp [hnone]) hs hsilent hf
  · -- only an `else-if`
    rw [List.append_assoc] at hstart hsearch
    refine scanBranches_opened hid hstop hstart hsearch ho he hmore hopen hstrip hat hsome
      (by simp [hno]) (silent_of_cut? hmore (by simp [hcut])) fun hlt hstart hsearch => ?_
    exact ih _ (by simp; omega) hstart hsearch rfl
  · by_cases hlt : size before < size b
    · -- the `else-if` stands in front of the `else`
      rw [List.append_assoc] at hstart hsearch
      refine scanBranches_opened hid hstop hstart hsearch ho he hmore hopen hstrip hat hsome
        (by simpa [hf] using hlt) (silent_of_cut? hmore (by simpa [hcut] using hlt))
        fun hlt hstart hsearch => ?_
      exact ih _ (by simp; omega) hstart hsearch rfl
    · -- the `else` stands in front of the `else-if`
      rw [not_lt] at hlt
      obtain ⟨behind, hsplit, -, hs, hsilent⟩ := Marker.cut?_eq_some_iff.1 hcut
      obtain ⟨u, rfl, rfl⟩ := exists_append_of_size_le hsplit.symm hlt
      have hopen := (misses_append.1 hopen).1
      rw [← List.append_assoc] at hopen
      rw [hsplit, List.append_assoc] at hstart hsearch
      rw [hsplit]
      exact scanBranches_to_else ho he hid hstop hstart hsearch hclosed hopen
        (by simp [hsome]) hs hsilent hf

end Pressroom.Markup
