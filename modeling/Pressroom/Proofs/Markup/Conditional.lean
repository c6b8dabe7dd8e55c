import Pressroom.Proofs.Markup.Offsets

/-!
The anatomy of a conditional. Its pieces follow each other in the text without a gap: the head, then
arms, each a condition with its close and a body, and the `else` with its body, up to the end, which
is the first end marker behind the first condition. All these markers carry the id of the head, and
where one of them is complete the body in front of it is over. Markers with another id divide
nothing; what is between the marks stays as it is.
-/

namespace Pressroom.Markup

open Text Scan

/-! ### Matches of a marker -/

namespace Marker

/-- The text is a match of the marker from its start to its end. -/
def IsMatch (marker : Marker) (t : List Char) : Prop :=
  marker.strip? t = some []
  deriving Decidable

/-- Somewhere in the text there is a match of the marker. -/
def Occurs (marker : Marker) (t : List Char) : Prop :=
  ∃ s, s <:+: t ∧ marker.IsMatch s

variable {marker : Marker} {t : List Char}

lemma IsMatch.strip?_append (h : marker.IsMatch t) (hc : marker.Closed) (more : List Char) :
    marker.strip? (t ++ more) = some more := by
  rw [← List.nil_append more, ← List.append_assoc, List.append_nil]
  exact (strip?_append_iff hc).2 h

lemma IsMatch.ne_nil (h : marker.IsMatch t) (hl : marker.Led) : t ≠ [] := by
  rintro rfl
  rw [IsMatch, strip?_nil hl] at h
  cases h

lemma exists_isMatch (hc : marker.Closed) {cs rest : List Char} (h : marker.strip? cs = some rest) :
    ∃ t, cs = t ++ rest ∧ marker.IsMatch t := by
  obtain ⟨t, rfl⟩ := strip?_suffix h
  rw [← List.nil_append rest, ← List.append_assoc, List.append_nil] at h
  exact ⟨t, rfl, (strip?_append_iff hc).1 h⟩

lemma not_occurs_of_silent (hc : marker.Closed) (hl : marker.Led) {a b : List Char}
    (h : marker.Silent a b) : ¬ marker.Occurs a := by
  rintro ⟨s, ⟨x, y, rfl⟩, hs⟩
  have hsuffix : s ++ y <:+ x ++ s ++ y := ⟨x, by simp⟩
  have hmiss := h (s ++ y) hsuffix (by simp [hs.ne_nil hl])
  rw [List.append_assoc, hs.strip?_append hc] at hmiss
  cases hmiss

end Marker

/-! ### Conditionals as they are written -/

/-- An arm of a conditional: what opens its condition, the condition, what closes it, and a body. -/
structure Arm where
  opener : List Char
  condition : List Char
  close : List Char
  body : List Char

namespace Arm

def front (a : Arm) : List Char :=
  a.opener ++ a.condition ++ a.close

def text (a : Arm) : List Char :=
  a.front ++ a.body

def branch (a : Arm) : Branch :=
  ⟨a.condition, a.body⟩

end Arm

/-- The text of further arms and of an `else`, which is given by its marker and its body. -/
def further (arms : List Arm) (otherwise : Option (List Char × List Char)) : List Char :=
  arms.flatMap Arm.text ++ otherwise.elim [] fun x => x.1 ++ x.2

@[simp] lemma further_nil_none : further [] none = [] := rfl

@[simp] lemma further_nil_some (x : List Char × List Char) :
    further [] (some x) = x.1 ++ x.2 := rfl

@[simp] lemma further_cons (a : Arm) (arms : List Arm)
    (otherwise : Option (List Char × List Char)) :
    further (a :: arms) otherwise = a.text ++ further arms otherwise := by
  simp [further]

/-- A conditional as it is written. -/
structure Conditional where
  first : Arm
  others : List Arm
  /-- The marker of the `else` and its body. -/
  otherwise : Option (List Char × List Char)
  finish : List Char

namespace Conditional

def arms (c : Conditional) : List Arm :=
  c.first :: c.others

/-- What stands between the close of the first condition and the end. -/
def inside (c : Conditional) : List Char :=
  c.first.body ++ further c.others c.otherwise

def text (c : Conditional) : List Char :=
  c.first.front ++ c.inside ++ c.finish

def directive (c : Conditional) : Directive :=
  .conditional (c.arms.map Arm.branch) (c.otherwise.map Prod.snd)

end Conditional

/-! ### Bodies and the marks between them -/

/-- A text made of bodies, each with a mark in front of it. -/
def written (ss : List (List Char × List Char)) : List Char :=
  ss.flatMap fun s => s.1 ++ s.2

@[simp] lemma written_nil : written [] = [] := rfl

@[simp] lemma written_cons (s : List Char × List Char) (ss : List (List Char × List Char)) :
    written (s :: ss) = s.1 ++ s.2 ++ written ss := rfl

@[simp] lemma written_append (ss ts : List (List Char × List Char)) :
    written (ss ++ ts) = written ss ++ written ts :=
  List.flatMap_append

/-- The text `w` between `u` and `v` stands in a body. -/
def InBody (ss : List (List Char × List Char)) (u w v : List Char) : Prop :=
  ∃ before mark after x y, ss = before ++ (mark, x ++ (w ++ y)) :: after ∧
    u = written before ++ (mark ++ x) ∧ v = y ++ written after

/-- The text `w` behind `u` shares characters with the mark behind `before`. -/
def Meets (before : List (List Char × List Char)) (mark u w : List Char) : Prop :=
  (written before).length < u.length + w.length ∧
    u.length < (written before).length + mark.length

lemma InBody.cons {ss : List (List Char × List Char)} {u w v : List Char} (h : InBody ss u w v)
    (s : List Char × List Char) : InBody (s :: ss) (s.1 ++ s.2 ++ u) w v := by
  obtain ⟨before, mark, after, x, y, rfl, rfl, rfl⟩ := h
  exact ⟨s :: before, mark, after, x, y, rfl, by simp, rfl⟩

lemma exists_of_append_eq {a b u w : List Char} (h : a ++ b = u ++ w) :
    (∃ x, u = a ++ x ∧ b = x ++ w) ∨ ∃ y, y ≠ [] ∧ a = u ++ y ∧ w = y ++ b := by
  rcases List.append_eq_append_iff.1 h with ⟨x, rfl, rfl⟩ | ⟨y, rfl, rfl⟩
  · exact .inl ⟨x, rfl, rfl⟩
  · by_cases hy : y = []
    · subst hy
      exact .inl ⟨[], by simp, rfl⟩
    · exact .inr ⟨y, hy, rfl, rfl⟩

lemma inBody_or_meets {ss : List (List Char × List Char)} {u w v : List Char} (hw : w ≠ [])
    (h : written ss = u ++ (w ++ v)) :
    InBody ss u w v ∨
      ∃ before mark body after, ss = before ++ (mark, body) :: after ∧ Meets before mark u w := by
  have hpos := List.length_pos_of_ne_nil hw
  induction ss generalizing u with
  | nil => simp [hw] at h
  | cons s ss ih =>
    obtain ⟨mark, body⟩ := s
    rw [written_cons, List.append_assoc] at h
    rcases exists_of_append_eq h with ⟨x, rfl, hx⟩ | ⟨y, hy, rfl, -⟩
    · rcases exists_of_append_eq hx with ⟨u, rfl, hu⟩ | ⟨y, hy, rfl, hwy⟩
      · -- it starts behind this body
        rcases ih hu with hin | ⟨before, mark', body', after, rfl, hmeets⟩
        · refine .inl ?_
          rw [← List.append_assoc]
          exact hin.cons (mark, body)
        · refine .inr ⟨(mark, body) :: before, mark', body', after, rfl, ?_⟩
          simp [Meets] at hmeets ⊢
          omega
      · rcases exists_of_append_eq hwy with ⟨z, rfl, rfl⟩ | ⟨z, hz, rfl, hrest⟩
        · exact .inl ⟨[], mark, ss, x, z, rfl, rfl, rfl⟩
        · -- it starts in this body and goes on behind it, where the next mark stands
          cases ss with
          | nil => simp [hz] at hrest
          | cons next ss =>
            have hy := List.length_pos_of_ne_nil hy
            have hz := List.length_pos_of_ne_nil hz
            refine .inr ⟨[(mark, x ++ y)], next.1, next.2, ss, rfl, ?_⟩
            simp [Meets]
            omega
    · have hy := List.length_pos_of_ne_nil hy
      refine .inr ⟨[], u ++ y, body, ss, rfl, ?_⟩
      simp [Meets]
      omega

/-! ### How the arms are found -/

/-- The arms of a conditional behind the condition of the first one, whose body comes first here. In
no body starts a dividing marker that is complete before the end. -/
inductive Divided (d : Dialect) (id : List Char) :
    List Char → List Arm → Option (List Char × List Char) → Prop where
  | last {body : List Char} (hquiet : Quiet d id body (further [] none)) : Divided d id body [] none
  | otherwise {body marker rest : List Char}
      (hquiet : Quiet d id body (further [] (some (marker, rest))))
      (hmarker : (d.elseMarker id).IsMatch marker) : Divided d id body [] (some (marker, rest))
  | elseIf {body : List Char} {arm : Arm} {arms : List Arm}
      {otherwise : Option (List Char × List Char)}
      (hquiet : Quiet d id body (further (arm :: arms) otherwise))
      (hopener : (d.elseIfOpen id).IsMatch arm.opener) (hclose : d.elseIfClose.IsMatch arm.close)
      (hcondition : d.elseIfClose.Silent arm.condition
        (arm.close ++ (arm.body ++ further arms otherwise)))
      (h : Divided d id arm.body arms otherwise) : Divided d id body (arm :: arms) otherwise

section Divided

variable {d : Dialect} {id : List Char}

lemma exists_of_elseIf? {cs condition rest : List Char}
    (h : elseIf? d id cs = some (condition, rest)) :
    ∃ opener close, cs = opener ++ condition ++ close ++ rest ∧
      (d.elseIfOpen id).IsMatch opener ∧ d.elseIfClose.IsMatch close ∧
      d.elseIfClose.Silent condition (close ++ rest) := by
  have hopenMem : d.elseIfOpen id ∈ d.markers id := by simp [Dialect.markers]
  have hcloseMem : d.elseIfClose ∈ d.markers id := by simp [Dialect.markers]
  obtain ⟨behind, hbehind, hcut⟩ := Option.bind_eq_some_iff.1 h
  obtain ⟨opener, rfl, hopener⟩ :=
    Marker.exists_isMatch (Dialect.closed_of_mem_markers hopenMem) hbehind
  obtain ⟨tail, rfl, -, htail, hsilent⟩ := Marker.cut?_eq_some_iff.1 hcut
  obtain ⟨close, rfl, hclose⟩ :=
    Marker.exists_isMatch (Dialect.closed_of_mem_markers hcloseMem) htail
  exact ⟨opener, close, by simp, hopener, hclose, hsilent⟩

lemma Quiet.snoc {c : Char} {p q : List Char} (h : Quiet d id p (c :: q))
    (helseIf : elseIf? d id (c :: q) = none) (helse : (d.elseMarker id).strip? (c :: q) = none) :
    Quiet d id (p ++ [c]) q :=
  ⟨misses_append.2 ⟨h.1, misses_cons.2 ⟨helseIf, misses_nil q⟩⟩,
    misses_append.2 ⟨h.2, misses_cons.2 ⟨helse, misses_nil q⟩⟩⟩

/-- **The branches are arms that divide the text.** What there is of the first body so far holds no
marker. -/
theorem branches_divided (d : Dialect) (id condition body cs : List Char)
    (h : Quiet d id body.reverse cs) :
    ∃ first arms otherwise, Divided d id first arms otherwise ∧
      body.reverse ++ cs = first ++ further arms otherwise ∧
      branches d id condition body cs =
        (⟨condition, first⟩ :: arms.map Arm.branch, otherwise.map Prod.snd) := by
  fun_induction branches d id condition body cs with
  | case1 condition body => exact ⟨body.reverse, [], none, .last h, rfl, rfl⟩
  | case2 condition body c cs next rest helseIf _ others otherwise' hbranches ih =>
    obtain ⟨opener, close, hcs, hopener, hclose, hcondition⟩ := exists_of_elseIf? helseIf
    obtain ⟨first, arms, otherwise, hdivided, hrest, heq⟩ := ih ⟨misses_nil rest, misses_nil rest⟩
    rw [List.reverse_nil, List.nil_append] at hrest
    rw [hbranches] at heq
    obtain ⟨rfl, rfl⟩ := Prod.mk.inj heq
    subst hrest
    have htext : c :: cs = further (⟨opener, next, close, first⟩ :: arms) otherwise := by
      simp [hcs, Arm.text, Arm.front]
    rw [htext] at h ⊢
    exact ⟨body.reverse, ⟨opener, next, close, first⟩ :: arms, otherwise,
      .elseIf h hopener hclose hcondition hdivided, rfl, rfl⟩
  | case3 condition body c cs helseIf rest helse =>
    have hmem : d.elseMarker id ∈ d.markers id := by simp [Dialect.markers]
    obtain ⟨marker, hcs, hmarker⟩ :=
      Marker.exists_isMatch (Dialect.closed_of_mem_markers hmem) helse
    rw [hcs] at h ⊢
    exact ⟨body.reverse, [], some (marker, rest), .otherwise h hmarker, rfl, rfl⟩
  | case4 condition body c cs helseIf helse ih =>
    obtain ⟨first, arms, otherwise, hdivided, htext, heq⟩ :=
      ih (by rw [List.reverse_cons]; exact h.snoc helseIf helse)
    exact ⟨first, arms, otherwise, hdivided, by simpa using htext, heq⟩

variable {body : List Char} {arms : List Arm} {otherwise : Option (List Char × List Char)}

lemma Divided.isMatch (h : Divided d id body arms otherwise) :
    (∀ a ∈ arms, (d.elseIfOpen id).IsMatch a.opener ∧ d.elseIfClose.IsMatch a.close) ∧
      ∀ x ∈ otherwise, (d.elseMarker id).IsMatch x.1 := by
  induction h with
  | last => exact ⟨nofun, nofun⟩
  | otherwise _ hmarker =>
    refine ⟨nofun, fun x hx => ?_⟩
    obtain rfl := Option.some.inj hx
    exact hmarker
  | elseIf _ hopener hclose _ _ ih => exact ⟨List.forall_mem_cons.2 ⟨⟨hopener, hclose⟩, ih.1⟩, ih.2⟩

lemma Divided.not_occurs_close (h : Divided d id body arms otherwise) :
    ∀ a ∈ arms, ¬ d.elseIfClose.Occurs a.condition := by
  have hmem : d.elseIfClose ∈ d.markers id := by simp [Dialect.markers]
  induction h with
  | last => exact List.forall_mem_nil _
  | otherwise => exact List.forall_mem_nil _
  | elseIf _ _ _ hcondition _ ih =>
    exact List.forall_mem_cons.2 ⟨Marker.not_occurs_of_silent (Dialect.closed_of_mem_markers hmem)
      (Dialect.led_of_mem_markers hmem) hcondition, ih⟩

lemma Divided.quiet_first (h : Divided d id body arms otherwise) :
    Quiet d id body (further arms otherwise) := by
  cases h <;> assumption

lemma Divided.quiet (h : Divided d id body arms otherwise) {before after : List Arm} {a : Arm}
    (ha : arms = before ++ a :: after) : Quiet d id a.body (further after otherwise) := by
  induction h generalizing before with
  | last => simp at ha
  | otherwise => simp at ha
  | elseIf _ _ _ _ h ih =>
    rcases List.cons_eq_append_iff.1 ha with ⟨-, heq⟩ | ⟨before', -, harms⟩
    · obtain ⟨rfl, rfl⟩ := List.cons.inj heq
      exact h.quiet_first
    · exact ih harms

lemma length_lt_of_quiet {x opener y behind tail condition left : List Char}
    (hquiet : Quiet d id (x ++ (opener ++ y)) behind) (hopener : (d.elseIfOpen id).IsMatch opener)
    (hclose : d.elseIfClose.cut? (y ++ (behind ++ tail)) = some (condition, left)) :
    left.length < tail.length := by
  have hopenMem : d.elseIfOpen id ∈ d.markers id := by simp [Dialect.markers]
  have hcloseMem : d.elseIfClose ∈ d.markers id := by simp [Dialect.markers]
  have hopenClosed := Dialect.closed_of_mem_markers hopenMem
  by_contra hle
  rw [← List.append_assoc] at hclose
  have hsuffix : tail <:+ left :=
    List.suffix_of_suffix_length_le (List.suffix_append _ _) (Marker.cut?_suffix hclose)
      (not_lt.1 hle)
  obtain ⟨left, rfl⟩ := hsuffix
  have hcut := (Marker.cut?_append_iff (Dialect.closed_of_mem_markers hcloseMem)
    (Dialect.led_of_mem_markers hcloseMem)).1 hclose
  have hne : opener ++ y ≠ [] := by
    simp [hopener.ne_nil (Dialect.led_of_mem_markers hopenMem)]
  have hnone := hquiet.1 (opener ++ y) (List.suffix_append _ _) hne
  rw [elseIf?, List.append_assoc, hopener.strip?_append hopenClosed] at hnone
  cases hnone.symm.trans hcut

end Divided

/-! ### The anatomy -/

namespace Dialect

/-- The markers that divide a conditional with an id or end it. -/
def dividers (d : Dialect) (id : List Char) : List Marker :=
  [d.elseIfOpen id, d.elseMarker id, d.ifEnd id]

lemma exists_seek_of_mem_dividers {d : Dialect} {id : List Char} {marker : Marker}
    (h : marker ∈ d.dividers id) : ∃ part, marker = d.seek part id := by
  simp only [dividers, List.mem_cons, List.not_mem_nil, or_false] at h
  rcases h with rfl | rfl | rfl
  · exact ⟨_, elseIfOpen_eq d id⟩
  · exact ⟨_, elseMarker_eq d id⟩
  · exact ⟨_, ifEnd_eq d id⟩

lemma mem_markers_of_mem_dividers {d : Dialect} {id : List Char} {marker : Marker}
    (h : marker ∈ d.dividers id) : marker ∈ d.markers id := by
  simp only [dividers, List.mem_cons, List.not_mem_nil, or_false] at h
  rcases h with rfl | rfl | rfl <;> simp [markers]

end Dialect

namespace Conditional

variable (c : Conditional)

/-- The bodies of a conditional, each with the mark in front of it. In front of the first one there
is no mark any more, and behind the end there is no body. -/
def stretches : List (List Char × List Char) :=
  ([], c.first.body) ::
    (c.others.map (fun a => (a.front, a.body)) ++ (c.otherwise.toList ++ [(c.finish, [])]))

lemma written_stretches : written c.stretches = c.inside ++ c.finish := by
  have harms : written (c.others.map fun a => (a.front, a.body)) = c.others.flatMap Arm.text := by
    rw [written, List.flatMap_map]
    rfl
  have helse : written c.otherwise.toList = c.otherwise.elim [] fun x => x.1 ++ x.2 := by
    cases c.otherwise <;> simp
  rw [stretches, written_cons, written_append, written_append, harms, helse]
  simp [inside, further]

/-- The markers of a conditional are those of its id. -/
structure Marked (d : Dialect) (id : List Char) : Prop where
  head : d.ifHead? c.first.opener = some (id, [])
  close : d.expressionClose.IsMatch c.first.close
  elseIf : ∀ a ∈ c.others, (d.elseIfOpen id).IsMatch a.opener ∧ d.elseIfClose.IsMatch a.close
  otherwise : ∀ x ∈ c.otherwise, (d.elseMarker id).IsMatch x.1
  finish : (d.ifEnd id).IsMatch c.finish

/-- The conditional with an id ends where it has to, and is divided where it has to; `rest` is what
stands behind it. -/
structure Exact (d : Dialect) (id rest : List Char) : Prop extends c.Marked d id where
  /-- No end marker with the id starts between the first condition and the end. -/
  finish_first : (d.ifEnd id).Silent c.inside (c.finish ++ rest)
  first_condition : ¬ d.expressionClose.Occurs c.first.condition
  conditions : ∀ a ∈ c.others, ¬ d.elseIfClose.Occurs a.condition
  no_else : ∀ a ∈ c.arms, ¬ (d.elseMarker id).Occurs a.body
  /-- The first close behind an `else-if` that is left in a body does not stand before the end. -/
  no_elseIf : ∀ before a after, c.arms = before ++ a :: after →
    ∀ x opener y, a.body = x ++ (opener ++ y) → (d.elseIfOpen id).IsMatch opener →
    ∀ condition left, d.elseIfClose.cut?
        (y ++ (further after c.otherwise ++ (c.finish ++ rest))) = some (condition, left) →
      left.length < (c.finish ++ rest).length
  /-- A marker with another id, or of the other dialect, stands in a body, unless it shares
  characters with a mark; no mark starts where it does. -/
  others_stay : ∀ d' id', IsId id' → ¬ (d' = d ∧ id' = id) → ∀ marker ∈ d'.dividers id',
    ∀ u w v, c.inside ++ c.finish = u ++ (w ++ v) → marker.IsMatch w →
      InBody c.stretches u w v ∨
        ∃ before mark body after, c.stretches = before ++ (mark, body) :: after ∧
          Meets before mark u w ∧ u ≠ written before

section Marked

variable {c} {d : Dialect} {id : List Char}

lemma Marked.mark_cases (h : c.Marked d id) {mark body : List Char}
    (hmem : (mark, body) ∈ c.stretches) :
    mark = [] ∨ ∃ part, ∀ more, ∃ left, (d.seek part id).strip? (mark ++ more) = some left := by
  have hstrip {marker : Marker} (hmarker : marker ∈ d.dividers id) {t : List Char}
      (ht : marker.IsMatch t) (more : List Char) :
      ∃ part, ∀ more', ∃ left, (d.seek part id).strip? (t ++ more ++ more') = some left := by
    obtain ⟨part, rfl⟩ := Dialect.exists_seek_of_mem_dividers hmarker
    refine ⟨part, fun more' => ⟨more ++ more', ?_⟩⟩
    rw [List.append_assoc]
    exact ht.strip?_append
      (Dialect.closed_of_mem_markers (Dialect.mem_markers_of_mem_dividers hmarker)) _
  simp only [stretches, List.mem_cons, List.mem_append, List.mem_map, Option.mem_toList,
    List.not_mem_nil, or_false, Prod.mk.injEq] at hmem
  rcases hmem with ⟨rfl, -⟩ | ⟨a, ha, rfl, -⟩ | hmem | ⟨rfl, -⟩
  · exact .inl rfl
  · have := hstrip (by simp [Dialect.dividers]) (h.elseIf a ha).1 (a.condition ++ a.close)
    rw [← List.append_assoc] at this
    exact .inr this
  · have := hstrip (by simp [Dialect.dividers]) (h.otherwise _ hmem) []
    rw [List.append_nil] at this
    exact .inr this
  · have := hstrip (by simp [Dialect.dividers]) h.finish []
    rw [List.append_nil] at this
    exact .inr this

lemma Marked.others_stay (h : c.Marked d id) (hid : IsId id) {d' : Dialect} {id' : List Char}
    (hid' : IsId id') (hother : ¬ (d' = d ∧ id' = id)) {marker : Marker}
    (hmarker : marker ∈ d'.dividers id') {u w v : List Char}
    (htext : c.inside ++ c.finish = u ++ (w ++ v)) (hw : marker.IsMatch w) :
    InBody c.stretches u w v ∨
      ∃ before mark body after, c.stretches = before ++ (mark, body) :: after ∧
        Meets before mark u w ∧ u ≠ written before := by
  have hmem := Dialect.mem_markers_of_mem_dividers hmarker
  have hne : w ≠ [] := hw.ne_nil (Dialect.led_of_mem_markers hmem)
  rw [← written_stretches] at htext
  refine (inBody_or_meets hne htext).imp_right ?_
  rintro ⟨before, mark, body, after, hsplit, hmeets⟩
  refine ⟨before, mark, body, after, hsplit, hmeets, ?_⟩
  rintro rfl
  rw [hsplit, written_append, written_cons, List.append_cancel_left_eq, List.append_assoc] at htext
  have hstretch : (mark, body) ∈ c.stretches := by
    rw [hsplit]
    exact List.mem_append_right _ List.mem_cons_self
  rcases h.mark_cases hstretch with rfl | ⟨part, hpart⟩
  · exact absurd hmeets.2 (by simp)
  · obtain ⟨left, hleft⟩ := hpart (body ++ written after)
    obtain ⟨part', rfl⟩ := Dialect.exists_seek_of_mem_dividers hmarker
    have hwhole := hw.strip?_append (Dialect.closed_of_mem_markers hmem) v
    rw [htext] at hleft
    obtain ⟨hd, -, hids⟩ := seek_unique hid' hid hwhole hleft
    exact hother ⟨hd, hids⟩

end Marked

end Conditional

lemma Divided.exact {c : Conditional} {d : Dialect} {id rest : List Char} (hid : IsId id)
    (hhead : d.ifHead? c.first.opener = some (id, []))
    (hclose : d.expressionClose.IsMatch c.first.close)
    (hcondition : ¬ d.expressionClose.Occurs c.first.condition)
    (hfinish : (d.ifEnd id).IsMatch c.finish)
    (hfirst : (d.ifEnd id).Silent c.inside (c.finish ++ rest))
    (h : Divided d id c.first.body c.others c.otherwise) : c.Exact d id rest := by
  have hmarked : c.Marked d id := ⟨hhead, hclose, h.isMatch.1, h.isMatch.2, hfinish⟩
  have hquiet : ∀ before a after, c.arms = before ++ a :: after →
      Quiet d id a.body (further after c.otherwise) := by
    intro before a after harms
    rcases List.cons_eq_append_iff.1 harms with ⟨-, heq⟩ | ⟨before', -, hothers⟩
    · obtain ⟨rfl, rfl⟩ := List.cons.inj heq
      exact h.quiet_first
    · exact h.quiet hothers
  refine ⟨hmarked, hfirst, hcondition, h.not_occurs_close, fun a ha => ?_, ?_, ?_⟩
  · obtain ⟨before, after, harms⟩ := List.append_of_mem ha
    have hmem : d.elseMarker id ∈ d.markers id := by simp [Dialect.markers]
    exact Marker.not_occurs_of_silent (Dialect.closed_of_mem_markers hmem)
      (Dialect.led_of_mem_markers hmem) (hquiet before a after harms).2
  · intro before a after harms x opener y hbody hopener condition left hcut
    have := hquiet before a after harms
    rw [hbody] at this
    exact length_lt_of_quiet this hopener hcut
  · intro d' id' hid' hother marker hmarker u w v htext hw
    exact hmarked.others_stay hid hid' hother hmarker htext hw

/-- **A conditional is what its text says.** The text is the head with the first condition, the arms
and perhaps an `else`, and the end marker, all of them with the id of the head and without a gap;
conditions and bodies hold none of the markers that would end them. Read by offsets, with a check
that every turn of the loop over the arms goes forward, it is the same. -/
theorem conditional?_exact {d : Dialect} {cs rest : List Char} {directive : Directive}
    (h : conditional? d cs = some (directive, rest)) :
    ∃ (id : List Char) (c : Conditional), IsId id ∧ cs = c.text ++ rest ∧
      directive = c.directive ∧ c.Exact d id rest ∧
      ∀ text pos, At text pos cs → ∃ stop,
        scanConditional text d pos = found (some (directive, stop)) ∧ At text stop rest := by
  have hscan : ∀ text pos, At text pos cs → ∃ stop,
      scanConditional text d pos = found (some (directive, stop)) ∧ At text stop rest := by
    intro text pos hat
    have hfollows := scanConditional_follows d hat
    rwa [h] at hfollows
  simp only [conditional?, Option.bind_eq_bind, Option.bind_eq_some_iff, Prod.exists,
    Option.pure_def, Option.some.injEq, Prod.mk.injEq] at h
  obtain ⟨id, behind, hhead, condition, behind', hcondition, chain, left, hend, hdirective, rfl⟩ :=
    h
  have hcloseMem : d.expressionClose ∈ d.markers id := by simp [Dialect.markers]
  have hendMem : d.ifEnd id ∈ d.markers id := by simp [Dialect.markers]
  have hcloseClosed := Dialect.closed_of_mem_markers hcloseMem
  -- the head
  obtain ⟨opener, rfl⟩ := (local_ifHead? d).suffix hhead
  have hid := isId_of_ifHead? hhead
  have hopener : d.ifHead? opener = some (id, []) :=
    ((local_ifHead? d).append_iff (.inl rfl)).1 hhead
  -- the first condition and its close
  obtain ⟨tail, rfl, -, htail, hsilent⟩ := Marker.cut?_eq_some_iff.1 hcondition
  obtain ⟨close, rfl, hclose⟩ := Marker.exists_isMatch hcloseClosed htail
  -- the end
  obtain ⟨tail, rfl, -, htail, hfirst⟩ := Marker.cut?_eq_some_iff.1 hend
  obtain ⟨finish, rfl, hfinish⟩ :=
    Marker.exists_isMatch (Dialect.closed_of_mem_markers hendMem) htail
  obtain ⟨body, arms, otherwise, hdivided, hchain, hbranches⟩ :=
    branches_divided d id condition [] chain ⟨misses_nil chain, misses_nil chain⟩
  rw [List.reverse_nil, List.nil_append] at hchain
  subst hchain
  let c : Conditional := ⟨⟨opener, condition, close, body⟩, arms, otherwise, finish⟩
  refine ⟨id, c, hid, ?_, ?_, hdivided.exact (c := c) hid hopener hclose
    (Marker.not_occurs_of_silent hcloseClosed (Dialect.led_of_mem_markers hcloseMem) hsilent)
    hfinish hfirst, hscan⟩
  · simp [c, Conditional.text, Conditional.inside, Arm.front]
  · rw [← hdirective, hbranches]
    rfl

/-- A conditional with an `else` of another id, an `else-if` that is never closed, and two times an
`else` of its own. -/
def unfinished : List Char :=
  ("%%if\x7ba\x7d%%x%%else-if\x7bb\x7d%%y%%else1%%z%%else-if\x7b" ++
    "%%else%%w%%else%%v%%endif%%!").toList

/-- The conditional above, with its pieces. -/
theorem conditional?_exact_unfinished :
    ∃ (id : List Char) (c : Conditional), IsId id ∧ unfinished = c.text ++ ['!'] ∧
      c.directive = .conditional
        [⟨['a'], ['x']⟩, ⟨['b'], "y%%else1%%z%%else-if\x7b".toList⟩] (some "w%%else%%v".toList) ∧
      c.Exact .bracket id ['!'] := by
  have hread : conditional? .bracket unfinished = some (.conditional
      [⟨['a'], ['x']⟩, ⟨['b'], "y%%else1%%z%%else-if\x7b".toList⟩] (some "w%%else%%v".toList),
      ['!']) := by
    decide +kernel
  obtain ⟨id, c, hid, htext, hdirective, hexact, -⟩ := conditional?_exact hread
  exact ⟨id, c, hid, htext, hdirective.symm, hexact⟩

/-- An `else` of another id may share its last two signs with the end of the conditional: then it is
in no body. -/
theorem conditional?_shared_signs :
    conditional? .bracket "%%if\x7ba\x7d%%x%%else1%%endif%%".toList =
        some (.conditional [⟨['a'], "x%%else1".toList⟩] none, []) ∧
      (Dialect.bracket.elseMarker ['1']).IsMatch "%%else1%%".toList ∧
      "%%else1%%".toList <:+: "x%%else1%%endif%%".toList ∧
      ¬ "%%else1%%".toList <:+: "x%%else1".toList := by
  decide +kernel

end Pressroom.Markup
