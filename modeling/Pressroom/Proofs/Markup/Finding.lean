import Pressroom.Proofs.Markup.Local
import Pressroom.Proofs.Markup.Scanner

/-!
Looking for markers by offsets. A byte that no match can start with is passed, and so are the bytes
inside a character; where a match may start, it is tried. What is found is the first match in the
text, also where it has to start before a place or to end up to one.
-/

namespace Pressroom.Markup

open Text Scan

/-! ### Matching at a place -/

/-- The words of a marker are made of single bytes. -/
def Marker.Plain (marker : Marker) : Prop :=
  ∀ t, Piece.text t ∈ marker → ∀ c ∈ t, c.toNat < 128

lemma getElem?_zero_bytes {c x : Char} {cs : List Char} (hx : x.toNat < 128) :
    (bytes (c :: cs))[0]? = some x.toNat.toUInt8 ↔ c = x := by
  rw [bytes_cons]
  by_cases hc : c.toNat < 128
  · rw [utf8EncodeChar_of_lt hc]
    simp only [List.cons_append, List.getElem?_cons_zero, Option.some.injEq]
    rw [← UInt8.toNat_inj, ← Char.toNat_inj]
    simp
    omega
  · constructor
    · intro h
      obtain ⟨b, bs, hb⟩ := List.exists_cons_of_ne_nil (String.utf8EncodeChar_ne_nil (c := c))
      have hle : 128 ≤ b.toNat := le_of_mem_utf8EncodeChar (c := c) (by omega) (by simp [hb])
      rw [hb] at h
      simp only [List.cons_append, List.getElem?_cons_zero, Option.some.injEq] at h
      rw [h] at hle
      simp at hle
      omega
    · rintro rfl
      exact absurd hx hc

lemma byteAt_iff {text cs : List Char} {pos : Nat} {x : Char} (h : At text pos cs)
    (hx : x.toNat < 128) : byteAt text pos x = true ↔ ∃ rest, cs = x :: rest := by
  have hb := h.getElem?_bytes 0
  rw [Nat.add_zero] at hb
  rw [byteAt, beq_iff_eq, hb]
  cases cs with
  | nil => simp
  | cons c cs =>
    rw [getElem?_zero_bytes hx]
    simp

lemma quoteAt_iff {text cs : List Char} {pos : Nat} (h : At text pos cs) :
    (byteAt text pos '\'' || byteAt text pos '"') = true ↔
      ∃ q rest, cs = q :: rest ∧ isQuote q = true := by
  rw [Bool.or_eq_true, byteAt_iff h (by decide), byteAt_iff h (by decide)]
  constructor
  · rintro (⟨rest, rfl⟩ | ⟨rest, rfl⟩)
    · exact ⟨_, rest, rfl, rfl⟩
    · exact ⟨_, rest, rfl, rfl⟩
  · rintro ⟨q, rest, rfl, hq⟩
    simp only [isQuote, Bool.or_eq_true, beq_iff_eq] at hq
    rcases hq with rfl | rfl
    · exact .inl ⟨rest, rfl⟩
    · exact .inr ⟨rest, rfl⟩

/-- The scanner arrives at what is left of the text, if anything is. -/
def Arrives (text : List Char) (x : Scan Nat) : Option (List Char) → Prop
  | none => x = found none
  | some rest => ∃ stop, x = found (some stop) ∧ At text stop rest

lemma matchAt_arrives (marker : Marker) {text cs : List Char} {pos : Nat}
    (h : At text pos cs) : Arrives text (matchAt text marker pos) (marker.strip? cs) := by
  induction marker generalizing cs pos with
  | nil => exact ⟨pos, rfl, h⟩
  | cons piece marker ih =>
    cases piece with
    | text t =>
      cases hs : stripFolded? foldAscii t cs with
      | none =>
        have hn : ¬ startsAt text pos t = true := by
          rw [h.startsAt_iff, hs]
          simp
        simp [Marker.strip?, hs, matchAt, hn, Arrives]
      | some rest =>
        have hy : startsAt text pos t = true := h.startsAt_iff.2 ⟨rest, hs⟩
        simp only [Marker.strip?, hs, Option.bind_some, matchAt, hy, if_true]
        exact ih (h.after_word hs)
    | blanks =>
      simp only [Marker.strip?, matchAt, h.from?_eq, checked_bind]
      have h : At text pos (cs.takeWhile isBlank ++ skipBlanks cs) := by
        rwa [takeWhile_append_skipBlanks]
      exact ih h.forward
    | slash =>
      simp only [Marker.strip?, matchAt]
      have hb := byteAt_iff (x := '/') h (by decide)
      by_cases hs : ∃ rest, cs = '/' :: rest
      · obtain ⟨rest, rfl⟩ := hs
        rw [if_pos (hb.2 ⟨rest, rfl⟩)]
        exact ih (h.next (by decide))
      · have hskip : skipSlash cs = cs := by
          unfold skipSlash
          split
          · exact absurd ⟨_, rfl⟩ hs
          · rfl
        rw [if_neg fun hc => hs (hb.1 hc), hskip]
        exact ih h
    | quote =>
      simp only [Marker.strip?, matchAt]
      cases hq : afterQuote? cs with
      | none =>
        have hn : ¬ ∃ q rest, cs = q :: rest ∧ isQuote q = true := by
          rintro ⟨q, rest, rfl, hc⟩
          simp [afterQuote?, hc] at hq
        rw [if_neg fun hc => hn ((quoteAt_iff h).1 hc)]
        rfl
      | some rest =>
        obtain ⟨q, hc, rfl⟩ := Marker.eq_cons_of_afterQuote? hq
        rw [if_pos ((quoteAt_iff h).2 ⟨q, rest, rfl, hc⟩)]
        refine ih (h.next ?_)
        simp only [isQuote, Bool.or_eq_true, beq_iff_eq] at hc
        rcases hc with rfl | rfl <;> decide

/-! ### The first match -/

lemma couldStart_eq_false (marker : Marker) {b : UInt8} (hb : 128 ≤ b.toNat) :
    couldStart marker b = false := by
  unfold couldStart
  split
  · next t _ =>
    split
    · next first _ _ =>
      simp only [Bool.and_eq_false_iff, decide_eq_false_iff_not, beq_eq_false_iff_ne]
      by_cases hf : first < 128
      · right
        intro h
        have h := congrArg UInt8.toNat h
        rw [toNat_foldByte, toNat_foldByte] at h
        have hf : first.toNat < 128 := UInt8.lt_iff_toNat_lt.1 hf
        split at h <;> split at h <;> omega
      · exact .inl hf
    · rfl
  · rw [Bool.or_eq_false_iff, beq_eq_false_iff_ne, beq_eq_false_iff_ne]
    constructor <;> rintro rfl <;> revert hb <;> decide
  · rfl

/-- The marker starts with a character that is a single byte. -/
def Marker.ByteLed : Marker → Prop
  | .text (c :: _) :: _ => c.toNat < 128
  | .quote :: _ => True
  | _ => False

lemma Marker.Plain.byteLed {marker : Marker} (hm : marker.Plain) (hl : marker.Led) :
    marker.ByteLed := by
  match marker, hl with
  | .text (c :: t) :: marker, _ => exact hm (c :: t) (by simp) c (by simp)
  | .quote :: marker, _ => trivial

lemma couldStart_text {p : Char} (hp : p.toNat < 128) (t : List Char) (marker : Marker)
    (b : UInt8) :
    couldStart (.text (p :: t) :: marker) b = (foldByte b == foldByte p.toNat.toUInt8) := by
  have hfirst : p.toNat.toUInt8 < 128 := by
    rw [UInt8.lt_iff_toNat_lt]
    simp
    omega
  simp [couldStart, bytes_cons, utf8EncodeChar_of_lt hp, hfirst]

lemma couldStart_of_strip? {marker : Marker} (hb : marker.ByteLed) {c : Char}
    {cs rest : List Char} (h : marker.strip? (c :: cs) = some rest) :
    c.toNat < 128 ∧ couldStart marker c.toNat.toUInt8 = true := by
  match marker, hb with
  | .text (p :: t) :: marker, hp =>
    obtain ⟨r, hr, -⟩ := Option.bind_eq_some_iff.1 h
    obtain ⟨word, hword, hw⟩ := stripFolded?_eq_some_iff.1 hr
    cases word with
    | nil => simp at hw
    | cons w word =>
      simp only [List.cons_append, List.cons.injEq, List.map_cons] at hword hw
      obtain ⟨rfl, -⟩ := hword
      have hc := lt_of_foldAscii_eq hp hw.1
      refine ⟨hc, ?_⟩
      rw [couldStart_text hp, beq_iff_eq]
      exact (foldByte_eq_iff hc hp).2 hw.1
  | .quote :: marker, _ =>
    obtain ⟨r, hr, -⟩ := Option.bind_eq_some_iff.1 h
    obtain ⟨q, hq, he⟩ := Marker.eq_cons_of_afterQuote? hr
    obtain ⟨rfl, -⟩ := List.cons.inj he
    simp only [isQuote, Bool.or_eq_true, beq_iff_eq] at hq
    rcases hq with rfl | rfl <;> exact ⟨by decide, rfl⟩

lemma findAmong_skip {text : List Char} {marker : Marker} {ps qs : List Nat}
    (h : ∀ pos ∈ ps, (bytes text)[pos]?.any (couldStart marker) = false) :
    findAmong text marker (ps ++ qs) = findAmong text marker qs := by
  induction ps with
  | nil => rfl
  | cons pos ps ih =>
    rw [List.cons_append, findAmong, h pos (by simp)]
    exact ih fun q hq => h q (List.mem_cons_of_mem _ hq)

lemma couldStart_inside {text cs : List Char} {c : Char} {pos k : Nat} (h : At text pos (c :: cs))
    (marker : Marker) (hk : 0 < k) (hlt : k < c.utf8Size) :
    (bytes text)[pos + k]?.any (couldStart marker) = false := by
  obtain ⟨b, hb, hle⟩ := h.byte_inside hk hlt
  rw [hb, Option.any_some]
  exact couldStart_eq_false marker hle

lemma range'_size_cons (c : Char) (cs : List Char) (pos : Nat) :
    List.range' pos (size (c :: cs)) = pos :: (List.range' (pos + 1) (c.utf8Size - 1) ++
      List.range' (pos + c.utf8Size) (size cs)) := by
  have hpos := c.utf8Size_pos
  obtain ⟨n, hn⟩ : ∃ n, c.utf8Size = n + 1 := ⟨c.utf8Size - 1, by omega⟩
  rw [size_cons, hn, Nat.add_sub_cancel, Nat.add_right_comm, List.range'_succ,
    ← List.range'_append_1]
  congr 3
  omega

lemma findAmong_inside {text cs : List Char} {c : Char} {pos : Nat} (h : At text pos (c :: cs))
    (marker : Marker) (qs : List Nat) :
    findAmong text marker (List.range' (pos + 1) (c.utf8Size - 1) ++ qs) =
      findAmong text marker qs := by
  refine findAmong_skip fun q hq => ?_
  rw [List.mem_range'_1] at hq
  obtain ⟨k, rfl⟩ : ∃ k, q = pos + k := ⟨q - pos, by omega⟩
  exact couldStart_inside h marker (by omega) (by omega)

/-- From a place on the scanner finds what there is in the text: where it starts, and what is left
behind it. -/
def Finds (text : List Char) (pos : Nat) (x : Scan (Nat × Nat)) :
    Option (List Char × List Char) → Prop
  | none => x = found none
  | some (before, rest) => ∃ stop, x = found (some (pos + size before, stop)) ∧ At text stop rest

lemma Finds.cons {text : List Char} {c : Char} {pos : Nat} {x : Scan (Nat × Nat)}
    {o : Option (List Char × List Char)} (h : Finds text (pos + c.utf8Size) x o) :
    Finds text pos x (o.map fun (before, rest) => (c :: before, rest)) := by
  cases o with
  | none => exact h
  | some y =>
    obtain ⟨stop, hstop, hat⟩ := h
    exact ⟨stop, by rw [hstop, size_cons, Nat.add_assoc], hat⟩

lemma findAmong_finds {marker : Marker} (hm : marker.Plain) (hl : marker.Led) {text cs : List Char}
    {pos : Nat} (h : At text pos cs) :
    Finds text pos (findAmong text marker (List.range' pos (size cs))) (marker.cut? cs) := by
  induction cs generalizing pos with
  | nil => rfl
  | cons c cs ih =>
    have hmatch := matchAt_arrives marker h
    rw [range'_size_cons, findAmong, findAmong_inside h]
    cases hs : marker.strip? (c :: cs) with
    | some rest =>
      rw [hs] at hmatch
      obtain ⟨stop, hstop, hat⟩ := hmatch
      obtain ⟨hc, hcould⟩ := couldStart_of_strip? (hm.byteLed hl) hs
      have hbyte : (bytes text)[pos]? = some c.toNat.toUInt8 := by
        have hb := (byteAt_iff (x := c) h hc).2 ⟨cs, rfl⟩
        simpa [byteAt] using hb
      have hcut : marker.cut? (c :: cs) = some ([], rest) := by simp [Marker.cut?, hs]
      rw [hcut]
      refine ⟨stop, ?_, hat⟩
      simp [hbyte, hcould, hstop, pure_eq]
    | none =>
      rw [hs] at hmatch
      have hcut : marker.cut? (c :: cs) =
          (marker.cut? cs).map fun (before, rest) => (c :: before, rest) := by
        simp only [Marker.cut?, hs]
      rw [hcut]
      refine Finds.cons ?_
      split
      · rw [show matchAt text marker pos = found none from hmatch]
        exact ih h.after
      · exact ih h.after

/-- **Looking for a marker by offsets is looking for it in the text.** -/
theorem find_finds {marker : Marker} (hm : marker.Plain) (hl : marker.Led) {text cs : List Char}
    {pos : Nat} (h : At text pos cs) : Finds text pos (find text marker pos) (marker.cut? cs) := by
  have hsize : size text - pos = size cs := by
    rw [h.size_eq]
    omega
  rw [find, hsize]
  exact findAmong_finds hm hl h

/-! ### Up to a place -/

lemma plain_of_mem_markers {d : Dialect} {id : List Char} (hid : IsId id) {marker : Marker}
    (h : marker ∈ d.markers id) : marker.Plain := by
  have hdigits : ∀ c ∈ id, c.toNat < 128 := by
    intro c hc
    have h := hid.1 c hc
    simp only [isIdDigit, Bool.and_eq_true, decide_eq_true_eq] at h
    have : c.toNat ≤ '9'.toNat := UInt32.le_iff_toNat_le.1 h.2
    have : '9'.toNat = 57 := rfl
    omega
  have hword (word : List Char) (hw : ∀ c ∈ word, c.toNat < 128) :
      ∀ c ∈ word ++ id, c.toNat < 128 := List.forall_mem_append.2 ⟨hw, hdigits⟩
  simp only [Dialect.markers, List.mem_cons, List.not_mem_nil, or_false] at h
  intro t ht
  cases d <;> rcases h with rfl | rfl | rfl | rfl | rfl | rfl | rfl | rfl <;>
    simp only [Dialect.expressionClose, Dialect.elseIfOpen, Dialect.elseIfClose,
      Dialect.elseMarker, Dialect.ifEnd, Dialect.loopEnd, Dialect.inclusionClose,
      Dialect.styleParamsClose, List.mem_cons, List.not_mem_nil, or_false, reduceCtorEq,
      Piece.text.injEq, false_or] at ht <;>
    rcases ht with rfl | rfl | rfl | rfl <;>
    first
      | exact hword _ (by decide)
      | decide

lemma find_before {marker : Marker} (hm : marker.Plain) (hl : marker.Led)
    {text chain tail : List Char} {pos stop : Nat} (h : At text pos (chain ++ tail))
    (hstop : At text stop tail) :
    ∃ o, attempt (find text marker pos) = found (some o) ∧
      ((o.filter (·.1 < stop) = none ∧ marker.Silent chain tail) ∨
        ∃ before more rest opened, more ≠ [] ∧ chain = before ++ more ∧
          marker.Silent before (more ++ tail) ∧ marker.strip? (more ++ tail) = some rest ∧
          At text opened rest ∧ o.filter (·.1 < stop) = some (pos + size before, opened)) := by
  have hfind := find_finds hm hl h
  have hplace : stop = pos + size chain := by
    have h1 := h.size_eq
    have h2 := hstop.size_eq
    rw [size_append] at h1
    omega
  cases hcut : marker.cut? (chain ++ tail) with
  | none =>
    rw [hcut] at hfind
    refine ⟨none, by rw [show find text marker pos = found none from hfind]; rfl, .inl ⟨rfl, ?_⟩⟩
    have hsilent := Marker.cut?_eq_none_iff.1 hcut
    simpa using (misses_append.1 hsilent).1
  | some x =>
    obtain ⟨before, rest⟩ := x
    rw [hcut] at hfind
    obtain ⟨opened, hopened, hat⟩ := hfind
    obtain ⟨behind, hsplit, -, hs, hsilent⟩ := Marker.cut?_eq_some_iff.1 hcut
    refine ⟨some (pos + size before, opened), by rw [hopened]; rfl, ?_⟩
    by_cases hlt : size before < size chain
    · obtain ⟨more, hmore, rfl, rfl⟩ := exists_append_of_size_lt hsplit.symm hlt
      refine .inr ⟨before, more, rest, opened, hmore, rfl, hsilent, hs, hat, ?_⟩
      simp [hplace, size_pos hmore]
    · obtain ⟨u, rfl, rfl⟩ := exists_append_of_size_le hsplit (not_lt.1 hlt)
      exact .inl ⟨by simp [hplace], (misses_append.1 hsilent).1⟩

lemma find_within {marker : Marker} (hm : marker.Plain) (hc : marker.Closed) (hl : marker.Led)
    {text chain tail : List Char} {pos stop : Nat} (h : At text pos (chain ++ tail))
    (hstop : At text stop tail) :
    ∃ o, attempt (find text marker pos) = found (some o) ∧
      match marker.cut? chain with
      | none => o.filter (·.2 ≤ stop) = none
      | some (before, rest) => ∃ closed, o.filter (·.2 ≤ stop) = some (pos + size before, closed) ∧
          At text closed (rest ++ tail) := by
  have hfind := find_finds hm hl h
  cases hcut : marker.cut? chain with
  | some x =>
    obtain ⟨before, rest⟩ := x
    have hcut : marker.cut? (chain ++ tail) = some (before, rest ++ tail) :=
      (Marker.cut?_append_iff hc hl).2 hcut
    rw [hcut] at hfind
    obtain ⟨closed, hclosed, hat⟩ := hfind
    refine ⟨some (pos + size before, closed), by rw [hclosed]; rfl, closed, ?_, hat⟩
    have hle : closed ≤ stop := (hat.le_iff hstop).2 (List.suffix_append rest tail)
    simp [hle]
  | none =>
    cases hlong : marker.cut? (chain ++ tail) with
    | none =>
      rw [hlong] at hfind
      exact ⟨none, by rw [hfind]; rfl, rfl⟩
    | some x =>
      obtain ⟨before, rest⟩ := x
      rw [hlong] at hfind
      obtain ⟨closed, hclosed, hat⟩ := hfind
      refine ⟨some (pos + size before, closed), by rw [hclosed]; rfl, ?_⟩
      have hlt : stop < closed := by
        by_contra hle
        rw [not_lt] at hle
        obtain ⟨u, rfl⟩ := (hat.le_iff hstop).1 hle
        have := (Marker.cut?_append_iff hc hl).1 hlong
        simp [hcut] at this
      simp [hlt]

lemma silent_of_cut? {marker : Marker} {before more : List Char} (hmore : more ≠ [])
    (h : ∀ b x, marker.cut? (before ++ more) = some (b, x) → size before < size b) :
    marker.Silent before more ∧ marker.strip? more = none := by
  cases hcut : marker.cut? (before ++ more) with
  | none =>
    have hsilent := misses_append.1 (Marker.cut?_eq_none_iff.1 hcut)
    rw [List.append_nil] at hsilent
    exact ⟨hsilent.1, by simpa using hsilent.2 more List.suffix_rfl hmore⟩
  | some x =>
    have hlt := h x.1 x.2 hcut
    obtain ⟨behind, hsplit, -, -, hsilent⟩ := Marker.cut?_eq_some_iff.1 hcut
    obtain ⟨u, hu, hb, rfl⟩ := exists_append_of_size_lt hsplit hlt
    rw [hb] at hsilent
    have hsilent := misses_append.1 hsilent
    exact ⟨hsilent.1, hsilent.2 u List.suffix_rfl hu⟩

lemma find_cut {d : Dialect} {id : List Char} (hid : IsId id) {marker : Marker}
    (hmem : marker ∈ d.markers id) {text cs : List Char} {pos : Nat} (h : At text pos cs) :
    match marker.cut? cs with
    | none => find text marker pos = found none
    | some (before, rest) => ∃ start stop tail, find text marker pos = found (some (start, stop)) ∧
        cs = before ++ tail ∧ At text start tail ∧ slice? text pos start = some before ∧
        At text stop rest := by
  have hfind := find_finds (plain_of_mem_markers hid hmem) (Dialect.led_of_mem_markers hmem) h
  cases hcut : marker.cut? cs with
  | none => rwa [hcut] at hfind
  | some x =>
    obtain ⟨before, rest⟩ := x
    rw [hcut] at hfind
    obtain ⟨stop, hstop, hat⟩ := hfind
    obtain ⟨tail, rfl, -⟩ := Marker.cut?_eq_some_iff.1 hcut
    exact ⟨_, stop, tail, hstop, rfl, h.forward, h.slice?_eq h.forward, hat⟩

end Pressroom.Markup
