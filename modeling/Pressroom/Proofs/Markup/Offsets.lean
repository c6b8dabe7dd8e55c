import Pressroom.Proofs.Markup.ScanBranches
import Pressroom.Proofs.Markup.Spans

/-!
The scanner finds the directives of a markup, and never takes a slice that is out of bounds: at the
place of a character each step follows the step of reading, and inside a character no directive
starts.
-/

namespace Pressroom.Markup

open Text Scan

/-! ### Directives by offsets -/

lemma isId_takeId (cs : List Char) : IsId (takeId cs).1 := by
  have h : takeId cs = ((takeId cs).1, (takeId cs).2) := rfl
  exact (takeId_eq_iff.1 h).2.1

lemma isId_of_ifHead? {d : Dialect} {cs id rest : List Char} (h : d.ifHead? cs = some (id, rest)) :
    IsId id := by
  cases d <;>
    simp only [Dialect.ifHead?, Option.bind_eq_bind, Option.bind_eq_some_iff, Option.pure_def,
      Option.some.injEq, Prod.mk.injEq] at h <;>
    obtain ⟨r, -, a, -, rfl, -⟩ := h <;>
    exact isId_takeId r

lemma isId_of_loopHead? {d : Dialect} {cs id element rest : List Char} {index : Option (List Char)}
    (h : d.loopHead? cs = some (id, element, index, rest)) : IsId id := by
  cases d <;>
    simp only [Dialect.loopHead?, Option.bind_eq_bind, Option.bind_eq_some_iff, Option.pure_def,
      Option.some.injEq, Prod.mk.injEq, Prod.exists] at h <;>
    obtain ⟨r, -, e, i, b, -, a, -, rfl, -⟩ := h <;>
    exact isId_takeId r

lemma follows_cut (d : Dialect) {id : List Char} (hid : IsId id) {marker : Marker}
    (hmem : marker ∈ d.markers id) {text cs : List Char} {pos : Nat} (h : At text pos cs)
    {α : Type} {next : Nat × Nat → Scan (α × Nat)}
    {read : List Char × List Char → Option (α × List Char)}
    (hnext : ∀ {before tail rest : List Char} {start stop : Nat}, cs = before ++ tail →
      At text start tail → slice? text pos start = some before → At text stop rest →
        Follows text (next (start, stop)) (read (before, rest))) :
    Follows text (find text marker pos >>= next) (marker.cut? cs >>= read) := by
  have hfind := find_cut hid hmem h
  cases hc : marker.cut? cs with
  | none =>
    rw [hc] at hfind
    rw [hfind]
    rfl
  | some x =>
    rw [hc] at hfind
    obtain ⟨start, stop, tail, hf, hsplit, hstart, hslice, hstop⟩ := hfind
    rw [hf, found_bind]
    exact hnext hsplit hstart hslice hstop

lemma scanConditional_follows (d : Dialect) {text cs : List Char} {pos : Nat} (h : At text pos cs) :
    Follows text (scanConditional text d pos) (conditional? d cs) := by
  rw [scanConditional, h.from?_eq, checked_bind, conditional?]
  cases hhead : d.ifHead? cs with
  | none => rfl
  | some x =>
    obtain ⟨id, behind⟩ := x
    have hid := isId_of_ifHead? hhead
    have hplace := h.of_suffix ((local_ifHead? d).suffix hhead)
    refine follows_cut d hid (by simp [Dialect.markers]) hplace
      fun {_ _ _ _ start} _ _ hcondition hstart => ?_
    refine follows_cut d hid (by simp [Dialect.markers]) hstart
      fun {chain tail _ stop after} hsplit hstop _ hafter => ?_
    subst hsplit
    have hbranches (condition : List Char) : scanBranches text d id stop condition start start =
        found (some (branches d id condition [] chain)) :=
      scanBranches_eq hid hstop hstart hstart
    simp only [hcondition, checked_bind, hbranches]
    exact ⟨after, rfl, hafter⟩

lemma scanLoop_follows (d : Dialect) {text cs : List Char} {pos : Nat} (h : At text pos cs) :
    Follows text (scanLoop text d pos) (loop? d cs) := by
  rw [scanLoop, h.from?_eq, checked_bind, loop?]
  cases hhead : d.loopHead? cs with
  | none => rfl
  | some x =>
    obtain ⟨id, element, index, behind⟩ := x
    have hid := isId_of_loopHead? hhead
    have hsuffix : behind <:+ cs :=
      (local_readLoopHead d).suffix (a := (id, element, index)) (by simp [readLoopHead, hhead])
    refine follows_cut d hid (by simp [Dialect.markers]) (h.of_suffix hsuffix)
      fun _ _ harray hstart => ?_
    refine follows_cut d hid (by simp [Dialect.markers]) hstart fun _ _ hbody hafter => ?_
    simp only [harray, hbody, checked_bind]
    exact ⟨_, rfl, hafter⟩

lemma scanInclusion_follows (d : Dialect) {text cs : List Char} {pos : Nat} (h : At text pos cs) :
    Follows text (scanInclusion text d pos) (inclusion? d cs) := by
  rw [scanInclusion, h.from?_eq, checked_bind, inclusion?]
  cases hhead : d.inclusionHead? cs with
  | none => rfl
  | some behind =>
    have hsuffix : behind <:+ cs :=
      (local_inclusionHead? d).suffix (a := ()) (by simp [Reader.skip, hhead])
    refine follows_cut d isId_nil (by simp [Dialect.markers]) (h.of_suffix hsuffix)
      fun _ _ hsource hafter => ?_
    simp only [hsource, checked_bind]
    split
    · rfl
    · exact ⟨_, rfl, hafter⟩

lemma scanStyle_follows (d : Dialect) {text cs : List Char} {pos : Nat} (h : At text pos cs) :
    Follows text (scanStyle text d pos) (style? d cs) := by
  rw [scanStyle, h.from?_eq, checked_bind, style?]
  cases hhead : d.styleHead? cs with
  | none => rfl
  | some behind =>
    have hsuffix : behind <:+ cs :=
      (local_styleHead? d).suffix (a := ()) (by simp [Reader.skip, hhead])
    have hplace := h.of_suffix hsuffix
    have hmatch := matchAt_arrives d.styleClose hplace
    simp only [found_bind, Option.bind_eq_bind, Option.bind_some]
    cases hs : d.styleClose.strip? behind with
    | some rest =>
      rw [hs] at hmatch
      obtain ⟨after, hm, hafter⟩ := hmatch
      rw [hm]
      exact ⟨after, rfl, hafter⟩
    | none =>
      rw [hs] at hmatch
      have hmatch : matchAt text d.styleClose (pos + (size cs - size behind)) = found none := hmatch
      simp only [hmatch, attempt_found, found_bind]
      have hbyte := byteAt_iff (x := '[') hplace (by decide)
      by_cases hb : ∃ rest, behind = '[' :: rest
      · obtain ⟨rest, rfl⟩ := hb
        rw [if_pos (hbyte.2 ⟨rest, rfl⟩)]
        refine follows_cut d isId_nil (by simp [Dialect.markers]) (hplace.next (by decide))
          fun _ _ hparams hafter => ?_
        simp only [hparams, checked_bind]
        exact ⟨_, rfl, hafter⟩
      · rw [if_neg fun hc => hb (hbyte.1 hc)]
        cases behind with
        | nil => rfl
        | cons c behind =>
          have hc : c ≠ '[' := by
            rintro rfl
            exact hb ⟨behind, rfl⟩
          split
          · next heq => simp at heq
          · next heq => exact absurd (List.cons.inj heq).1 hc
          · rfl

lemma scanDialect_follows (d : Dialect) {text cs : List Char} {pos : Nat} (h : At text pos cs) :
    Follows text (scanDialect text d pos) (dialect? d cs) :=
  (scanConditional_follows d h).orElse ((scanLoop_follows d h).orElse
    ((scanInclusion_follows d h).orElse (scanStyle_follows d h)))

lemma scanExpression_follows {text cs : List Char} {pos : Nat}
    (h : At text pos ('{' :: '{' :: cs)) :
    Follows text (scanExpression text pos)
      ((Text.cut? ['}', '}'] cs).map fun (source, rest) => (.expression source, rest)) := by
  have hplain : Marker.Plain [.text ['}', '}']] := by
    intro t ht
    simp only [List.mem_singleton, Piece.text.injEq] at ht
    subst ht
    decide
  have hplace : At text (pos + 2) cs := (h.next (by decide)).next (by decide)
  have hled : Marker.Led [.text ['}', '}']] := rfl
  have hfind := find_finds hplain hled hplace
  rw [scanExpression, Marker.cut?_braces]
  cases hc : Marker.cut? [.text ['}', '}']] cs with
  | none =>
    rw [hc] at hfind
    rw [hfind]
    rfl
  | some x =>
    obtain ⟨source, rest⟩ := x
    rw [hc] at hfind
    obtain ⟨after, hf, hafter⟩ := hfind
    obtain ⟨tail, rfl, -⟩ := Marker.cut?_eq_some_iff.1 hc
    simp only [hf, found_bind, hplace.slice?_eq hplace.forward, checked_bind]
    exact ⟨after, rfl, hafter⟩

lemma byteAt_two_iff {text cs : List Char} {pos : Nat} (h : At text pos cs) {x y : Char}
    (hx : x.toNat < 128) (hy : y.toNat < 128) :
    (byteAt text pos x && byteAt text (pos + 1) y) = true ↔ ∃ rest, cs = x :: y :: rest := by
  rw [Bool.and_eq_true, byteAt_iff h hx]
  constructor
  · rintro ⟨⟨rest, rfl⟩, hb⟩
    obtain ⟨more, rfl⟩ := (byteAt_iff (h.next hx) hy).1 hb
    exact ⟨more, rfl⟩
  · rintro ⟨rest, rfl⟩
    exact ⟨⟨_, rfl⟩, (byteAt_iff (h.next hx) hy).2 ⟨rest, rfl⟩⟩

lemma tagAt_iff {text cs : List Char} {pos : Nat} (h : At text pos cs) :
    (byteAt text pos '<' && (byteAt text (pos + 1) 'a' || byteAt text (pos + 1) 'A')) = true ↔
      ∃ c rest, cs = '<' :: c :: rest ∧ (c = 'a' ∨ c = 'A') := by
  rw [Bool.and_or_distrib_left, Bool.or_eq_true, byteAt_two_iff h (by decide) (by decide),
    byteAt_two_iff h (by decide) (by decide)]
  constructor
  · rintro (⟨rest, rfl⟩ | ⟨rest, rfl⟩)
    · exact ⟨_, rest, rfl, .inl rfl⟩
    · exact ⟨_, rest, rfl, .inr rfl⟩
  · rintro ⟨c, rest, rfl, rfl | rfl⟩
    · exact .inl ⟨rest, rfl⟩
    · exact .inr ⟨rest, rfl⟩

/-- **A directive by offsets is the directive of the text at the place.** -/
theorem scanDirective_follows {text cs : List Char} {pos : Nat} (h : At text pos cs) :
    Follows text (scanDirective text pos) (directive? cs) := by
  unfold scanDirective directive?
  split
  · next hb =>
    obtain ⟨rest, rfl⟩ := (byteAt_two_iff h (by decide) (by decide)).1 hb
    exact scanDialect_follows .bracket h
  · next hb =>
    have hbracket : ¬ ∃ rest, cs = '%' :: '%' :: rest := fun hc =>
      hb ((byteAt_two_iff h (by decide) (by decide)).2 hc)
    split
    · next hb =>
      obtain ⟨c, rest, rfl, hc⟩ := (tagAt_iff h).1 hb
      have hc : (decide (c = 'a') || decide (c = 'A')) = true := by simpa using hc
      simp only [hc]
      exact scanDialect_follows .tag h
    · next hb =>
      have htag : ¬ ∃ c rest, cs = '<' :: c :: rest ∧ (c = 'a' ∨ c = 'A') := fun hc =>
        hb ((tagAt_iff h).2 hc)
      split
      · next hb =>
        obtain ⟨rest, rfl⟩ := (byteAt_two_iff h (by decide) (by decide)).1 hb
        exact scanExpression_follows h
      · next hb =>
        have hbraces : ¬ ∃ rest, cs = '{' :: '{' :: rest := fun hc =>
          hb ((byteAt_two_iff h (by decide) (by decide)).2 hc)
        split
        · exact absurd ⟨_, rfl⟩ hbracket
        · next c rest =>
          rw [if_neg fun hc => htag ⟨c, rest, rfl, by simpa using hc⟩]
          rfl
        · exact absurd ⟨_, rfl⟩ hbraces
        · rfl

/-! ### Whole markup by offsets -/

lemma scanDirective_inside {text cs : List Char} {c : Char} {pos k : Nat}
    (h : At text pos (c :: cs)) (hk : 0 < k) (hlt : k < c.utf8Size) :
    scanDirective text (pos + k) = found none := by
  obtain ⟨b, hb, hle⟩ := h.byte_inside hk hlt
  have hbyte (x : Char) (hx : x.toNat.toUInt8.toNat < 128) : byteAt text (pos + k) x = false := by
    rw [byteAt, hb, beq_eq_false_iff_ne]
    rintro heq
    rw [Option.some.injEq] at heq
    rw [heq] at hle
    omega
  have h1 := hbyte '%' (by decide)
  have h2 := hbyte '<' (by decide)
  have h3 := hbyte '{' (by decide)
  simp [scanDirective, h1, h2, h3]

lemma scanFrom_skip {text cs : List Char} {c : Char} {start pos : Nat} (h : At text pos (c :: cs))
    (hd : scanDirective text pos = found none) :
    scanFrom text start pos = scanFrom text start (pos + c.utf8Size) := by
  have key (k : Nat) (hk : k ≤ c.utf8Size) :
      scanFrom text start pos = scanFrom text start (pos + k) := by
    induction k with
    | zero => rfl
    | succ k ih =>
      have hnone : scanDirective text (pos + k) = found none := by
        rcases Nat.eq_zero_or_pos k with rfl | hpos
        · exact hd
        · exact scanDirective_inside h hpos (by omega)
      have hlt : pos + k < size text := by
        have := h.size_eq
        rw [size_cons] at this
        omega
      rw [ih (by omega), scanFrom, dif_pos hlt, hnone]
      rfl
  exact key _ (Nat.le_refl _)

lemma scanFrom_eq {text before cs : List Char} {start pos : Nat}
    (hstart : At text start (before ++ cs)) (h : At text pos cs) :
    scanFrom text start pos = found (some (before.foldr prepend (directives cs))) := by
  have hplace : pos = start + size before := by
    have h1 := hstart.size_eq
    have h2 := h.size_eq
    rw [size_append] at h1
    omega
  induction cs using scan_induction generalizing before start pos with
  | nil =>
    have hend : pos = size text := by
      have := h.size_eq
      simpa using this.symm
    subst hend
    rw [scanFrom, dif_neg (Nat.lt_irrefl _), directives]
    by_cases hne : before = []
    · subst hne
      simp [hplace, pure_eq]
    · have := size_pos hne
      rw [if_pos (by omega), hstart.slice?_eq h, foldr_prepend hne (by simp)]
      rfl
  | found cs directive rest hd ih =>
    have hfollows := scanDirective_follows h
    rw [hd] at hfollows
    obtain ⟨stop, hscan, hrest⟩ := hfollows
    have hforward : pos < stop := h.lt_of_length_lt hrest (directive?_shrinks hd).1
    have hlt : pos < size text := hforward.trans_le hrest.le_size
    have hmore := @ih [] stop stop hrest hrest rfl
    rw [List.foldr_nil] at hmore
    have hhead : ∀ d ∈ (directive :: directives rest).head?, ∀ t, d ≠ .text t := by
      intro d hd'
      obtain rfl : directive = d := Option.some.inj hd'
      exact ne_text_of_directive? hd
    rw [scanFrom, dif_pos hlt, hscan, directives_of_directive? hd]
    by_cases hne : before = []
    · subst hne
      have hstart : ¬ start < pos := by simp [hplace]
      simp [hstart, hforward, hmore, pure_eq]
    · have hpos := size_pos hne
      have hstart' : start < pos := by omega
      rw [foldr_prepend hne hhead]
      simp [hstart', hforward, hmore, hstart.slice?_eq h, pure_eq]
  | passed c cs hd ih =>
    have hfollows := scanDirective_follows h
    rw [hd] at hfollows
    have hmore := @ih (before ++ [c]) start (pos + c.utf8Size) (by simpa using hstart) h.after
      (by rw [size_append, size_cons, size_nil]; omega)
    rw [scanFrom_skip h hfollows, hmore, directives_of_none hd]
    simp

/-- **The directives of a markup by offsets are its directives**: every slice is taken between two
places, and the scanner always goes forward. -/
theorem scan_eq (text : List Char) : scan text = found (some (directives text)) :=
  @scanFrom_eq text [] text 0 0 (At.zero text) (At.zero text)

end Pressroom.Markup
