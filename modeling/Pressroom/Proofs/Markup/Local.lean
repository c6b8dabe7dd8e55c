import Pressroom.Markup.Scan
import Pressroom.Proofs.Markup.Marker

/-!
Directives are read locally: what a directive is depends on its own text and not on what stands
behind it. Every step of reading a directive has this property, or has it as long as something is
left behind what it takes, which the next step then needs; the property goes through sequence and
choice. Main statement: `directive?_append_iff`.
-/

namespace Pressroom.Markup

open Text

/-- A step of reading: what it finds at the start of a text, and what follows that. -/
abbrev Reader (α : Type) := List Char → Option (α × List Char)

/-- A step that finds nothing but a place. -/
def Reader.skip (p : List Char → Option (List Char)) : Reader Unit :=
  fun cs => (p cs).map ((), ·)

/-- The step does not see what stands behind what it takes. A step that is not firm may do so where
it takes the whole text. -/
structure Local {α : Type} (firm : Bool) (p : Reader α) : Prop where
  suffix : ∀ {cs a rest}, p cs = some (a, rest) → rest <:+ cs
  append_iff : ∀ {cs more a rest}, firm = true ∨ rest ≠ [] →
    (p (cs ++ more) = some (a, rest ++ more) ↔ p cs = some (a, rest))

namespace Local

variable {α β : Type} {firm firm' : Bool} {p : Reader α}

/-- A step and then another one, which must need some text if the first step is not firm. -/
theorem bind {q : α → Reader β} (hp : Local firm p) (hq : ∀ a, Local firm' (q a))
    (hnil : firm = true ∨ ∀ a, q a [] = none) :
    Local firm' fun cs => (p cs).bind fun x => q x.1 x.2 where
  suffix h := by
    obtain ⟨⟨a, r⟩, h1, h2⟩ := Option.bind_eq_some_iff.1 h
    exact ((hq a).suffix h2).trans (hp.suffix h1)
  append_iff {cs more b rest} hr := by
    have hne {a : α} {r : List Char} (h : q a r = some (b, rest)) : firm = true ∨ r ≠ [] := by
      refine hnil.imp_right fun hnil => ?_
      rintro rfl
      simp [hnil a] at h
    simp only [Option.bind_eq_some_iff, Prod.exists]
    constructor
    · rintro ⟨a, r, h1, h2⟩
      obtain ⟨u, hu⟩ := (hq a).suffix h2
      rw [← List.append_assoc] at hu
      subst hu
      have h2 := ((hq a).append_iff hr).1 h2
      exact ⟨a, _, (hp.append_iff (hne h2)).1 h1, h2⟩
    · rintro ⟨a, r, h1, h2⟩
      exact ⟨a, _, (hp.append_iff (hne h2)).2 h1, ((hq a).append_iff hr).2 h2⟩

theorem map (f : α → β) (hp : Local firm p) :
    Local firm fun cs => (p cs).map fun x => (f x.1, x.2) where
  suffix h := by
    obtain ⟨⟨a, r⟩, h1, h2⟩ := Option.map_eq_some_iff.1 h
    obtain ⟨-, rfl⟩ := Prod.mk.inj h2
    exact hp.suffix h1
  append_iff hr := by
    simp only [Option.map_eq_some_iff, Prod.exists, Prod.mk.injEq]
    constructor
    · rintro ⟨a, r, h1, rfl, rfl⟩
      exact ⟨a, _, (hp.append_iff hr).1 h1, rfl, rfl⟩
    · rintro ⟨a, r, h1, rfl, rfl⟩
      exact ⟨a, _, (hp.append_iff hr).2 h1, rfl, rfl⟩

/-- A step that drops what it finds unless that passes a test. -/
theorem filter (keep : α → Bool) (hp : Local firm p) :
    Local firm fun cs => (p cs).bind fun x => if keep x.1 then some x else none where
  suffix h := by
    obtain ⟨⟨a, r⟩, h1, h2⟩ := Option.bind_eq_some_iff.1 h
    rw [Option.ite_none_right_eq_some] at h2
    obtain ⟨-, rfl, rfl⟩ : _ ∧ _ ∧ _ := ⟨h2.1, Prod.mk.inj (Option.some.inj h2.2)⟩
    exact hp.suffix h1
  append_iff hr := by
    simp only [Option.bind_eq_some_iff, Prod.exists, Option.ite_none_right_eq_some,
      Option.some.injEq, Prod.mk.injEq]
    constructor
    · rintro ⟨a, r, h1, hk, rfl, rfl⟩
      exact ⟨a, _, (hp.append_iff hr).1 h1, hk, rfl, rfl⟩
    · rintro ⟨a, r, h1, hk, rfl, rfl⟩
      exact ⟨a, _, (hp.append_iff hr).2 h1, hk, rfl, rfl⟩

/-- A choice between two steps that never both succeed. -/
theorem orElse {q : Reader α} (hp : Local firm p) (hq : Local firm q)
    (apart : ∀ cs x, q cs = some x → p cs = none) : Local firm fun cs => (p cs).or (q cs) where
  suffix h := by
    rcases Option.or_eq_some_iff.1 h with h | ⟨-, h⟩
    · exact hp.suffix h
    · exact hq.suffix h
  append_iff {cs more a rest} hr := by
    simp only [Option.or_eq_some_iff]
    constructor
    · rintro (h | ⟨-, h⟩)
      · exact .inl ((hp.append_iff hr).1 h)
      · have h := (hq.append_iff hr).1 h
        exact .inr ⟨apart _ _ h, h⟩
    · rintro (h | ⟨-, h⟩)
      · exact .inl ((hp.append_iff hr).2 h)
      · have h : q (cs ++ more) = some (a, rest ++ more) := (hq.append_iff hr).2 h
        exact .inr ⟨apart _ _ h, h⟩

theorem skip {p : List Char → Option (List Char)}
    (suffix : ∀ {cs rest}, p cs = some rest → rest <:+ cs)
    (append_iff : ∀ {cs more rest}, p (cs ++ more) = some (rest ++ more) ↔ p cs = some rest) :
    Local firm (Reader.skip p) where
  suffix h := by
    obtain ⟨r, hr, he⟩ := Option.map_eq_some_iff.1 h
    exact (Prod.mk.inj he).2 ▸ suffix hr
  append_iff _ := by simp [Reader.skip, append_iff]

end Local

/-! ### Heads -/

lemma local_strip? {marker : Marker} (h : marker.Closed) :
    Local true (Reader.skip marker.strip?) :=
  .skip Marker.strip?_suffix (Marker.strip?_append_iff h)

lemma local_cut? (d : Dialect) (id : List Char) (marker : Marker)
    (h : marker ∈ d.markers id := by simp [Dialect.markers]) : Local true marker.cut? where
  suffix := Marker.cut?_suffix
  append_iff _ :=
    Marker.cut?_append_iff (Dialect.closed_of_mem_markers h) (Dialect.led_of_mem_markers h)

lemma local_afterWord? (word : String) : Local true (Reader.skip (afterWord? word)) :=
  .skip stripFolded?_suffix stripFolded?_append_iff

lemma local_skipBlanks : Local false fun cs => some ((), skipBlanks cs) where
  suffix h := by
    obtain ⟨-, rfl⟩ := Prod.mk.inj (Option.some.inj h)
    exact skipBlanks_suffix _
  append_iff hr := by
    simp [skipBlanks_append_iff (by simpa using hr)]

lemma local_afterQuote? : Local true (Reader.skip afterQuote?) := by
  have h : Marker.strip? [.quote] = afterQuote? := by
    funext cs
    simp only [Marker.strip?]
    cases afterQuote? cs <;> rfl
  have hclosed : Marker.Closed [.quote] := trivial
  exact h ▸ local_strip? hclosed

/-- An id: at most two digits. -/
def IsId (id : List Char) : Prop :=
  (∀ c ∈ id, isIdDigit c = true) ∧ id.length ≤ 2
  deriving Decidable

lemma isId_nil : IsId [] :=
  ⟨by simp, by simp⟩

lemma takeId_eq_iff {cs id rest : List Char} :
    takeId cs = (id, rest) ↔
      cs = id ++ rest ∧ IsId id ∧ (id.length < 2 → ∀ c ∈ rest.head?, isIdDigit c = false) := by
  constructor
  · intro h
    unfold takeId at h
    split at h
    · next a b r =>
      split at h
      · next ha =>
        split at h
        · next hb =>
          obtain ⟨rfl, rfl⟩ := Prod.mk.inj h
          simp [IsId, ha, hb]
        · next hb =>
          obtain ⟨rfl, rfl⟩ := Prod.mk.inj h
          simp [IsId, ha, hb]
      · next ha =>
        obtain ⟨rfl, rfl⟩ := Prod.mk.inj h
        simp [IsId, ha]
    · next a =>
      split at h
      · next ha =>
        obtain ⟨rfl, rfl⟩ := Prod.mk.inj h
        simp [IsId, ha]
      · next ha =>
        obtain ⟨rfl, rfl⟩ := Prod.mk.inj h
        simp [IsId, ha]
    · obtain ⟨rfl, rfl⟩ := Prod.mk.inj h
      simp [IsId]
  · rintro ⟨rfl, ⟨hd, hl⟩, hr⟩
    match id, hd, hl, hr with
    | [], _, _, hr =>
      match rest with
      | [] => rfl
      | [a] => simp [takeId, hr (by simp) a rfl]
      | a :: b :: r => simp [takeId, hr (by simp) a rfl]
    | [a], hd, _, hr =>
      match rest with
      | [] => simp [takeId, hd a (by simp)]
      | b :: r => simp [takeId, hd a (by simp), hr (by simp) b rfl]
    | [a, b], hd, _, _ => simp [takeId, hd a (by simp), hd b (by simp)]

lemma local_takeId : Local false fun cs => some (takeId cs) where
  suffix h := ⟨_, (takeId_eq_iff.1 (Option.some.inj h)).1.symm⟩
  append_iff {cs more id rest} hr := by
    obtain ⟨c, r, rfl⟩ := List.exists_cons_of_ne_nil (hr.resolve_left (by simp))
    simp only [Option.some.injEq, takeId_eq_iff, ← List.append_assoc, List.append_left_inj]
    rfl

lemma afterChar?_eq_some_iff {c : Char} {cs rest : List Char} :
    afterChar? c cs = some rest ↔ skipBlanks cs = c :: rest := by
  unfold afterChar?
  split
  · next d r h => simp [h]
  · next h => simp [h]

lemma local_afterChar? (c : Char) : Local true (Reader.skip (afterChar? c)) :=
  .skip
    (fun h => (List.suffix_cons c _).trans (afterChar?_eq_some_iff.1 h ▸ skipBlanks_suffix _))
    (by
      intro cs more rest
      rw [afterChar?_eq_some_iff, afterChar?_eq_some_iff]
      exact skipBlanks_append_iff (List.cons_ne_nil c rest))

lemma loopVariable?_eq_some_iff {cs name rest : List Char} :
    loopVariable? cs = some (name, rest) ↔
      ∃ c tail, skipBlanks cs = c :: tail ∧ isVariableStart c = true ∧
        c :: tail.takeWhile isVariablePart = name ∧ tail.dropWhile isVariablePart = rest := by
  unfold loopVariable?
  split
  · next c tail h => simp [h]
  · next h => simp [h]

lemma local_loopVariable? : Local false loopVariable? where
  suffix h := by
    obtain ⟨c, tail, h1, -, -, rfl⟩ := loopVariable?_eq_some_iff.1 h
    exact (List.dropWhile_suffix _).trans
      ((List.suffix_cons c tail).trans (h1 ▸ skipBlanks_suffix _))
  append_iff {cs more name rest} hr := by
    have hr := hr.resolve_left (by simp)
    rw [loopVariable?_eq_some_iff, loopVariable?_eq_some_iff]
    constructor
    · rintro ⟨c, tail, h1, hc, hn, h2⟩
      obtain ⟨u, rfl⟩ : more <:+ tail :=
        (List.suffix_append rest more).trans (h2 ▸ List.dropWhile_suffix _)
      have h2 := (dropWhile_append_iff hr).1 h2
      rw [takeWhile_append_of_dropWhile_ne_nil more (by rwa [h2])] at hn
      exact ⟨c, u, (skipBlanks_append_iff (by simp)).1 h1, hc, hn, h2⟩
    · rintro ⟨c, tail, h1, hc, rfl, rfl⟩
      refine ⟨c, tail ++ more, (skipBlanks_append_iff (List.cons_ne_nil c tail)).2 h1, hc, ?_,
        (dropWhile_append_iff hr).2 rfl⟩
      rw [takeWhile_append_of_dropWhile_ne_nil more hr]

/-- The step that names a loop's variables. -/
def readVariables : Reader (List Char × Option (List Char)) :=
  fun cs => (variables? cs).map fun x => ((x.1, x.2.1), x.2.2)

/-- The rest of the variables where there is one of them. -/
def readOnly (element : List Char) : Reader (List Char × Option (List Char)) :=
  fun cs => (Reader.skip (afterChar? ']') cs).map fun x => ((element, none), x.2)

/-- The rest of the variables where there are two of them. -/
def readSecond (element : List Char) : Reader (List Char × Option (List Char)) := fun cs =>
  (Reader.skip (afterChar? ',') cs).bind fun x => (loopVariable? x.2).bind fun y =>
    (Reader.skip (afterChar? ']') y.2).map fun z => ((element, some y.1), z.2)

lemma readVariables_eq : readVariables = fun cs =>
    (Reader.skip (afterChar? '[') cs).bind fun x => (loopVariable? x.2).bind fun y =>
      (readSecond y.1 y.2).or (readOnly y.1 y.2) := by
  funext cs
  simp only [readVariables, variables?, Reader.skip, readSecond, readOnly]
  cases afterChar? '[' cs with
  | none => rfl
  | some r1 =>
    simp only [Option.bind_eq_bind, Option.bind_some, Option.map_some]
    cases loopVariable? r1 with
    | none => rfl
    | some x =>
      obtain ⟨element, r2⟩ := x
      simp only [Option.bind_some]
      cases h : afterChar? ',' r2 with
      | none =>
        simp only [Option.map_none, Option.bind_none, Option.none_or]
        cases afterChar? ']' r2 <;> rfl
      | some r3 =>
        have hnone : afterChar? ']' r2 = none := by
          rw [afterChar?_eq_some_iff] at h
          simp [afterChar?, h]
        simp only [Option.map_some, Option.bind_some, hnone, Option.map_none, Option.or_none]
        cases loopVariable? r3 with
        | none => rfl
        | some x =>
          obtain ⟨index, r4⟩ := x
          simp only [Option.bind_some]
          cases afterChar? ']' r4 <;> rfl

lemma local_readVariables : Local true readVariables := by
  have honly (element : List Char) : Local true (readOnly element) :=
    (local_afterChar? ']').map fun _ => (element, none)
  have hsecond (element : List Char) : Local true (readSecond element) :=
    (local_afterChar? ',').bind (fun _ => local_loopVariable?.bind
      (fun index => (local_afterChar? ']').map fun _ => (element, some index))
      (.inr fun _ => rfl)) (.inl rfl)
  have hrest (element : List Char) :
      Local true fun cs => (readSecond element cs).or (readOnly element cs) := by
    refine (hsecond element).orElse (honly element) fun cs x h => ?_
    obtain ⟨r, hr, -⟩ := Option.map_eq_some_iff.1 h
    obtain ⟨r', hr', -⟩ := Option.map_eq_some_iff.1 hr
    rw [afterChar?_eq_some_iff] at hr'
    simp [readSecond, Reader.skip, afterChar?, hr']
  exact readVariables_eq ▸ (local_afterChar? '[').bind
    (fun _ => local_loopVariable?.bind hrest (.inr fun _ => rfl)) (.inl rfl)

lemma local_afterAttribute? {keyword : String} (h : afterWord? keyword [] = none) :
    Local true (Reader.skip (afterAttribute? keyword)) := by
  have heq : Reader.skip (afterAttribute? keyword) = fun cs =>
      (some ((), skipBlanks cs)).bind fun x => (Reader.skip (afterWord? keyword) x.2).bind fun x =>
        (Reader.skip (afterChar? '=') x.2).bind fun x =>
          (some ((), skipBlanks x.2)).bind fun x => Reader.skip afterQuote? x.2 := by
    funext cs
    simp only [Reader.skip, afterAttribute?, Option.bind_eq_bind, Option.bind_some]
    cases afterWord? keyword (skipBlanks cs) with
    | none => rfl
    | some r1 =>
      simp only [Option.bind_some, Option.map_some]
      cases afterChar? '=' r1 <;> rfl
  rw [heq]
  refine local_skipBlanks.bind (fun _ => (local_afterWord? keyword).bind (fun _ =>
    (local_afterChar? '=').bind (fun _ => local_skipBlanks.bind (fun _ => local_afterQuote?)
      (.inr fun _ => rfl)) (.inl rfl)) (.inl rfl)) (.inr fun _ => ?_)
  simp [Reader.skip, h]

/-- A keyword with an id behind it, and a step that comes next. -/
def readKeyed {α : Type} (word : String) (p : Reader α) : Reader (List Char × α) := fun cs =>
  (Reader.skip (afterWord? word) cs).bind fun x => (some (takeId x.2)).bind fun y =>
    (p y.2).map fun z => ((y.1, z.1), z.2)

lemma local_readKeyed {α : Type} (word : String) {p : Reader α} (hp : Local true p)
    (hnil : p [] = none) : Local true (readKeyed word p) :=
  (local_afterWord? word).bind (fun _ => local_takeId.bind
    (fun id => hp.map fun a => (id, a)) (.inr fun _ => by simp [hnil])) (.inl rfl)

lemma local_ifHead? (d : Dialect) : Local true fun cs => d.ifHead? cs := by
  cases d with
  | bracket =>
    have heq : (fun cs => Dialect.ifHead? cs .bracket) = fun cs =>
        (readKeyed "%%if" (Reader.skip (afterChar? '{')) cs).map fun x => (x.1.1, x.2) := by
      funext cs
      simp only [Reader.skip, readKeyed, Dialect.ifHead?]
      cases afterWord? "%%if" cs with
      | none => rfl
      | some r =>
        simp only [Option.bind_eq_bind, Option.bind_some, Option.map_some]
        cases afterChar? '{' (takeId r).2 <;> rfl
    exact heq ▸ (local_readKeyed "%%if" (local_afterChar? '{') rfl).map Prod.fst
  | tag =>
    have heq : (fun cs => Dialect.ifHead? cs .tag) = fun cs =>
        (readKeyed "<a-if" (Reader.skip (afterAttribute? "condition")) cs).map
          fun x => (x.1.1, x.2) := by
      funext cs
      simp only [Reader.skip, readKeyed, Dialect.ifHead?]
      cases afterWord? "<a-if" cs with
      | none => rfl
      | some r =>
        simp only [Option.bind_eq_bind, Option.bind_some, Option.map_some]
        cases afterAttribute? "condition" (takeId r).2 <;> rfl
    exact heq ▸ (local_readKeyed "<a-if" (local_afterAttribute? rfl) rfl).map Prod.fst

/-- The step that reads the head of a loop: its id and its variables. -/
def readLoopHead (d : Dialect) : Reader (List Char × List Char × Option (List Char)) :=
  fun cs => (d.loopHead? cs).map fun x => ((x.1, x.2.1, x.2.2.1), x.2.2.2)

lemma local_readLoopHead (d : Dialect) : Local true (readLoopHead d) := by
  cases d with
  | bracket =>
    have heq : readLoopHead .bracket = readKeyed "%%for" fun cs => (readVariables cs).bind
        fun x => (Reader.skip (afterChar? '{') x.2).map fun y => (x.1, y.2) := by
      funext cs
      simp only [Reader.skip, readKeyed, readLoopHead, Dialect.loopHead?, readVariables]
      cases afterWord? "%%for" cs with
      | none => rfl
      | some r =>
        simp only [Option.bind_eq_bind, Option.bind_some, Option.map_some]
        cases variables? (takeId r).2 with
        | none => rfl
        | some x =>
          simp only [Option.bind_some, Option.map_some]
          cases afterChar? '{' x.2.2 <;> rfl
    exact heq ▸ local_readKeyed "%%for" (local_readVariables.bind
      (fun names => (local_afterChar? '{').map fun _ => names) (.inl rfl)) rfl
  | tag =>
    have heq : readLoopHead .tag = readKeyed "<a-for" fun cs => (readVariables cs).bind
        fun x => (Reader.skip (afterAttribute? "array") x.2).map fun y => (x.1, y.2) := by
      funext cs
      simp only [Reader.skip, readKeyed, readLoopHead, Dialect.loopHead?, readVariables]
      cases afterWord? "<a-for" cs with
      | none => rfl
      | some r =>
        simp only [Option.bind_eq_bind, Option.bind_some, Option.map_some]
        cases variables? (takeId r).2 with
        | none => rfl
        | some x =>
          simp only [Option.bind_some, Option.map_some]
          cases afterAttribute? "array" x.2.2 <;> rfl
    exact heq ▸ local_readKeyed "<a-for" (local_readVariables.bind
      (fun names => (local_afterAttribute? rfl).map fun _ => names) (.inl rfl)) rfl

lemma local_inclusionHead? (d : Dialect) :
    Local true (Reader.skip fun cs => d.inclusionHead? cs) := by
  have heq (word : String) : (Reader.skip fun cs => (afterWord? word cs).bind fun r =>
      afterChar? '[' (takeId r).2) = fun cs =>
      (readKeyed word (Reader.skip (afterChar? '[')) cs).map fun x => ((), x.2) := by
    funext cs
    simp only [Reader.skip, readKeyed]
    cases afterWord? word cs with
    | none => rfl
    | some r =>
      simp only [Option.bind_some, Option.map_some]
      cases afterChar? '[' (takeId r).2 <;> rfl
  cases d with
  | bracket =>
    exact heq "%%section" ▸ (local_readKeyed "%%section" (local_afterChar? '[') rfl).map fun _ => ()
  | tag =>
    exact heq "<a-section" ▸
      (local_readKeyed "<a-section" (local_afterChar? '[') rfl).map fun _ => ()

lemma local_styleHead? (d : Dialect) : Local false (Reader.skip fun cs => d.styleHead? cs) := by
  have heq (word : String) : (Reader.skip fun cs => (afterWord? word cs).bind fun r =>
      some (skipBlanks r)) = fun cs => (Reader.skip (afterWord? word) cs).bind fun x =>
        some ((), skipBlanks x.2) := by
    funext cs
    simp only [Reader.skip]
    cases afterWord? word cs <;> rfl
  cases d with
  | bracket =>
    exact heq "%%style" ▸ (local_afterWord? "%%style").bind (fun _ => local_skipBlanks) (.inl rfl)
  | tag =>
    exact heq "<a-style" ▸ (local_afterWord? "<a-style").bind (fun _ => local_skipBlanks) (.inl rfl)

/-! ### Directives -/

lemma local_conditional? (d : Dialect) : Local true (conditional? d) := by
  have heq : conditional? d = fun cs => (d.ifHead? cs).bind fun x =>
      (d.expressionClose.cut? x.2).bind fun y => ((d.ifEnd x.1).cut? y.2).map fun z =>
        (.conditional (branches d x.1 y.1 [] z.1).1 (branches d x.1 y.1 [] z.1).2, z.2) := by
    funext cs
    simp only [conditional?]
    cases d.ifHead? cs with
    | none => rfl
    | some x =>
      simp only [Option.bind_eq_bind, Option.bind_some]
      cases d.expressionClose.cut? x.2 with
      | none => rfl
      | some y =>
        simp only [Option.bind_some]
        cases (d.ifEnd x.1).cut? y.2 <;> rfl
  exact heq ▸ (local_ifHead? d).bind (fun id =>
    (local_cut? d id d.expressionClose).bind (fun condition =>
      (local_cut? d id (d.ifEnd id)).map fun chain =>
        Directive.conditional (branches d id condition [] chain).1
          (branches d id condition [] chain).2) (.inl rfl)) (.inl rfl)

lemma local_loop? (d : Dialect) : Local true (loop? d) := by
  have heq : loop? d = fun cs => (readLoopHead d cs).bind fun x =>
      (d.expressionClose.cut? x.2).bind fun y => ((d.loopEnd x.1.1).cut? y.2).map fun z =>
        (.loop (String.ofList x.1.2.1) (x.1.2.2.map String.ofList) y.1 z.1, z.2) := by
    funext cs
    simp only [loop?, readLoopHead]
    cases d.loopHead? cs with
    | none => rfl
    | some x =>
      simp only [Option.bind_eq_bind, Option.bind_some, Option.map_some]
      cases d.expressionClose.cut? x.2.2.2 with
      | none => rfl
      | some y =>
        simp only [Option.bind_some]
        cases (d.loopEnd x.1).cut? y.2 <;> rfl
  exact heq ▸ (local_readLoopHead d).bind (fun x =>
    (local_cut? d x.1 d.expressionClose).bind (fun array =>
      (local_cut? d x.1 (d.loopEnd x.1)).map fun body =>
        Directive.loop (String.ofList x.2.1) (x.2.2.map String.ofList) array body) (.inl rfl))
    (.inl rfl)

lemma local_inclusion? (d : Dialect) : Local true (inclusion? d) := by
  have heq : inclusion? d = fun cs => (Reader.skip (fun cs => d.inclusionHead? cs) cs).bind fun x =>
      ((d.inclusionClose.cut? x.2).bind fun y =>
        if !y.1.any (fun c => c == '\n' || c == '\r') then some y else none).map fun y =>
          (.inclusion y.1, y.2) := by
    funext cs
    simp only [inclusion?, Reader.skip]
    cases d.inclusionHead? cs with
    | none => rfl
    | some r =>
      simp only [Option.bind_eq_bind, Option.bind_some, Option.map_some]
      cases d.inclusionClose.cut? r with
      | none => rfl
      | some y =>
        simp only [Option.bind_some]
        cases y.1.any fun c => c == '\n' || c == '\r' <;> rfl
  exact heq ▸ (local_inclusionHead? d).bind (fun _ =>
    ((local_cut? d [] d.inclusionClose).filter
      fun source => !source.any fun c => c == '\n' || c == '\r').map Directive.inclusion) (.inl rfl)

/-- The step that reads a style directive behind its head. -/
def readStyle (d : Dialect) : Reader Directive := fun cs =>
  ((Reader.skip d.styleClose.strip? cs).map fun x => (Directive.style none false, x.2)).or
    ((Reader.skip (strip? ['[']) cs).bind fun x => (d.styleParamsClose.cut? x.2).map fun y =>
      (Directive.style (selector? (styleParams y.1).1) (styleParams y.1).2, y.2))

lemma local_readStyle (d : Dialect) : Local true (readStyle d) := by
  have hbare : Local true fun cs =>
      (Reader.skip d.styleClose.strip? cs).map fun x => (Directive.style none false, x.2) :=
    (local_strip? (by cases d <;> trivial)).map fun _ => Directive.style none false
  have hopen : Local true (Reader.skip (strip? ['['])) :=
    .skip (fun h => ⟨['['], (strip?_eq_some_iff.1 h).symm⟩) (by
      intro cs more rest
      rw [strip?_eq_some_iff, strip?_eq_some_iff, ← List.append_assoc, List.append_left_inj])
  refine hbare.orElse (hopen.bind (fun _ => (local_cut? d [] d.styleParamsClose).map fun params =>
    Directive.style (selector? (styleParams params).1) (styleParams params).2) (.inl rfl)) ?_
  intro cs x h
  obtain ⟨y, hy, -⟩ := Option.bind_eq_some_iff.1 h
  obtain ⟨r, hr, -⟩ := Option.map_eq_some_iff.1 hy
  rw [strip?_eq_some_iff.1 hr]
  cases d <;> rfl

lemma local_style? (d : Dialect) : Local true (style? d) := by
  have heq : style? d = fun cs =>
      (Reader.skip (fun cs => d.styleHead? cs) cs).bind fun x => readStyle d x.2 := by
    funext cs
    simp only [style?, Reader.skip, readStyle]
    cases d.styleHead? cs with
    | none => rfl
    | some r =>
      simp only [Option.bind_eq_bind, Option.bind_some, Option.map_some]
      cases d.styleClose.strip? r with
      | some r' => rfl
      | none =>
        cases r with
        | nil => rfl
        | cons c r =>
          by_cases hc : c = '['
          · subst hc
            simp only [strip?, Option.map_none, Option.none_or, Option.map_some, if_true,
              Option.bind_some]
            cases d.styleParamsClose.cut? r <;> rfl
          · simp [strip?, hc]
  exact heq ▸ (local_styleHead? d).bind (fun _ => local_readStyle d)
    (.inr fun _ => by cases d <;> rfl)

/-! ### The choice between them -/

/-- The directives that the dialects have in common. -/
inductive Kind where
  | conditional | loop | inclusion | style
  deriving DecidableEq

/-- What a head starts with. -/
def Dialect.keyword : Dialect → Kind → String
  | bracket, .conditional => "%%if"
  | bracket, .loop => "%%for"
  | bracket, .inclusion => "%%section"
  | bracket, .style => "%%style"
  | tag, .conditional => "<a-if"
  | tag, .loop => "<a-for"
  | tag, .inclusion => "<a-section"
  | tag, .style => "<a-style"

/-- The step that reads a directive of one kind. -/
def Kind.read (d : Dialect) : Kind → Reader Directive
  | conditional => conditional? d
  | loop => loop? d
  | inclusion => inclusion? d
  | style => style? d

lemma keyword_unique {d : Dialect} {k l : Kind} {cs r s : List Char}
    (hk : afterWord? (d.keyword k) cs = some r) (hl : afterWord? (d.keyword l) cs = some s) :
    k = l := by
  have h := stripFolded?_comparable hk hl
  revert h
  cases d <;> cases k <;> cases l <;> decide

lemma keyword_of_read {d : Dialect} {k : Kind} {cs : List Char} {x : Directive × List Char}
    (h : k.read d cs = some x) : ∃ r, afterWord? (d.keyword k) cs = some r := by
  cases hw : afterWord? (d.keyword k) cs with
  | some r => exact ⟨r, rfl⟩
  | none =>
    cases k <;> cases d <;>
      simp only [Dialect.keyword] at hw <;>
      simp [Kind.read, conditional?, loop?, inclusion?, style?, Dialect.ifHead?,
        Dialect.loopHead?, Dialect.inclusionHead?, Dialect.styleHead?, hw] at h

lemma read_eq_none {d : Dialect} {k l : Kind} (hkl : k ≠ l) {cs : List Char}
    {x : Directive × List Char} (h : l.read d cs = some x) : k.read d cs = none := by
  cases hk : k.read d cs with
  | none => rfl
  | some y =>
    obtain ⟨r, hr⟩ := keyword_of_read hk
    obtain ⟨s, hs⟩ := keyword_of_read h
    exact absurd (keyword_unique hr hs) hkl

lemma dialect?_eq_some_iff {d : Dialect} {cs : List Char} {x : Directive × List Char} :
    dialect? d cs = some x ↔ ∃ k : Kind, k.read d cs = some x := by
  have heq : dialect? d cs = (Kind.conditional.read d cs).or ((Kind.loop.read d cs).or
      ((Kind.inclusion.read d cs).or (Kind.style.read d cs))) := by
    simp [dialect?, Kind.read]
  rw [heq]
  constructor
  · intro h
    simp only [Option.or_eq_some_iff] at h
    rcases h with h | ⟨-, h | ⟨-, h | ⟨-, h⟩⟩⟩ <;> exact ⟨_, h⟩
  · rintro ⟨k, h⟩
    have others (l : Kind) (hl : l ≠ k) : l.read d cs = none := read_eq_none hl h
    cases k <;> simp_all

lemma local_dialect? (d : Dialect) : Local true (dialect? d) where
  suffix h := by
    obtain ⟨k, h⟩ := dialect?_eq_some_iff.1 h
    cases k with
    | conditional => exact (local_conditional? d).suffix h
    | loop => exact (local_loop? d).suffix h
    | inclusion => exact (local_inclusion? d).suffix h
    | style => exact (local_style? d).suffix h
  append_iff hr := by
    simp only [dialect?_eq_some_iff]
    refine exists_congr fun k => ?_
    cases k with
    | conditional => exact (local_conditional? d).append_iff hr
    | loop => exact (local_loop? d).append_iff hr
    | inclusion => exact (local_inclusion? d).append_iff hr
    | style => exact (local_style? d).append_iff hr

/-- How the directives of a dialect start. -/
def Dialect.Starts (cs : List Char) : Dialect → Prop
  | bracket => ∃ rest, cs = '%' :: '%' :: rest
  | tag => ∃ a rest, cs = '<' :: a :: rest ∧ (a = 'a' ∨ a = 'A')

lemma starts_of_dialect? {d : Dialect} {cs : List Char} {x : Directive × List Char}
    (h : dialect? d cs = some x) : d.Starts cs := by
  obtain ⟨k, h⟩ := dialect?_eq_some_iff.1 h
  obtain ⟨r, h⟩ := keyword_of_read h
  obtain ⟨word, rfl, hw⟩ := stripFolded?_eq_some_iff.1 h
  cases d with
  | bracket =>
    have hlead : (Dialect.bracket.keyword k).toList =
        '%' :: '%' :: (Dialect.bracket.keyword k).toList.drop 2 := by cases k <;> rfl
    rw [hlead] at hw
    match word, hw with
    | [_], hw => simp at hw
    | a :: b :: word, hw =>
      simp only [List.map_cons, List.cons.injEq] at hw
      have ha : a = '%' := eq_of_foldSimple (by decide) hw.1
      have hb : b = '%' := eq_of_foldSimple (by decide) hw.2.1
      exact ⟨word ++ r, by rw [ha, hb]; rfl⟩
  | tag =>
    have hlead : (Dialect.tag.keyword k).toList =
        '<' :: 'a' :: (Dialect.tag.keyword k).toList.drop 2 := by cases k <;> rfl
    rw [hlead] at hw
    match word, hw with
    | [_], hw => simp at hw
    | a :: b :: word, hw =>
      simp only [List.map_cons, List.cons.injEq] at hw
      have ha : a = '<' := eq_of_foldSimple (by decide) hw.1
      exact ⟨b, word ++ r, by rw [ha]; rfl, eq_of_foldSimple_eq_a hw.2.1⟩

lemma directive?_eq_some_iff {cs rest : List Char} {directive : Directive} :
    directive? cs = some (directive, rest) ↔
      (∃ d, dialect? d cs = some (directive, rest)) ∨
        ∃ tail source, cs = '{' :: '{' :: tail ∧
          Marker.cut? [.text ['}', '}']] tail = some (source, rest) ∧
          directive = .expression source := by
  constructor
  · intro h
    unfold directive? at h
    split at h
    · exact .inl ⟨_, h⟩
    · split at h
      · exact .inl ⟨_, h⟩
      · simp at h
    · next tail =>
      simp only [Option.map_eq_some_iff, Prod.mk.injEq, Prod.exists] at h
      obtain ⟨source, r, hr, rfl, rfl⟩ := h
      exact .inr ⟨tail, source, rfl, Marker.cut?_braces tail ▸ hr, rfl⟩
    · simp at h
  · rintro (⟨d, h⟩ | ⟨tail, source, rfl, h, rfl⟩)
    · cases d with
      | bracket =>
        obtain ⟨tail, rfl⟩ := starts_of_dialect? h
        exact h
      | tag =>
        obtain ⟨a, tail, rfl, ha⟩ := starts_of_dialect? h
        simp [directive?, ha, h]
    · simp [directive?, Marker.cut?_braces, h]

/-- **Directives are read locally**: a directive at the start of a text is the same one whatever
stands behind it. -/
theorem local_directive? : Local true directive? where
  suffix h := by
    rcases directive?_eq_some_iff.1 h with ⟨d, h⟩ | ⟨tail, source, rfl, h, -⟩
    · exact (local_dialect? d).suffix h
    · exact (Marker.cut?_suffix h).trans ⟨['{', '{'], rfl⟩
  append_iff {cs more directive rest} _ := by
    have hcut (tail source : List Char) :
        Marker.cut? [.text ['}', '}']] (tail ++ more) = some (source, rest ++ more) ↔
          Marker.cut? [.text ['}', '}']] tail = some (source, rest) :=
      Marker.cut?_append_iff (by trivial) (by trivial)
    rw [directive?_eq_some_iff, directive?_eq_some_iff]
    refine or_congr (exists_congr fun d => (local_dialect? d).append_iff (.inl rfl)) ?_
    constructor
    · rintro ⟨tail, source, htail, h, rfl⟩
      obtain ⟨u, rfl⟩ : more <:+ tail := (List.suffix_append rest more).trans (Marker.cut?_suffix h)
      have hcs : cs = '{' :: '{' :: u := List.append_cancel_right htail
      exact ⟨u, source, hcs, (hcut u source).1 h, rfl⟩
    · rintro ⟨tail, source, rfl, h, rfl⟩
      exact ⟨tail ++ more, source, rfl, (hcut tail source).2 h, rfl⟩

lemma directive?_nil : directive? [] = none := rfl

lemma directive?_upTo {cs rest : List Char} {directive : Directive}
    (h : directive? cs = some (directive, rest)) :
    directive? (upTo cs rest) = some (directive, []) := by
  have hcs : directive? (upTo cs rest ++ rest) = some (directive, [] ++ rest) := by
    rw [upTo_append (local_directive?.suffix h), List.nil_append, h]
  exact (local_directive?.append_iff (.inl rfl)).1 hcs

end Pressroom.Markup
