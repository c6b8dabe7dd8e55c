import Pressroom.Data.Reader
import Pressroom.Proofs.Data.Units
import Pressroom.Proofs.Outcome

/-!
Values and what is read of their units. A value fits into so many levels of nesting if it is nested
no deeper and if every object in it has each of its keys once, its whole numbers being such that can
be held. Main statements: what is read fits, and what fits is read as it is.
-/

namespace Pressroom

open Lexeme (AllHeld)

namespace Value

/-- A value of no more than so many levels of nesting, with keys that come once and numbers that can
be held. -/
inductive Fits : Nat → Value → Prop where
  | null (room : Nat) : Fits room .null
  | bool (room : Nat) (b : Bool) : Fits room (.bool b)
  | num (room : Nat) {n : Numeral} (h : Lexeme.Held n) : Fits room (.num n)
  | str (room : Nat) (s : String) : Fits room (.str s)
  | arr {room : Nat} {items : List Value} (h : ∀ item ∈ items, Fits room item) :
      Fits (room + 1) (.arr items)
  | obj {room : Nat} {fields : List (String × Value)} (hkeys : (fields.map (·.1)).Nodup)
      (h : ∀ field ∈ fields, Fits room field.2) : Fits (room + 1) (.obj fields)

lemma Fits.mono {room room' : Nat} {value : Value} (h : Fits room value) (hle : room ≤ room') :
    Fits room' value := by
  induction h generalizing room' with
  | null => exact .null room'
  | bool _ b => exact .bool room' b
  | num _ hn => exact .num room' hn
  | str _ s => exact .str room' s
  | arr _ ih =>
    obtain ⟨more, rfl⟩ := Nat.exists_eq_add_of_le' (Nat.lt_of_lt_of_le (Nat.succ_pos _) hle)
    exact .arr fun item hitem => ih item hitem (Nat.le_of_succ_le_succ hle)
  | obj hkeys _ ih =>
    obtain ⟨more, rfl⟩ := Nat.exists_eq_add_of_le' (Nat.lt_of_lt_of_le (Nat.succ_pos _) hle)
    exact .obj hkeys fun field hfield => ih field hfield (Nat.le_of_succ_le_succ hle)

lemma Fits.held {room : Nat} {value : Value} (h : Fits room value) :
    ∀ n ∈ value.numerals, Lexeme.Held n := by
  induction h with
  | num _ hn => simpa [numerals] using hn
  | arr _ ih =>
    intro n hn
    rw [numerals, itemNumerals_eq] at hn
    obtain ⟨item, hitem, hn⟩ := List.mem_flatMap.1 hn
    exact ih item hitem n hn
  | obj _ _ ih =>
    intro n hn
    rw [numerals, fieldNumerals_eq] at hn
    obtain ⟨field, hfield, hn⟩ := List.mem_flatMap.1 hn
    exact ih field hfield n hn
  | _ => exact nofun

/-! ### Keys -/

lemma insert_of_new {key : String} {value : Value} {fields : List (String × Value)}
    (h : key ∉ fields.map (·.1)) : insert key value fields = fields ++ [(key, value)] := by
  induction fields with
  | nil => rfl
  | cons field fields ih =>
    obtain ⟨k, v⟩ := field
    rw [List.map_cons, List.mem_cons, not_or] at h
    rw [insert, if_neg (fun hk => h.1 hk.symm), ih h.2]
    rfl

lemma mem_insert {key : String} {value : Value} {fields : List (String × Value)}
    {field : String × Value} (h : field ∈ insert key value fields) :
    field = (key, value) ∨ field ∈ fields := by
  induction fields with
  | nil => exact .inl (List.mem_singleton.1 h)
  | cons other fields ih =>
    obtain ⟨k, v⟩ := other
    rw [insert] at h
    split at h
    · next hk =>
      rcases List.mem_cons.1 h with rfl | h
      · exact .inl (by rw [hk])
      · exact .inr (List.mem_cons_of_mem _ h)
    · rcases List.mem_cons.1 h with rfl | h
      · exact .inr List.mem_cons_self
      · exact (ih h).imp id (List.mem_cons_of_mem _)

lemma nodup_insert {key : String} {value : Value} {fields : List (String × Value)}
    (h : (fields.map (·.1)).Nodup) : ((insert key value fields).map (·.1)).Nodup := by
  rw [keys_insert]
  split
  · exact h
  · next hkey => exact List.nodup_append.2 ⟨h, by simp, by simpa using fun a ha => by grind⟩

lemma ofEntries_of_nodup {entries : List (String × Value)} (h : (entries.map (·.1)).Nodup) :
    ofEntries entries = entries := by
  have hfold (fields rest : List (String × Value)) (h : ((fields ++ rest).map (·.1)).Nodup) :
      rest.foldl (fun fields entry => insert entry.1 entry.2 fields) fields = fields ++ rest := by
    induction rest generalizing fields with
    | nil => rw [List.append_nil]; rfl
    | cons entry rest ih =>
      have hnew : entry.1 ∉ fields.map (·.1) := by
        rw [List.map_append, List.nodup_append] at h
        exact fun hmem => h.2.2 _ hmem _ (by simp) rfl
      have happend : fields ++ entry :: rest = fields ++ [entry] ++ rest := by simp
      rw [happend] at h ⊢
      rw [List.foldl_cons, insert_of_new hnew]
      exact ih _ h
  exact hfold [] entries h

lemma ofEntries_spec (entries : List (String × Value)) :
    ((ofEntries entries).map (·.1)).Nodup ∧ ∀ field ∈ ofEntries entries, field ∈ entries := by
  have hfold (fields rest : List (String × Value)) (h : (fields.map (·.1)).Nodup) :
      ((rest.foldl (fun fields entry => insert entry.1 entry.2 fields) fields).map (·.1)).Nodup ∧
        ∀ field ∈ rest.foldl (fun fields entry => insert entry.1 entry.2 fields) fields,
          field ∈ fields ∨ field ∈ rest := by
    induction rest generalizing fields with
    | nil => exact ⟨h, fun field hfield => .inl hfield⟩
    | cons entry rest ih =>
      obtain ⟨hnodup, hmem⟩ := ih (insert entry.1 entry.2 fields) (nodup_insert h)
      refine ⟨hnodup, fun field hfield => ?_⟩
      rcases hmem field hfield with hfield | hfield
      · rcases mem_insert hfield with rfl | hfield
        · exact .inr List.mem_cons_self
        · exact .inl hfield
      · exact .inr (List.mem_cons_of_mem _ hfield)
  obtain ⟨hnodup, hmem⟩ := hfold [] entries List.nodup_nil
  exact ⟨hnodup, fun field hfield => (hmem field hfield).resolve_left List.not_mem_nil⟩

/-! ### Values that fit -/

lemma units_eq_cons (value : Value) :
    ∃ unit tail, value.units = unit :: tail ∧ unit ≠ .closeArray ∧
      (unit = .null → value = .null) := by
  cases value with
  | arr items => cases items <;> simp [units]
  | obj fields =>
    cases fields with
    | nil => simp [units]
    | cons field fields => obtain ⟨key, value⟩ := field; simp [units]
  | _ => simp [units]

/-- A value is read as it is, whatever is behind it, if there is fuel for its units. -/
def Reads (room : Nat) (value : Value) : Prop :=
  ∀ fuel rest, value.units.length ≤ fuel →
    Reader.value fuel (.keep room) (value.units ++ rest) = .ok (value, rest)

lemma items_of_reads {room : Nat} {items : List Value} (hne : items ≠ [])
    (h : ∀ item ∈ items, Reads room item) (fuel : Nat) (rest : List Lexeme)
    (hfuel : (itemUnits items).length ≤ fuel) :
    Reader.items fuel (.keep room) ((itemUnits items).tail ++ .closeArray :: rest) =
      .ok (items, rest) := by
  induction items generalizing fuel with
  | nil => exact absurd rfl hne
  | cons item items ih =>
    obtain ⟨hitem, hitems⟩ := List.forall_mem_cons.1 h
    simp only [itemUnits, List.cons_append, List.length_cons, List.length_append,
      List.tail_cons] at hfuel ⊢
    cases fuel with
    | zero => omega
    | succ fuel =>
      rw [Reader.items, List.append_assoc, hitem fuel _ (by omega)]
      cases items with
      | nil => rfl
      | cons other others =>
        have hothers := ih (List.cons_ne_nil _ _) hitems fuel
          (by obtain ⟨unit, tail, hunits, -⟩ := units_eq_cons item; grind)
        simp only [itemUnits, List.cons_append, List.tail_cons] at hothers ⊢
        rw [ok_bind]
        dsimp only
        rw [hothers]
        rfl

lemma entries_of_reads {room : Nat} {fields : List (String × Value)} (hne : fields ≠ [])
    (h : ∀ field ∈ fields, Reads room field.2) (fuel : Nat) (rest : List Lexeme)
    (hfuel : (fieldUnits fields).length ≤ fuel) :
    Reader.entries fuel (.keep room) ((fieldUnits fields).tail ++ .closeObject :: rest) =
      .ok (fields, rest) := by
  induction fields generalizing fuel with
  | nil => exact absurd rfl hne
  | cons field fields ih =>
    obtain ⟨key, value⟩ := field
    obtain ⟨hvalue, hfields⟩ := List.forall_mem_cons.1 h
    simp only [fieldUnits, List.cons_append, List.length_cons, List.length_append,
      List.tail_cons] at hfuel ⊢
    cases fuel with
    | zero => omega
    | succ fuel =>
      dsimp only at hvalue
      rw [Reader.entries, Option.map_some, Reader.Purpose.held, ok_bind, List.append_assoc,
        hvalue fuel _ (by omega)]
      cases fields with
      | nil => rfl
      | cons other others =>
        obtain ⟨otherKey, other⟩ := other
        have hothers := ih (List.cons_ne_nil _ _) hfields fuel (by omega)
        simp only [fieldUnits, List.cons_append, List.tail_cons] at hothers ⊢
        rw [ok_bind]
        dsimp only
        rw [hothers]
        rfl

lemma reads_arr {room : Nat} {items : List Value} (h : ∀ item ∈ items, Reads room item) :
    Reads (room + 1) (.arr items) := by
  intro fuel rest hfuel
  cases fuel with
  | zero => cases items <;> simp [units] at hfuel
  | succ fuel =>
    cases items with
    | nil => rfl
    | cons item items =>
      obtain ⟨unit, tail, hunits, hend, -⟩ := units_eq_cons item
      have hitems := items_of_reads (List.cons_ne_nil _ _) h fuel rest
        (by simp [units, itemUnits] at hfuel ⊢; omega)
      simp only [itemUnits, units, List.cons_append, List.tail_cons, List.append_assoc,
        List.nil_append, hunits] at hitems ⊢
      rw [Reader.value, Reader.Purpose.enter, ok_bind]
      split
      · next h => exact absurd (List.cons.inj h).1 hend
      · rw [hitems]
        rfl

lemma reads_obj {room : Nat} {fields : List (String × Value)} (hkeys : (fields.map (·.1)).Nodup)
    (h : ∀ field ∈ fields, Reads room field.2) : Reads (room + 1) (.obj fields) := by
  intro fuel rest hfuel
  cases fuel with
  | zero => cases fields <;> simp [units] at hfuel
  | succ fuel =>
    cases fields with
    | nil => rfl
    | cons field fields =>
      obtain ⟨key, value⟩ := field
      have hentries := entries_of_reads (List.cons_ne_nil _ _) h fuel rest
        (by simp [units, fieldUnits] at hfuel ⊢; omega)
      simp only [fieldUnits, units, List.cons_append, List.tail_cons, List.append_assoc,
        List.nil_append] at hentries ⊢
      rw [Reader.value, Reader.Purpose.enter, ok_bind]
      dsimp only
      rw [hentries, ok_bind]
      dsimp only
      rw [ofEntries_of_nodup hkeys]
      rfl

/-- **What fits is read as it is.** -/
theorem Fits.reads {room : Nat} {value : Value} (h : Fits room value) : Reads room value := by
  have hscalar {unit : Lexeme} {tail : List Lexeme} {fuel : Nat}
      (hfuel : (unit :: tail).length ≤ fuel) : ∃ less, fuel = less + 1 :=
    Nat.exists_eq_add_of_le' (Nat.le_trans (Nat.le_add_left 1 _) hfuel)
  induction h with
  | null =>
    intro fuel rest hfuel
    obtain ⟨fuel, rfl⟩ := hscalar hfuel
    rfl
  | bool =>
    intro fuel rest hfuel
    obtain ⟨fuel, rfl⟩ := hscalar hfuel
    rfl
  | num =>
    intro fuel rest hfuel
    obtain ⟨fuel, rfl⟩ := hscalar hfuel
    rfl
  | str =>
    intro fuel rest hfuel
    obtain ⟨fuel, rfl⟩ := hscalar hfuel
    rfl
  | arr _ ih => exact reads_arr ih
  | obj hkeys _ ih => exact reads_obj hkeys ih

end Value

namespace Reader

open Value (Fits)

/-! ### Values that are read -/

/-- What a value that is read is held to: one that is kept fits. -/
def Purpose.Takes : Purpose → Value → Prop
  | .keep room, value => Fits room value
  | .skip, _ => True

lemma Purpose.takes_held {purpose : Purpose} {found : Option Value} {value : Value}
    (hfound : ∀ value ∈ found, ∀ room, Fits room value) (h : purpose.held found = .ok value) :
    purpose.Takes value := by
  cases purpose with
  | skip => trivial
  | keep room =>
    cases found with
    | none => cases h
    | some found =>
      cases h
      exact hfound _ rfl room

lemma Purpose.takes_arr {purpose inner : Purpose} {items : List Value}
    (henter : purpose.enter = .ok inner) (h : ∀ item ∈ items, inner.Takes item) :
    purpose.Takes (.arr items) := by
  cases purpose with
  | skip => trivial
  | keep room =>
    cases room with
    | zero => cases henter
    | succ room =>
      cases henter
      exact .arr h

lemma Purpose.takes_obj {purpose inner : Purpose} {entries : List (String × Value)}
    (henter : purpose.enter = .ok inner) (h : ∀ entry ∈ entries, inner.Takes entry.2) :
    purpose.Takes (.obj (Value.ofEntries entries)) := by
  cases purpose with
  | skip => trivial
  | keep room =>
    cases room with
    | zero => cases henter
    | succ room =>
      cases henter
      obtain ⟨hkeys, hmem⟩ := Value.ofEntries_spec entries
      exact .obj hkeys fun field hfield => h field (hmem field hfield)

/-- What so much fuel reads of units is held to what it is read for, and what is left is what stands
behind it. -/
structure Sound (fuel : Nat) : Prop where
  value : ∀ {purpose units result rest}, AllHeld units →
    Reader.value fuel purpose units = .ok (result, rest) → rest <:+ units ∧ purpose.Takes result
  items : ∀ {purpose units results rest}, AllHeld units →
    Reader.items fuel purpose units = .ok (results, rest) →
      rest <:+ units ∧ ∀ item ∈ results, purpose.Takes item
  entries : ∀ {purpose units results rest}, AllHeld units →
    Reader.entries fuel purpose units = .ok (results, rest) →
      rest <:+ units ∧ ∀ entry ∈ results, purpose.Takes entry.2

namespace Sound

variable {fuel : Nat} {purpose : Purpose} {units rest : List Lexeme} (sound : Sound fuel)
  (hheld : AllHeld units)

include sound hheld

lemma value_succ {result : Value} (h : Reader.value (fuel + 1) purpose units = .ok (result, rest)) :
    rest <:+ units ∧ purpose.Takes result := by
  rw [Reader.value.eq_def] at h
  dsimp only at h
  split at h
  · cases h
    exact ⟨List.suffix_cons _ _, by cases purpose <;> constructor⟩
  · cases h
    exact ⟨List.suffix_cons _ _, by cases purpose <;> constructor⟩
  · next n tail =>
    obtain ⟨value, hvalue, hdone⟩ := bind_eq_ok.1 h
    cases hdone
    refine ⟨List.suffix_cons _ _, Purpose.takes_held (fun value hmem room => ?_) hvalue⟩
    obtain ⟨n, rfl, rfl⟩ := Option.map_eq_some_iff.1 hmem
    exact .num room (hheld n List.mem_cons_self)
  · next s tail =>
    obtain ⟨value, hvalue, hdone⟩ := bind_eq_ok.1 h
    cases hdone
    refine ⟨List.suffix_cons _ _, Purpose.takes_held (fun value hmem room => ?_) hvalue⟩
    obtain ⟨s, rfl, rfl⟩ := Option.map_eq_some_iff.1 hmem
    exact .str room s
  · next tail =>
    obtain ⟨inner, henter, h⟩ := bind_eq_ok.1 h
    split at h
    · cases h
      exact ⟨(List.suffix_cons _ _).trans (List.suffix_cons _ _), Purpose.takes_arr henter nofun⟩
    · obtain ⟨⟨items, behind⟩, hitems, hdone⟩ := bind_eq_ok.1 h
      cases hdone
      obtain ⟨hbehind, htakes⟩ := sound.items (hheld.of_suffix (List.suffix_cons _ _)) hitems
      exact ⟨hbehind.trans (List.suffix_cons _ _), Purpose.takes_arr henter htakes⟩
  · next tail =>
    obtain ⟨inner, henter, h⟩ := bind_eq_ok.1 h
    split at h
    · cases h
      exact ⟨(List.suffix_cons _ _).trans (List.suffix_cons _ _),
        @Purpose.takes_obj _ _ [] henter nofun⟩
    · obtain ⟨⟨entries, behind⟩, hentries, hdone⟩ := bind_eq_ok.1 h
      cases hdone
      obtain ⟨hbehind, htakes⟩ := sound.entries (hheld.of_suffix (List.suffix_cons _ _)) hentries
      exact ⟨hbehind.trans (List.suffix_cons _ _), Purpose.takes_obj henter htakes⟩
  · cases h

lemma items_succ {results : List Value}
    (h : Reader.items (fuel + 1) purpose units = .ok (results, rest)) :
    rest <:+ units ∧ ∀ item ∈ results, purpose.Takes item := by
  rw [Reader.items, bind_eq_ok] at h
  obtain ⟨⟨first, behind⟩, hfirst, h⟩ := h
  obtain ⟨hbehind, htakes⟩ := sound.value hheld hfirst
  dsimp only at h
  split at h
  · next tail =>
    have htail := (List.suffix_cons _ tail).trans hbehind
    obtain ⟨⟨others, last⟩, hothers, hdone⟩ := bind_eq_ok.1 h
    cases hdone
    obtain ⟨hlast, hrest⟩ := sound.items (hheld.of_suffix htail) hothers
    exact ⟨hlast.trans htail, List.forall_mem_cons.2 ⟨htakes, hrest⟩⟩
  · next tail =>
    cases h
    exact ⟨(List.suffix_cons _ _).trans hbehind, by simpa using htakes⟩
  · cases h

lemma entries_succ {results : List (String × Value)}
    (h : Reader.entries (fuel + 1) purpose units = .ok (results, rest)) :
    rest <:+ units ∧ ∀ entry ∈ results, purpose.Takes entry.2 := by
  rw [Reader.entries.eq_def] at h
  dsimp only at h
  split at h
  · next name tail =>
    obtain ⟨key, -, h⟩ := bind_eq_ok.1 h
    obtain ⟨⟨first, behind⟩, hfirst, h⟩ := bind_eq_ok.1 h
    have hcolon : tail <:+ .str name :: .colon :: tail :=
      (List.suffix_cons _ _).trans (List.suffix_cons _ _)
    obtain ⟨hbehind, htakes⟩ := sound.value (hheld.of_suffix hcolon) hfirst
    dsimp only at h
    split at h
    · next more =>
      have hmore := ((List.suffix_cons _ more).trans hbehind).trans hcolon
      obtain ⟨⟨others, last⟩, hothers, hdone⟩ := bind_eq_ok.1 h
      cases hdone
      obtain ⟨hlast, hrest⟩ := sound.entries (hheld.of_suffix hmore) hothers
      exact ⟨hlast.trans hmore, List.forall_mem_cons.2 ⟨htakes, hrest⟩⟩
    · next more =>
      cases h
      exact ⟨((List.suffix_cons _ _).trans hbehind).trans hcolon, by simpa using htakes⟩
    · cases h
  · cases h

end Sound

lemma sound (fuel : Nat) : Sound fuel := by
  induction fuel with
  | zero => exact ⟨nofun, nofun, nofun⟩
  | succ fuel ih =>
    exact ⟨fun hheld => ih.value_succ hheld, fun hheld => ih.items_succ hheld,
      fun hheld => ih.entries_succ hheld⟩

end Reader

end Pressroom
