import Mathlib.Order.Bounds.Basic
import Mathlib.Tactic.Lemma
import Pressroom.Expr.Method
import Pressroom.Proofs.Text.Pieces

/-!
Methods that cut a sequence, and methods that look for one text in another. A slice stands between
two places inside the sequence, whatever the arguments are, and two slices that meet in one place
make up the whole. The methods that look for a text all speak of its first occurrence, and a text
that is split at another one is put together again by joining the parts with it.
-/

namespace Pressroom.Expr.Method

/-! ### Slices -/

def zeroValue : Value := .num (.int 0)

lemma place_le (length : Nat) (x : Float) : place length x ≤ length := by
  unfold place
  split
  · exact Nat.sub_le _ _
  · exact Nat.min_le_right _ _

lemma place_zero (length : Nat) : place length zeroValue.toFloat = 0 := by
  have hsign : ¬ zeroValue.toFloat < 0 := by decide +kernel
  have hcount : Number.toCount zeroValue.toFloat = 0 := by decide +kernel
  unfold place
  rw [if_neg hsign, hcount, Nat.zero_min]

lemma cutPlace_le {length default : Nat} (h : default ≤ length) (arg : Value) :
    cutPlace length default arg ≤ length := by
  unfold cutPlace
  split
  · exact h
  · exact place_le _ _

lemma cutPlace_of_ne_null {arg : Value} (h : arg ≠ .null) (length default : Nat) :
    cutPlace length default arg = place length arg.toFloat := by
  unfold cutPlace
  split
  · exact absurd rfl h
  · rfl

lemma cutPlaces_le (length : Nat) (args : List Value) :
    (cutPlaces length args).1 ≤ (cutPlaces length args).2 ∧
      (cutPlaces length args).2 ≤ length := by
  have hstart := cutPlace_le (Nat.zero_le length) (argument args 0)
  have hstop := cutPlace_le (Nat.le_refl length) (argument args 1)
  exact ⟨Nat.le_max_left _ _, Nat.max_le.2 ⟨hstart, hstop⟩⟩

section Slice

variable {α : Type}

lemma exists_slice (xs : List α) (args : List Value) :
    ∃ before after, xs = before ++ slice xs args ++ after ∧
      before.length = (cutPlaces xs.length args).1 ∧
      (before ++ slice xs args).length = (cutPlaces xs.length args).2 := by
  obtain ⟨hle, hlength⟩ := cutPlaces_le xs.length args
  have hfront : xs.take (cutPlaces xs.length args).1 ++ slice xs args =
      xs.take (cutPlaces xs.length args).2 := by
    have htake := List.take_append_drop (cutPlaces xs.length args).1
      (xs.take (cutPlaces xs.length args).2)
    rwa [List.take_take, Nat.min_eq_left hle] at htake
  refine ⟨xs.take (cutPlaces xs.length args).1, xs.drop (cutPlaces xs.length args).2, ?_, ?_, ?_⟩
  · rw [hfront, List.take_append_drop]
  · rw [List.length_take]
    omega
  · rw [hfront, List.length_take]
    omega

lemma slice_front {k : Value} (hk : k ≠ .null) (xs : List α) :
    slice xs [zeroValue, k] = xs.take (place xs.length k.toFloat) := by
  have hplaces : cutPlaces xs.length [zeroValue, k] = (0, place xs.length k.toFloat) := by
    have hstart := cutPlace_of_ne_null (show zeroValue ≠ .null from nofun) xs.length 0
    have hstop := cutPlace_of_ne_null hk xs.length xs.length
    rw [place_zero] at hstart
    simp [cutPlaces, argument, hstart, hstop]
  simp [slice, hplaces]

lemma slice_back {k : Value} (hk : k ≠ .null) (xs : List α) :
    slice xs [k] = xs.drop (place xs.length k.toFloat) := by
  have hplaces : cutPlaces xs.length [k] = (place xs.length k.toFloat, xs.length) := by
    have hstart := cutPlace_of_ne_null hk xs.length 0
    have hstop : cutPlace xs.length xs.length (argument [k] 1) = xs.length := rfl
    have hle := place_le xs.length k.toFloat
    simp [cutPlaces, argument, hstart] at hstop ⊢
    omega
  simp [slice, hplaces]

lemma slice_append {k : Value} (hk : k ≠ .null) (xs : List α) :
    slice xs [zeroValue, k] ++ slice xs [k] = xs := by
  rw [slice_front hk, slice_back hk, List.take_append_drop]

end Slice

lemma call_slice_str (s : String) (args : List Value) :
    call (.str s) "slice" args = .ok (.str (String.ofList (slice s.toList args))) := rfl

lemma call_slice_arr (items : List Value) (args : List Value) :
    call (.arr items) "slice" args = .ok (.arr (slice items args)) := rfl

/-- **Slices cut cleanly.** Whatever the arguments are, a slice stands between two places that are
in order and inside the text or array. And whatever the value is that a place is asked for by, null
apart, what comes before the place and what comes behind it make up the whole. -/
theorem slice_cuts (args : List Value) :
    (∀ length, (cutPlaces length args).1 ≤ (cutPlaces length args).2 ∧
      (cutPlaces length args).2 ≤ length) ∧
    (∀ s : String, ∃ before part after, s = before ++ part ++ after ∧
      before.length = (cutPlaces s.length args).1 ∧
      (before ++ part).length = (cutPlaces s.length args).2 ∧
      call (.str s) "slice" args = .ok (.str part)) ∧
    (∀ items : List Value, ∃ before part after, items = before ++ part ++ after ∧
      before.length = (cutPlaces items.length args).1 ∧
      (before ++ part).length = (cutPlaces items.length args).2 ∧
      call (.arr items) "slice" args = .ok (.arr part)) ∧
    ∀ k : Value, k ≠ .null →
      (∀ s : String, ∃ front back, call (.str s) "slice" [zeroValue, k] = .ok (.str front) ∧
        call (.str s) "slice" [k] = .ok (.str back) ∧ front ++ back = s) ∧
      ∀ items : List Value, ∃ front back,
        call (.arr items) "slice" [zeroValue, k] = .ok (.arr front) ∧
          call (.arr items) "slice" [k] = .ok (.arr back) ∧ front ++ back = items := by
  refine ⟨fun length => cutPlaces_le length args, fun s => ?_, fun items => ?_, fun k hk => ⟨?_, ?_⟩⟩
  · obtain ⟨before, after, hs, hbefore, hpart⟩ := exists_slice s.toList args
    refine ⟨String.ofList before, _, String.ofList after, ?_, ?_, ?_, call_slice_str s args⟩
    · rw [← String.ofList_append, ← String.ofList_append, ← hs, String.ofList_toList]
    · rw [String.length_ofList, hbefore, String.length_toList]
    · rw [← String.ofList_append, String.length_ofList, hpart, String.length_toList]
  · obtain ⟨before, after, hitems, hbefore, hpart⟩ := exists_slice items args
    exact ⟨before, _, after, hitems, hbefore, hpart, call_slice_arr items args⟩
  · intro s
    refine ⟨_, _, call_slice_str s _, call_slice_str s _, ?_⟩
    rw [← String.ofList_append, slice_append hk, String.ofList_toList]
  · intro items
    exact ⟨_, _, call_slice_arr items _, call_slice_arr items _, slice_append hk items⟩

/-- A place that is counted from the end, in a text of characters of different sizes. -/
theorem slice_cuts_fromEnd : Value.num (.float (-1.5)) ≠ .null ∧ ∃ front back,
    call (.str "aé€") "slice" [zeroValue, .num (.float (-1.5))] = .ok (.str front) ∧
      call (.str "aé€") "slice" [.num (.float (-1.5))] = .ok (.str back) ∧
      front ++ back = "aé€" :=
  ⟨nofun, ((slice_cuts []).2.2.2 (.num (.float (-1.5))) nofun).1 "aé€"⟩

/-! ### Looking for a text -/

/-- A text stands in another one, so many characters behind its start. -/
def StandsAt (pattern s : String) (n : Nat) : Prop :=
  ∃ before after : String, s = before ++ pattern ++ after ∧ before.length = n

variable {s t : String}

lemma standsAt_iff {n : Nat} : StandsAt t s n ↔
    ∃ before after, s.toList = before ++ t.toList ++ after ∧ before.length = n := by
  constructor
  · rintro ⟨before, after, rfl, rfl⟩
    exact ⟨before.toList, after.toList, by simp, String.length_toList⟩
  · rintro ⟨before, after, hs, rfl⟩
    refine ⟨String.ofList before, String.ofList after, ?_, String.length_ofList⟩
    apply String.toList_injective
    simp [hs]

lemma exists_standsAt_iff : (∃ n, StandsAt t s n) ↔ t.toList <:+: s.toList := by
  simp only [standsAt_iff]
  constructor
  · rintro ⟨n, before, after, hs, -⟩
    exact ⟨before, after, hs.symm⟩
  · rintro ⟨before, after, hs⟩
    exact ⟨before.length, before, after, hs.symm, rfl⟩

lemma isLeast_of_cut? {before after : List Char}
    (h : Text.cut? t.toList s.toList = some (before, after)) :
    IsLeast {n | StandsAt t s n} before.length := by
  obtain ⟨hs, hfirst⟩ := Text.cut?_eq_some_iff.1 h
  refine ⟨standsAt_iff.2 ⟨before, after, hs, rfl⟩, ?_⟩
  rintro n hn
  obtain ⟨before', after', hs', rfl⟩ := standsAt_iff.1 hn
  exact hfirst before' after' hs'

lemma standsAt_zero_iff : StandsAt t s 0 ↔ (Text.strip? t.toList s.toList).isSome = true := by
  rw [standsAt_iff, Option.isSome_iff_exists]
  constructor
  · rintro ⟨before, after, hs, hbefore⟩
    obtain rfl := List.eq_nil_of_length_eq_zero hbefore
    exact ⟨after, Text.strip?_eq_some_iff.2 hs⟩
  · rintro ⟨after, hafter⟩
    exact ⟨[], after, Text.strip?_eq_some_iff.1 hafter, rfl⟩

lemma occursIn_iff_standsAt :
    Text.occursIn t.toList s.toList = true ↔ ∃ n, StandsAt t s n := by
  rw [exists_standsAt_iff, Text.occursIn_iff]

lemma call_includes (s t : String) :
    call (.str s) "includes" [.str t] = .ok (.bool (Text.occursIn t.toList s.toList)) := rfl

lemma call_startsWith (s t : String) :
    call (.str s) "startsWith" [.str t] =
      .ok (.bool (Text.strip? t.toList s.toList).isSome) := rfl

lemma call_indexOf (s t : String) :
    call (.str s) "indexOf" [.str t] = .ok (match Text.cut? t.toList s.toList with
      | some (before, _) => count before.length
      | none => nowhere) := rfl

lemma exists_indexOf (s t : String) : ∃ index, call (.str s) "indexOf" [.str t] = .ok index ∧
    ((∃ n : Nat, index = .num (.int n) ∧ IsLeast {n | StandsAt t s n} n) ∨
      index = .num (.int (-1)) ∧ ¬ ∃ n, StandsAt t s n) := by
  cases hcut : Text.cut? t.toList s.toList with
  | none =>
    have hnowhere : ¬ ∃ n, StandsAt t s n := by
      rw [exists_standsAt_iff]
      exact Text.cut?_eq_none_iff.1 hcut
    refine ⟨nowhere, ?_, .inr ⟨rfl, hnowhere⟩⟩
    rw [call_indexOf, hcut]
  | some found =>
    obtain ⟨before, after⟩ := found
    refine ⟨count before.length, ?_, .inl ⟨before.length, rfl, isLeast_of_cut? hcut⟩⟩
    rw [call_indexOf, hcut]

lemma itemTexts_str (parts : List String) : Value.itemTexts (parts.map .str) = parts := by
  induction parts with
  | nil => rfl
  | cons part parts ih => simp [Value.itemTexts, Value.text, ih]

def parts (t s : String) : List String :=
  (split t.toList s.toList).map String.ofList

lemma call_split (s t : String) :
    call (.str s) "split" [.str t] = .ok (.arr ((parts t s).map .str)) := by
  rw [parts, List.map_map]
  rfl

lemma call_join (parts : List String) (t : String) :
    call (.arr (parts.map .str)) "join" [.str t] = .ok (.str (t.intercalate parts)) := by
  have hjoin : call (.arr (parts.map .str)) "join" [.str t] =
      .ok (.str (t.intercalate (Value.itemTexts (parts.map .str)))) := rfl
  rw [hjoin, itemTexts_str]

lemma intercalate_parts (t s : String) : t.intercalate (parts t s) = s := by
  apply String.toList_injective
  have hlists : (parts t s).map String.toList = split t.toList s.toList := by
    simp [parts, Function.comp_def]
  rw [String.toList_intercalate, hlists]
  show Text.join t.toList (split t.toList s.toList) = s.toList
  unfold split
  split
  · next hempty =>
    rw [List.isEmpty_iff.1 hempty, Text.join_empty]
    induction s.toList with
    | nil => rfl
    | cons c cs ih => simpa using ih
  · next hne =>
    exact Text.join_pieces (by simpa using hne) s.toList

lemma not_standsAt_of_mem_parts (ht : t ≠ "") {part : String} (h : part ∈ parts t s) :
    ¬ ∃ n, StandsAt t part n := by
  have hne : t.toList ≠ [] := by simpa using ht
  obtain ⟨piece, hpiece, rfl⟩ := List.mem_map.1 h
  rw [split, if_neg (by simpa using hne)] at hpiece
  rw [exists_standsAt_iff, String.toList_ofList]
  exact Text.not_infix_of_mem_pieces hne hpiece

/-- **Methods that look for a text agree.** The position of one text in another is that of its first
occurrence, and the methods that ask whether it occurs, or occurs at the start, say what the
position says. Splitting at a text and joining with it give back what was split; the text does not
occur in any part, and where it is empty the parts are the single characters. -/
theorem search_agrees (s t : String) :
    (∃ (index : Value) (includes startsWith : Bool),
      call (.str s) "indexOf" [.str t] = .ok index ∧
      call (.str s) "includes" [.str t] = .ok (.bool includes) ∧
      call (.str s) "startsWith" [.str t] = .ok (.bool startsWith) ∧
      ((∃ n : Nat, index = .num (.int n) ∧ IsLeast {n | StandsAt t s n} n) ∨
        index = .num (.int (-1)) ∧ ¬ ∃ n, StandsAt t s n) ∧
      (includes = true ↔ index ≠ .num (.int (-1))) ∧
      (startsWith = true ↔ index = .num (.int 0))) ∧
    ∃ parts : List String,
      call (.str s) "split" [.str t] = .ok (.arr (parts.map .str)) ∧
      call (.arr (parts.map .str)) "join" [.str t] = .ok (.str s) ∧
      (t ≠ "" → ∀ part ∈ parts, ¬ ∃ n, StandsAt t part n) ∧
      (t = "" → parts = s.toList.map fun c => String.ofList [c]) := by
  constructor
  · obtain ⟨index, hindex, hfirst⟩ := exists_indexOf s t
    refine ⟨index, _, _, hindex, call_includes s t, call_startsWith s t, hfirst, ?_, ?_⟩
    · rw [occursIn_iff_standsAt]
      rcases hfirst with ⟨n, rfl, hn, -⟩ | ⟨rfl, hnowhere⟩
      · have hpositive : Value.num (.int n) ≠ .num (.int (-1)) := by
          simp only [ne_eq, Value.num.injEq, Numeral.int.injEq]
          omega
        exact iff_of_true ⟨n, hn⟩ hpositive
      · exact iff_of_false hnowhere fun h => h rfl
    · rw [← standsAt_zero_iff]
      rcases hfirst with ⟨n, rfl, hn, hleast⟩ | ⟨rfl, hnowhere⟩
      · simp only [Value.num.injEq, Numeral.int.injEq, Int.natCast_eq_zero]
        constructor
        · intro hzero
          exact Nat.le_zero.1 (hleast hzero)
        · rintro rfl
          exact hn
      · exact iff_of_false (fun h => hnowhere ⟨0, h⟩) (by simp)
  · refine ⟨parts t s, call_split s t, ?_, fun ht part => not_standsAt_of_mem_parts ht, ?_⟩
    · rw [call_join, intercalate_parts]
    · rintro rfl
      simp [parts, split]

/-- A text that would occur twice if its occurrences could overlap. -/
theorem search_agrees_overlapping : "aa" ≠ "" ∧ ∃ parts : List String,
    call (.str "aaa") "split" [.str "aa"] = .ok (.arr (parts.map .str)) ∧
      call (.arr (parts.map .str)) "join" [.str "aa"] = .ok (.str "aaa") ∧
      ∀ part ∈ parts, ¬ ∃ n, StandsAt "aa" part n := by
  obtain ⟨-, parts, hsplit, hjoin, hfree, -⟩ := search_agrees "aaa" "aa"
  have ht : "aa" ≠ "" := by decide
  exact ⟨ht, parts, hsplit, hjoin, hfree ht⟩

end Pressroom.Expr.Method
