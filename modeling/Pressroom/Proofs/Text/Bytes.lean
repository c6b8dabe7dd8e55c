import Pressroom.Proofs.Text.Fold
import Pressroom.Text.Search

/-!
Texts by their bytes. A place in a text is given by how many bytes stand before it. Not every number
of bytes is a place: a slice of a text starts and ends where a character does.
-/

namespace Pressroom.Text

def bytes (cs : List Char) : List UInt8 :=
  cs.flatMap String.utf8EncodeChar

def size (cs : List Char) : Nat :=
  (bytes cs).length

@[simp] lemma bytes_nil : bytes [] = [] := rfl

@[simp] lemma bytes_append (a b : List Char) : bytes (a ++ b) = bytes a ++ bytes b :=
  List.flatMap_append

lemma bytes_cons (c : Char) (cs : List Char) :
    bytes (c :: cs) = String.utf8EncodeChar c ++ bytes cs := rfl

@[simp] lemma size_nil : size [] = 0 := rfl

@[simp] lemma size_append (a b : List Char) : size (a ++ b) = size a + size b := by
  simp [size]

lemma size_cons (c : Char) (cs : List Char) : size (c :: cs) = c.utf8Size + size cs := by
  simp [size, bytes_cons]

lemma size_pos {cs : List Char} (h : cs ≠ []) : 0 < size cs := by
  obtain ⟨c, rest, rfl⟩ := List.exists_cons_of_ne_nil h
  have := c.utf8Size_pos
  rw [size_cons]
  omega

lemma exists_append_of_size_le {a b c d : List Char} (h : a ++ b = c ++ d) (hle : size a ≤ size c) :
    ∃ u, c = a ++ u ∧ b = u ++ d := by
  rcases List.append_eq_append_iff.1 h with ⟨u, hc, hb⟩ | ⟨u, ha, hd⟩
  · exact ⟨u, hc, hb⟩
  · have hu : u = [] := by
      by_contra hne
      have := size_pos hne
      rw [ha, size_append] at hle
      omega
    subst hu
    exact ⟨[], by simpa using ha.symm, by simpa using hd.symm⟩

lemma exists_append_of_size_lt {a b c d : List Char} (h : a ++ b = c ++ d) (hlt : size a < size c) :
    ∃ u, u ≠ [] ∧ c = a ++ u ∧ b = u ++ d := by
  obtain ⟨u, rfl, hb⟩ := exists_append_of_size_le h hlt.le
  refine ⟨u, ?_, rfl, hb⟩
  rintro rfl
  simp at hlt

/-- The text from a place on, if it is one. -/
def from? : List Char → Nat → Option (List Char)
  | cs, 0 => some cs
  | [], _ + 1 => none
  | c :: cs, n + 1 => if c.utf8Size ≤ n + 1 then from? cs (n + 1 - c.utf8Size) else none

/-- The text between two places, if they are places in this order. -/
def slice? (text : List Char) (start stop : Nat) : Option (List Char) := do
  let rest ← from? text start
  let after ← from? text stop
  if start ≤ stop then some (upTo rest after) else none

/-- The text has `rest` from the place on. -/
def At (text : List Char) (pos : Nat) (rest : List Char) : Prop :=
  ∃ before, text = before ++ rest ∧ size before = pos

namespace At

variable {text rest : List Char} {pos : Nat}

lemma zero (text : List Char) : At text 0 text :=
  ⟨[], rfl, rfl⟩

lemma forward {before : List Char} (h : At text pos (before ++ rest)) :
    At text (pos + size before) rest := by
  obtain ⟨start, rfl, rfl⟩ := h
  exact ⟨start ++ before, by simp, by simp⟩

lemma size_eq (h : At text pos rest) : size text = pos + size rest := by
  obtain ⟨before, rfl, rfl⟩ := h
  simp

lemma suffix (h : At text pos rest) : rest <:+ text :=
  ⟨_, h.choose_spec.1.symm⟩

lemma bytes_drop (h : At text pos rest) : (bytes text).drop pos = bytes rest := by
  obtain ⟨before, rfl, rfl⟩ := h
  rw [bytes_append]
  exact List.drop_left

lemma getElem?_bytes (h : At text pos rest) (k : Nat) :
    (bytes text)[pos + k]? = (bytes rest)[k]? := by
  rw [← h.bytes_drop, List.getElem?_drop]

lemma after {c : Char} (h : At text pos (c :: rest)) : At text (pos + c.utf8Size) rest := by
  have h : At text pos ([c] ++ rest) := h
  simpa [size_cons] using h.forward

lemma of_suffix {tail : List Char} (h : At text pos rest) (ht : tail <:+ rest) :
    At text (pos + (size rest - size tail)) tail := by
  obtain ⟨before, rfl⟩ := ht
  simpa using h.forward

lemma le_iff {other : List Char} {stop : Nat} (h : At text pos rest) (hs : At text stop other) :
    pos ≤ stop ↔ other <:+ rest := by
  have h1 := h.size_eq
  have h2 := hs.size_eq
  constructor
  · intro hle
    rcases List.suffix_or_suffix_of_suffix h.suffix hs.suffix with ⟨u, rfl⟩ | h'
    · have hu : u = [] := by
        by_contra hne
        have := size_pos hne
        rw [size_append] at h2
        omega
      exact hu ▸ List.suffix_rfl
    · exact h'
  · rintro ⟨u, rfl⟩
    rw [size_append] at h1
    omega

lemma lt_of_length_lt {other : List Char} {stop : Nat} (h : At text pos rest)
    (hs : At text stop other) (hlt : other.length < rest.length) : pos < stop := by
  by_contra hle
  have := ((hs.le_iff h).1 (not_lt.1 hle)).length_le
  omega

lemma le_size (h : At text pos rest) : pos ≤ size text := by
  have := h.size_eq
  omega

lemma from?_eq (h : At text pos rest) : from? text pos = some rest := by
  obtain ⟨before, rfl, rfl⟩ := h
  induction before with
  | nil => simp [from?]
  | cons c before ih =>
    have hpos := c.utf8Size_pos
    obtain ⟨n, hn⟩ : ∃ n, size (c :: before) = n + 1 :=
      ⟨size (c :: before) - 1, by rw [size_cons]; omega⟩
    have hle : c.utf8Size ≤ n + 1 := by rw [← hn, size_cons]; omega
    have hsub : n + 1 - c.utf8Size = size before := by rw [← hn, size_cons]; omega
    rw [hn, List.cons_append, from?, if_pos hle, hsub, ih]

lemma slice?_eq {stop : Nat} {middle : List Char} (h : At text pos (middle ++ rest))
    (hs : At text stop rest) : slice? text pos stop = some middle := by
  have hle : pos ≤ stop := by
    have h1 := h.size_eq
    have h2 := hs.size_eq
    rw [size_append] at h1
    omega
  simp [slice?, h.from?_eq, hs.from?_eq, hle, upTo]

end At

/-! ### The bytes of a character -/

lemma utf8EncodeChar_of_lt {c : Char} (h : c.toNat < 128) :
    String.utf8EncodeChar c = [c.toNat.toUInt8] := by
  have h : c.val.toNat ≤ 127 := by
    have : c.toNat = c.val.toNat := rfl
    omega
  simp only [String.utf8EncodeChar, h, if_true]
  rfl

lemma le_of_mem_utf8EncodeChar {c : Char} (h : 128 ≤ c.toNat) {b : UInt8}
    (hb : b ∈ String.utf8EncodeChar c) : 128 ≤ b.toNat := by
  have h : ¬ c.val.toNat ≤ 127 := by
    have : c.toNat = c.val.toNat := rfl
    omega
  simp only [String.utf8EncodeChar, h, if_false] at hb
  split at hb
  · simp only [List.mem_cons, List.not_mem_nil, or_false] at hb
    rcases hb with rfl | rfl <;> simp <;> omega
  · split at hb
    · simp only [List.mem_cons, List.not_mem_nil, or_false] at hb
      rcases hb with rfl | rfl | rfl <;> simp <;> omega
    · simp only [List.mem_cons, List.not_mem_nil, or_false] at hb
      rcases hb with rfl | rfl | rfl | rfl <;> simp <;> omega

lemma utf8Size_of_lt {c : Char} (h : c.toNat < 128) : c.utf8Size = 1 := by
  rw [← String.length_utf8EncodeChar, utf8EncodeChar_of_lt h]
  rfl

lemma At.next {text cs : List Char} {pos : Nat} {c : Char} (h : At text pos (c :: cs))
    (hc : c.toNat < 128) : At text (pos + 1) cs := by
  simpa [utf8Size_of_lt hc] using h.after

lemma At.byte_inside {text cs : List Char} {c : Char} {pos k : Nat} (h : At text pos (c :: cs))
    (hk : 0 < k) (hlt : k < c.utf8Size) :
    ∃ b, (bytes text)[pos + k]? = some b ∧ 128 ≤ b.toNat := by
  have hc : 128 ≤ c.toNat := by
    by_contra hc
    rw [utf8Size_of_lt (by omega)] at hlt
    omega
  have hlen : k < (String.utf8EncodeChar c).length := by
    rw [String.length_utf8EncodeChar]
    exact hlt
  refine ⟨(String.utf8EncodeChar c)[k], ?_, le_of_mem_utf8EncodeChar hc (List.getElem_mem hlen)⟩
  rw [h.getElem?_bytes k, bytes_cons, List.getElem?_append_left hlen,
    List.getElem?_eq_getElem hlen]

/-! ### Words in either case -/

/-- A byte, the letters `A` to `Z` made small. -/
def foldByte (b : UInt8) : UInt8 :=
  if 65 ≤ b ∧ b ≤ 90 then b + 32 else b

/-- Whether a word stands at a place, the letters `A` to `Z` in either case. -/
def startsAt (text : List Char) (pos : Nat) (word : List Char) : Bool :=
  pos + size word ≤ size text &&
    (((bytes text).drop pos).take (size word)).map foldByte == (bytes word).map foldByte

lemma toNat_foldByte (b : UInt8) :
    (foldByte b).toNat = if 65 ≤ b.toNat ∧ b.toNat ≤ 90 then b.toNat + 32 else b.toNat := by
  have hb : (65 ≤ b ∧ b ≤ 90) ↔ (65 ≤ b.toNat ∧ b.toNat ≤ 90) := by
    simp [UInt8.le_iff_toNat_le]
  unfold foldByte
  split
  · next h =>
    rw [if_pos (hb.1 h), UInt8.toNat_add]
    have := (hb.1 h).2
    have : (32 : UInt8).toNat = 32 := rfl
    omega
  · next h => rw [if_neg fun h' => h (hb.2 h')]

lemma foldByte_eq_iff {c p : Char} (hc : c.toNat < 128) (hp : p.toNat < 128) :
    foldByte c.toNat.toUInt8 = foldByte p.toNat.toUInt8 ↔ foldAscii c = foldAscii p := by
  have hbyte {x : Char} (h : x.toNat < 128) : x.toNat.toUInt8.toNat = x.toNat := by
    simp
    omega
  rw [← UInt8.toNat_inj, ← Char.toNat_inj, toNat_foldByte, toNat_foldByte, toNat_foldAscii,
    toNat_foldAscii, hbyte hc, hbyte hp]

lemma lt_of_foldAscii_eq {c p : Char} (hp : p.toNat < 128) (h : foldAscii c = foldAscii p) :
    c.toNat < 128 := by
  have := congrArg Char.toNat h
  rw [toNat_foldAscii, toNat_foldAscii] at this
  split at this <;> split at this <;> omega

lemma foldByte_of_le {b : UInt8} (h : 128 ≤ b.toNat) : foldByte b = b := by
  rw [← UInt8.toNat_inj, toNat_foldByte, if_neg (by omega)]

lemma utf8EncodeChar_foldAscii (c : Char) :
    String.utf8EncodeChar (foldAscii c) = (String.utf8EncodeChar c).map foldByte := by
  have hfold := toNat_foldAscii c
  by_cases hc : c.toNat < 128
  · have hsmall : (foldAscii c).toNat < 128 := by
      split at hfold <;> omega
    have hbyte : c.toNat.toUInt8.toNat = c.toNat ∧
        (foldAscii c).toNat.toUInt8.toNat = (foldAscii c).toNat := by
      simp
      omega
    rw [utf8EncodeChar_of_lt hc, utf8EncodeChar_of_lt hsmall, List.map_singleton,
      List.singleton_inj, ← UInt8.toNat_inj, toNat_foldByte, hbyte.1, hbyte.2, hfold]
  · have hsame : foldAscii c = c := Char.toNat_inj.1 (by rw [hfold, if_neg (by omega)])
    have hbytes : ∀ b ∈ String.utf8EncodeChar c, foldByte b = id b := fun b hb =>
      foldByte_of_le (le_of_mem_utf8EncodeChar (not_lt.1 hc) hb)
    rw [hsame, List.map_congr_left hbytes, List.map_id]

lemma bytes_map_foldAscii (cs : List Char) :
    bytes (cs.map foldAscii) = (bytes cs).map foldByte := by
  induction cs with
  | nil => rfl
  | cons c cs ih =>
    rw [List.map_cons, bytes_cons, bytes_cons, List.map_append, utf8EncodeChar_foldAscii, ih]

lemma size_map_foldAscii (cs : List Char) : size (cs.map foldAscii) = size cs := by
  rw [size, bytes_map_foldAscii, List.length_map, size]

lemma eq_of_utf8EncodeChar_append {c d : Char} {x y : List UInt8}
    (h : String.utf8EncodeChar c ++ x = String.utf8EncodeChar d ++ y) : c = d := by
  have hdecode := congrArg (fun bs => bs.toByteArray.utf8DecodeChar? 0) h
  simp only [List.toByteArray_append, ByteArray.utf8DecodeChar?_utf8EncodeChar_append] at hdecode
  exact Option.some.inj hdecode

/-- **A text starts with a word if its bytes start with those of the word.** -/
lemma bytes_prefix_iff {word cs : List Char} : bytes word <+: bytes cs ↔ word <+: cs := by
  constructor
  · rintro ⟨rest, h⟩
    induction word generalizing cs with
    | nil => exact List.nil_prefix
    | cons p word ih =>
      cases cs with
      | nil => simp [bytes_cons] at h
      | cons c cs =>
        rw [bytes_cons, bytes_cons, List.append_assoc] at h
        obtain rfl := eq_of_utf8EncodeChar_append h
        exact List.cons_prefix_cons.2 ⟨rfl, ih (List.append_cancel_left h)⟩
  · rintro ⟨rest, rfl⟩
    exact ⟨bytes rest, (bytes_append _ _).symm⟩

lemma take_bytes_eq_iff {word cs : List Char} :
    (size word ≤ size cs ∧ ((bytes cs).take (size word)).map foldByte = (bytes word).map foldByte) ↔
      ∃ rest, stripFolded? foldAscii word cs = some rest := by
  have hstarts : (size word ≤ size cs ∧
      ((bytes cs).take (size word)).map foldByte = (bytes word).map foldByte) ↔
        bytes (word.map foldAscii) <+: bytes (cs.map foldAscii) := by
    have hword : (bytes (word.map foldAscii)).length = size word := size_map_foldAscii word
    rw [List.map_take, ← bytes_map_foldAscii, ← bytes_map_foldAscii, List.prefix_iff_eq_take,
      hword]
    constructor
    · rintro ⟨-, h⟩
      exact h.symm
    · intro h
      have hlength := congrArg List.length h
      have hcs : (bytes (cs.map foldAscii)).length = size cs := size_map_foldAscii cs
      rw [hword, List.length_take, hcs] at hlength
      exact ⟨by omega, h.symm⟩
  rw [hstarts, bytes_prefix_iff]
  constructor
  · rintro ⟨rest, h⟩
    obtain ⟨u, tail, rfl, hu, -⟩ := List.map_eq_append_iff.1 h.symm
    exact ⟨tail, stripFolded?_eq_some_iff.2 ⟨u, rfl, hu⟩⟩
  · rintro ⟨rest, h⟩
    obtain ⟨u, rfl, hu⟩ := stripFolded?_eq_some_iff.1 h
    rw [List.map_append, hu]
    exact List.prefix_append _ _

lemma size_eq_of_map_fold {word u : List Char} (h : u.map foldAscii = word.map foldAscii) :
    size u = size word := by
  rw [← size_map_foldAscii u, h, size_map_foldAscii]

/-- Comparing bytes at a place is comparing characters there. -/
theorem At.startsAt_iff {text cs word : List Char} {pos : Nat} (h : At text pos cs) :
    startsAt text pos word = true ↔ ∃ rest, stripFolded? foldAscii word cs = some rest := by
  rw [← take_bytes_eq_iff, startsAt, h.bytes_drop]
  simp only [Bool.and_eq_true, decide_eq_true_eq, beq_iff_eq]
  have := h.size_eq
  constructor
  · rintro ⟨h1, h2⟩
    exact ⟨by omega, h2⟩
  · rintro ⟨h1, h2⟩
    exact ⟨by omega, h2⟩

lemma At.after_word {text cs word rest : List Char} {pos : Nat} (h : At text pos cs)
    (hs : stripFolded? foldAscii word cs = some rest) : At text (pos + size word) rest := by
  obtain ⟨u, rfl, hu⟩ := stripFolded?_eq_some_iff.1 hs
  rw [← size_eq_of_map_fold hu]
  exact h.forward

end Pressroom.Text
