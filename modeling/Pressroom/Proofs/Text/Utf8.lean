import Mathlib.Tactic.Lemma
import Pressroom.Text.Utf8

/-!
Texts read from their own bytes. The bytes of a character are told apart by their ranges, which
leave out what no character is written with; inside them the payloads put the code together again.
Main statement: the bytes of a text are read as that text.
-/

namespace Pressroom.Text

/-! ### Ranges and payloads -/

lemma payload_eq {k : Nat} (h : k < 64) : (UInt8.ofNat (k + 128)).toNat % 64 = k :=
  (by decide : ∀ k < 64, (UInt8.ofNat (k + 128)).toNat % 64 = k) k h

lemma continuation_cons {k : Nat} (h : k < 64) (count code : Nat) (bytes : List UInt8) :
    continuation (count + 1) code (UInt8.ofNat (k + 128) :: bytes) =
      continuation count (code * 64 + k) bytes := by
  have hcontinues : isContinuation (UInt8.ofNat (k + 128)) = true :=
    (by decide : ∀ k < 64, isContinuation (UInt8.ofNat (k + 128)) = true) k h
  rw [continuation, if_pos hcontinues, payload_eq h]

/-- A leading byte holds these bits of the code. One more byte, which is from this range, is behind
it, and then so many others. -/
def Leads (lead : UInt8) (count low high bits : Nat) : Prop :=
  ¬ lead < 0x80 ∧ sequenceOf lead = some (count + 1, UInt8.ofNat low, UInt8.ofNat high) ∧
    leadBits (count + 1) lead = bits

instance (lead : UInt8) (count low high bits : Nat) : Decidable (Leads lead count low high bits) :=
  inferInstanceAs (Decidable (_ ∧ _ ∧ _))

lemma leads_two : ∀ bits < 32, 2 ≤ bits → Leads (UInt8.ofNat (bits + 192)) 0 128 191 bits := by
  decide

/-- The range of the second byte is cut off below where fewer bytes would do, and above where the
code would be half of a pair. -/
lemma leads_three : ∀ bits < 16, Leads (UInt8.ofNat (bits + 224)) 1
    (if bits = 0 then 160 else 128) (if bits = 13 then 159 else 191) bits := by
  decide

lemma leads_four : ∀ bits < 5, Leads (UInt8.ofNat (bits + 240)) 2
    (if bits = 0 then 144 else 128) (if bits = 4 then 143 else 191) bits := by
  decide

lemma ofNat_le_ofNat {m n : Nat} (h : m ≤ n) (hn : n < 256) : UInt8.ofNat m ≤ UInt8.ofNat n := by
  rw [UInt8.le_iff_toNat_le, UInt8.toNat_ofNat_of_lt' (Nat.lt_of_le_of_lt h hn),
    UInt8.toNat_ofNat_of_lt' hn]
  exact h

lemma Leads.sequel_eq {lead : UInt8} {count low high bits k : Nat}
    (h : Leads lead count low high bits) (hlow : low ≤ k + 128) (hhigh : k + 128 ≤ high)
    (hbyte : high < 256) (hk : k < 64) (more : List UInt8) :
    sequel lead (UInt8.ofNat (k + 128) :: more) =
      ((continuation count (bits * 64 + k) more).1.map Char.ofNat,
        (continuation count (bits * 64 + k) more).2) := by
  obtain ⟨hascii, hsequence, hbits⟩ := h
  have hrange : (UInt8.ofNat low ≤ UInt8.ofNat (k + 128) &&
      UInt8.ofNat (k + 128) ≤ UInt8.ofNat high) = true := by
    rw [Bool.and_eq_true, decide_eq_true_iff, decide_eq_true_iff]
    exact ⟨ofNat_le_ofNat hlow (by omega), ofNat_le_ofNat hhigh hbyte⟩
  simp only [sequel, if_neg hascii, hsequence, hrange, if_true, hbits, payload_eq hk,
    Nat.add_sub_cancel]

/-! ### Characters -/

section Characters

variable {n : Nat} (rest : List UInt8)

lemma sequel_one (h : n < 128) : sequel (UInt8.ofNat n) rest = (some (Char.ofNat n), rest) := by
  have hascii : UInt8.ofNat n < 0x80 := (by decide : ∀ n < 128, UInt8.ofNat n < 0x80) n h
  unfold sequel
  rw [if_pos hascii, UInt8.toNat_ofNat_of_lt' (show n < 256 by omega)]

lemma sequel_two (hlow : 128 ≤ n) (hhigh : n < 2048) :
    sequel (UInt8.ofNat (n / 64 % 32 + 192)) (UInt8.ofNat (n % 64 + 128) :: rest) =
      (some (Char.ofNat n), rest) := by
  have hleads := leads_two (n / 64 % 32) (by omega) (by omega)
  have hcode : n / 64 % 32 * 64 + n % 64 = n := by omega
  rw [hleads.sequel_eq (by omega) (by omega) (by omega) (by omega), hcode]
  rfl

lemma sequel_three (hlow : 2048 ≤ n) (hhigh : n < 65536) (hpair : n < 0xD800 ∨ 0xDFFF < n) :
    sequel (UInt8.ofNat (n / 4096 % 16 + 224))
        (UInt8.ofNat (n / 64 % 64 + 128) :: UInt8.ofNat (n % 64 + 128) :: rest) =
      (some (Char.ofNat n), rest) := by
  have hleads := leads_three (n / 4096 % 16) (by omega)
  have hcode : (n / 4096 % 16 * 64 + n / 64 % 64) * 64 + n % 64 = n := by omega
  rw [hleads.sequel_eq (by split <;> omega) (by split <;> omega) (by split <;> omega) (by omega),
    continuation_cons (by omega), hcode]
  rfl

lemma sequel_four (hlow : 65536 ≤ n) (hhigh : n < 0x110000) :
    sequel (UInt8.ofNat (n / 262144 % 8 + 240))
        (UInt8.ofNat (n / 4096 % 64 + 128) :: UInt8.ofNat (n / 64 % 64 + 128) ::
          UInt8.ofNat (n % 64 + 128) :: rest) =
      (some (Char.ofNat n), rest) := by
  have hleads := leads_four (n / 262144 % 8) (by omega)
  have hcode : ((n / 262144 % 8 * 64 + n / 4096 % 64) * 64 + n / 64 % 64) * 64 + n % 64 = n := by
    omega
  rw [hleads.sequel_eq (by split <;> omega) (by split <;> omega) (by split <;> omega) (by omega),
    continuation_cons (by omega), continuation_cons (by omega), hcode]
  rfl

end Characters

lemma exists_sequel (c : Char) :
    ∃ lead more, String.utf8EncodeChar c = lead :: more ∧
      ∀ rest, sequel lead (more ++ rest) = (some c, rest) := by
  have hvalid : c.toNat < 0xD800 ∨ 0xDFFF < c.toNat ∧ c.toNat < 0x110000 := c.valid
  have hcode : Char.ofNat c.toNat = c := Char.ofNat_toNat c
  rw [String.utf8EncodeChar, Char.toNat_val]
  generalize c.toNat = n at hvalid hcode
  subst hcode
  split
  · exact ⟨_, _, rfl, fun rest => sequel_one rest (by omega)⟩
  · split
    · exact ⟨_, _, rfl, fun rest => sequel_two rest (by omega) (by omega)⟩
    · split
      · exact ⟨_, _, rfl, fun rest => sequel_three rest (by omega) (by omega) (by omega)⟩
      · exact ⟨_, _, rfl, fun rest => sequel_four rest (by omega) (by omega)⟩

/-! ### Texts -/

lemma readings_bytes (cs : List Char) :
    readings (cs.flatMap String.utf8EncodeChar) = cs.map some := by
  induction cs with
  | nil => rw [List.flatMap_nil, readings, List.map_nil]
  | cons c cs ih =>
    obtain ⟨lead, more, hbytes, hsequel⟩ := exists_sequel c
    rw [List.flatMap_cons, hbytes, List.cons_append, readings, hsequel, ih, List.map_cons]

lemma byteArray_toListLoop (bytes : ByteArray) (i : Nat) (before : List UInt8) :
    ByteArray.toList.loop bytes i before = before.reverse ++ bytes.data.toList.drop i := by
  fun_induction ByteArray.toList.loop bytes i before with
  | case1 i before hlt ih =>
    have hget : bytes.get! i = bytes.data.toList[i] := getElem!_pos bytes.data i hlt
    rw [ih, hget, List.drop_eq_getElem_cons (i := i) hlt, List.reverse_cons, List.append_assoc]
    rfl
  | case2 i before hge =>
    rw [List.drop_eq_nil_of_le (Nat.le_of_not_lt hge), List.append_nil]

lemma toList_toUTF8 (s : String) : s.toUTF8.toList = s.toList.flatMap String.utf8EncodeChar := by
  have hbytes : s.toUTF8 = (s.toList.flatMap String.utf8EncodeChar).toByteArray := by
    rw [← List.utf8Encode, ← String.toByteArray_ofList, String.ofList_toList]
    rfl
  rw [hbytes, ByteArray.toList, byteArray_toListLoop, List.reverse_nil, List.nil_append,
    List.drop_zero, List.toList_data_toByteArray]

/-- **Texts are read from their own bytes.** -/
theorem decode?_toUTF8 (s : String) : decode? s.toUTF8 = some s := by
  have hall : (s.toList.map some).mapM id = some s.toList := by
    induction s.toList with
    | nil => rfl
    | cons c cs ih => rw [List.map_cons, List.mapM_cons, ih]; rfl
  rw [decode?, toList_toUTF8, readings_bytes, hall, Option.map_some, String.ofList_toList]

end Pressroom.Text
