import Pressroom.Data.Shape
import Pressroom.Document.Skeleton
import Pressroom.Proofs.Data.Reading

/-!
Records and their printed form. A reader restores a result from a value if it reads just that from
the units of the value, whatever stands behind them. Main statements: a record is restored from an
object with its fields in their order, those that may be missing being there or not; and whatever is
read of any text has a property that each field of it keeps.
-/

namespace Pressroom.Reader

open Lexeme (AllHeld ReadsBack)
open Value (Fits)

/-! ### Restoring -/

/-- A reader reads a result from the units of a value and no further. -/
structure Restores {α : Type} (read : Reader α) (room : Nat) (value : Value) (result : α) :
    Prop where
  fits : Fits room value
  reads : ∀ rest, read room (value.units ++ rest) = .ok (result, rest)

section Restores

variable {α : Type} {read : Reader α} {room : Nat} {value : Value} {result : α}

lemma restores_text (s : String) : Restores text room (.str s) s :=
  ⟨.str room s, fun _ => rfl⟩

lemma restores_flag (b : Bool) : Restores flag room (.bool b) b :=
  ⟨.bool room b, fun _ => rfl⟩

lemma restores_count {n : Nat} (h : n ≤ Number.countLimit) :
    Restores count room (.num (.int n)) n := by
  refine ⟨.num room ?_, fun _ => rfl⟩
  rw [Lexeme.Held]
  omega

lemma restores_kept (h : Fits room value) : Restores kept room value value :=
  ⟨h, fun rest => h.reads _ rest (by rw [List.length_append]; omega)⟩

lemma Restores.optional (h : Restores read room value result) (hvalue : value ≠ .null) :
    Restores (optional read) room value (some result) := by
  refine ⟨h.fits, fun rest => ?_⟩
  obtain ⟨unit, tail, hunits, -, hnull⟩ := value.units_eq_cons
  have hread := h.reads rest
  rw [hunits, List.cons_append] at hread ⊢
  unfold Reader.optional
  split
  · next heq => exact absurd (hnull (List.cons.inj heq).1) hvalue
  · rw [hread]
    rfl

lemma Restores.buffered (h : Restores read room value result) :
    Restores (buffered read) room value result := by
  refine ⟨h.fits, fun rest => ?_⟩
  rw [Reader.buffered, (restores_kept h.fits).reads, h.reads]

/-! ### Lists -/

lemma listItems_of_restores {items : List α} (toValue : α → Value) (hne : items ≠ [])
    (h : ∀ item ∈ items, Restores read room (toValue item) item) (fuel : Nat) (rest : List Lexeme)
    (hfuel : (Value.itemUnits (items.map toValue)).length ≤ fuel) :
    listItems read fuel room
        ((Value.itemUnits (items.map toValue)).tail ++ .closeArray :: rest) =
      .ok (items, rest) := by
  induction items generalizing fuel with
  | nil => exact absurd rfl hne
  | cons item items ih =>
    obtain ⟨hitem, hitems⟩ := List.forall_mem_cons.1 h
    simp only [List.map_cons, Value.itemUnits, List.cons_append, List.length_cons,
      List.length_append, List.tail_cons] at hfuel ⊢
    cases fuel with
    | zero => omega
    | succ fuel =>
      rw [listItems, List.append_assoc, hitem.reads, ok_bind]
      cases items with
      | nil => rfl
      | cons other others =>
        have hothers := ih (List.cons_ne_nil _ _) hitems fuel (by omega)
        simp only [List.map_cons, Value.itemUnits, List.cons_append, List.tail_cons] at hothers ⊢
        rw [hothers]
        rfl

lemma list_cons {unit : Lexeme} (h : unit ≠ .closeArray) (units : List Lexeme) :
    list read (room + 1) (.openArray :: unit :: units) =
      listItems read (units.length + 1) room (unit :: units) := by
  cases unit with
  | closeArray => exact absurd rfl h
  | _ => rfl

lemma restores_list {items : List α} (toValue : α → Value)
    (h : ∀ item ∈ items, Restores read room (toValue item) item) :
    Restores (list read) (room + 1) (.arr (items.map toValue)) items := by
  refine ⟨.arr (by simpa using fun item hitem => (h item hitem).fits), fun rest => ?_⟩
  cases items with
  | nil => rfl
  | cons item items =>
    obtain ⟨unit, tail, hunits, hend, -⟩ := (toValue item).units_eq_cons
    have hitems (fuel : Nat) := listItems_of_restores toValue (List.cons_ne_nil _ _) h fuel rest
    simp only [List.map_cons, Value.units, Value.itemUnits, List.cons_append, List.tail_cons,
      List.append_assoc, List.nil_append, hunits, List.length_cons, List.length_append]
      at hitems ⊢
    rw [list_cons hend, hitems]
    simp only [List.length_append, List.length_cons]
    omega

end Restores

/-! ### Records -/

variable {σ α : Type} {room : Nat}

lemma Restores.field {read : Reader α} {value : Value} {result : α}
    (h : Restores read room value result) (name : String) (required : Bool) (set : α → σ → σ) :
    Restores (Field.of name required read set).read room value (set result) := by
  refine ⟨h.fits, fun rest => ?_⟩
  show (read room (value.units ++ rest)).map _ = _
  rw [h.reads]
  rfl

/-- The entries of an object that turn one record into another, in the order of the fields: there is
one for each field, save those that may be missing. -/
inductive Fills (room : Nat) : List (Field σ) → List (String × Value) → σ → σ → Prop where
  | done (record : σ) : Fills room [] [] record record
  | without {field : Field σ} {fields : List (Field σ)} {entries : List (String × Value)}
      {record result : σ} (hrequired : field.required = false)
      (h : Fills room fields entries record result) :
      Fills room (field :: fields) entries record result
  | entry {field : Field σ} {fields : List (Field σ)} {entries : List (String × Value)}
      {record result : σ} {value : Value} {update : σ → σ}
      (hread : Restores field.read room value update)
      (h : Fills room fields entries (update record) result) :
      Fills room (field :: fields) ((field.name, value) :: entries) record result

section recordEntries

variable {fields : List (Field σ)} {field : Field σ} {key : String} {seen : List String}
  {update : σ → σ} {units rest : List Lexeme} (fuel : Nat) (record : σ)
  (hfind : fields.find? (·.name == key) = some field) (hnew : seen.contains key = false)

include hfind hnew

lemma recordEntries_comma (hread : field.read room units = .ok (update, .comma :: rest)) :
    recordEntries fields room (fuel + 1) seen record (.str (some key) :: .colon :: units) =
      recordEntries fields room fuel (key :: seen) (update record) rest := by
  rw [recordEntries.eq_def]
  simp only [hfind, hnew, Bool.false_eq_true, if_false, hread, ok_bind]
  rfl

lemma recordEntries_closeObject
    (hread : field.read room units = .ok (update, .closeObject :: rest))
    (hall : ∀ f ∈ fields, f.required = true → f.name ∈ key :: seen) :
    recordEntries fields room (fuel + 1) seen record (.str (some key) :: .colon :: units) =
      .ok (update record, rest) := by
  have hall : (fields.all fun f => !f.required || (key :: seen).contains f.name) = true := by
    refine List.all_eq_true.2 fun f hf => ?_
    cases hreq : f.required with
    | false => rfl
    | true => simpa using hall f hf hreq
  rw [recordEntries.eq_def]
  simp only [hfind, hnew, Bool.false_eq_true, if_false, hread, ok_bind]
  show (if _ then _ else _) = _
  rw [if_pos hall]
  rfl

end recordEntries

lemma find?_of_nodup {fields : List (Field σ)} (h : (fields.map (·.name)).Nodup) {field : Field σ}
    (hfield : field ∈ fields) : fields.find? (·.name == field.name) = some field := by
  induction fields with
  | nil => cases hfield
  | cons other fields ih =>
    obtain ⟨hother, hfields⟩ := List.nodup_cons.1 h
    rcases List.mem_cons.1 hfield with rfl | hmem
    · simp
    · have hne : other.name ≠ field.name := fun heq =>
        hother (List.mem_map.2 ⟨field, hmem, heq.symm⟩)
      rw [List.find?_cons_of_neg (by simpa using hne), ih hfields hmem]

/-- The fields of a record that are left to come, behind those whose names are seen. -/
structure Left (all fields : List (Field σ)) (seen : List String) : Prop where
  find : ∀ field ∈ fields, all.find? (·.name == field.name) = some field
  nodup : (fields.map (·.name)).Nodup
  unseen : ∀ field ∈ fields, field.name ∉ seen
  required : ∀ field ∈ all, field.required = true → field ∈ fields ∨ field.name ∈ seen

namespace Left

variable {all fields : List (Field σ)} {field : Field σ} {seen : List String}

lemma start (h : (fields.map (·.name)).Nodup) : Left fields fields [] :=
  ⟨fun _ => find?_of_nodup h, h, fun _ _ => List.not_mem_nil, fun _ hfield _ => .inl hfield⟩

lemma skip (h : Left all (field :: fields) seen) (hoptional : field.required = false) :
    Left all fields seen where
  find f hf := h.find f (List.mem_cons_of_mem _ hf)
  nodup := (List.nodup_cons.1 h.nodup).2
  unseen f hf := h.unseen f (List.mem_cons_of_mem _ hf)
  required f hf hrequired := by
    refine (h.required f hf hrequired).imp_left fun hmem => ?_
    rcases List.mem_cons.1 hmem with rfl | hmem
    · rw [hoptional] at hrequired
      cases hrequired
    · exact hmem

lemma take (h : Left all (field :: fields) seen) : Left all fields (field.name :: seen) where
  find f hf := h.find f (List.mem_cons_of_mem _ hf)
  nodup := (List.nodup_cons.1 h.nodup).2
  unseen f hf := by
    have hne : f.name ≠ field.name := fun heq =>
      (List.nodup_cons.1 h.nodup).1 (List.mem_map.2 ⟨f, hf, heq⟩)
    simpa [hne] using h.unseen f (List.mem_cons_of_mem _ hf)
  required f hf hrequired := by
    rcases h.required f hf hrequired with hmem | hmem
    · rcases List.mem_cons.1 hmem with rfl | hmem
      · exact .inr List.mem_cons_self
      · exact .inl hmem
    · exact .inr (List.mem_cons_of_mem _ hmem)

end Left

namespace Fills

variable {fields : List (Field σ)} {entries : List (String × Value)} {record result : σ}

lemma always {read : Reader α} {value : Value} {a : α} {name : String} {required : Bool}
    {set : α → σ → σ} (hread : Restores read room value a)
    (h : Fills room fields entries (set a record) result) :
    Fills room (.of name required read set :: fields) ((name, value) :: entries) record result := by
  have hfield := hread.field name required set
  exact .entry hfield h

lemma sometimes {read : Reader α} {toValue : α → Value} {value : Option α} {name : String}
    {set : Option α → σ → σ}
    (hread : ∀ a ∈ value, Restores read room (toValue a) a ∧ toValue a ≠ .null)
    (hunset : set none record = record)
    (h : Fills room fields entries (set value record) result) :
    Fills room (.of name false (optional read) set :: fields)
      (optionalField name toValue value ++ entries) record result := by
  cases value with
  | none =>
    rw [hunset] at h
    exact .without rfl h
  | some a =>
    obtain ⟨hrestores, hnull⟩ := hread a rfl
    exact .always (hrestores.optional hnull) h

lemma of_nil (h : Fills room fields [] record result) :
    result = record ∧ ∀ field ∈ fields, field.required = false := by
  generalize hentries : ([] : List (String × Value)) = entries at h
  induction h with
  | done => exact ⟨rfl, nofun⟩
  | without hrequired _ ih =>
    obtain ⟨hresult, hfields⟩ := ih hentries
    exact ⟨hresult, List.forall_mem_cons.2 ⟨hrequired, hfields⟩⟩
  | entry => cases hentries

lemma keys_sublist (h : Fills room fields entries record result) :
    (entries.map (·.1)).Sublist (fields.map (·.name)) := by
  induction h with
  | done => exact .slnil
  | without _ _ ih => exact ih.cons _
  | entry _ _ ih => exact ih.cons_cons _

lemma fits_values (h : Fills room fields entries record result) :
    ∀ entry ∈ entries, Fits room entry.2 := by
  induction h with
  | done => exact nofun
  | without _ _ ih => exact ih
  | entry hread _ ih => exact List.forall_mem_cons.2 ⟨hread.fits, ih⟩

lemma recordEntries {all : List (Field σ)} (h : Fills room fields entries record result)
    {seen : List String} (hleft : Left all fields seen) (hne : entries ≠ []) (fuel : Nat)
    (rest : List Lexeme) (hfuel : (Value.fieldUnits entries).length ≤ fuel) :
    Reader.recordEntries all room fuel seen record
        ((Value.fieldUnits entries).tail ++ .closeObject :: rest) =
      .ok (result, rest) := by
  induction h generalizing seen fuel with
  | done => exact absurd rfl hne
  | without hoptional _ ih => exact ih (hleft.skip hoptional) hne fuel hfuel
  | @entry field fields entries record result value update hread hmore ih =>
    have hfind := hleft.find field List.mem_cons_self
    have hnew : seen.contains field.name = false := by
      simpa using hleft.unseen field List.mem_cons_self
    simp only [Value.fieldUnits, List.cons_append, List.length_cons, List.length_append,
      List.tail_cons, List.append_assoc] at hfuel ⊢
    cases fuel with
    | zero => omega
    | succ fuel =>
      cases entries with
      | nil =>
        obtain ⟨rfl, hoptional⟩ := hmore.of_nil
        refine recordEntries_closeObject fuel record hfind hnew (hread.reads _) ?_
        intro f hf hrequired
        refine (hleft.take.required f hf hrequired).resolve_left fun hmem => ?_
        rw [hoptional f hmem] at hrequired
        cases hrequired
      | cons entry entries =>
        obtain ⟨key, other⟩ := entry
        have hothers := ih hleft.take (List.cons_ne_nil _ _) fuel (by omega)
        simp only [Value.fieldUnits, List.cons_append, List.tail_cons] at hothers ⊢
        rw [recordEntries_comma fuel record hfind hnew (hread.reads _), ← hothers]

end Fills

/-- **A record is restored from an object with its fields in their order.** -/
theorem restores_record {fields : List (Field σ)} {entries : List (String × Value)}
    {start result : σ} (h : Fills room fields entries start result)
    (hnames : (fields.map (·.name)).Nodup) :
    Restores (record fields start) (room + 1) (.obj entries) result := by
  refine ⟨.obj (hnames.sublist h.keys_sublist) h.fits_values, fun rest => ?_⟩
  cases entries with
  | nil =>
    obtain ⟨rfl, hoptional⟩ := h.of_nil
    have hany : (fields.any (·.required)) = false := by simpa using hoptional
    show (if fields.any (·.required) then _ else _) = _
    rw [hany, if_neg Bool.false_ne_true]
    rfl
  | cons entry entries =>
    obtain ⟨key, value⟩ := entry
    have hentries (fuel : Nat) :=
      h.recordEntries (Left.start hnames) (List.cons_ne_nil _ _) fuel rest
    simp only [Value.fieldUnits, Value.units, List.cons_append, List.tail_cons, List.append_assoc,
      List.nil_append, List.length_cons, List.length_append] at hentries ⊢
    rw [record.eq_def]
    dsimp only
    refine hentries _ ?_
    simp only [List.length_cons, List.length_append]
    omega

/-! ### What is read -/

/-- What a reader reads of units whose numbers can be held has a property, and what is left is what
stands behind it. -/
def Yields (read : Reader α) (room : Nat) (P : α → Prop) : Prop :=
  ∀ units result rest, AllHeld units → read room units = .ok (result, rest) →
    rest <:+ units ∧ P result

section Yields

variable {read : Reader α} {P : α → Prop}

lemma yields_text : Yields text room fun _ => True := by
  intro units result rest _ h
  unfold text at h
  split at h
  · cases h
    exact ⟨List.suffix_cons _ _, trivial⟩
  · cases h

lemma yields_flag : Yields flag room fun _ => True := by
  intro units result rest _ h
  unfold flag at h
  split at h
  · cases h
    exact ⟨List.suffix_cons _ _, trivial⟩
  · cases h

lemma yields_count : Yields count room (· ≤ Number.countLimit) := by
  intro units result rest hheld h
  unfold count at h
  split at h
  · cases h
    exact ⟨List.suffix_cons _ _, Int.ofNat_le.1 (hheld _ List.mem_cons_self).2⟩
  · cases h

lemma yields_kept : Yields kept room (Fits room) :=
  fun _ _ _ hheld h => (sound _).value hheld h

lemma kept_ne_null {units rest : List Lexeme} {result : Value}
    (hunits : ∀ tail, units ≠ .null :: tail) (h : kept room units = .ok (result, rest)) :
    result ≠ .null := by
  rintro rfl
  rw [kept, value.eq_def] at h
  dsimp only at h
  split at h
  · next tail => exact hunits tail rfl
  · cases h
  · next n tail =>
    obtain ⟨value, hvalue, hdone⟩ := bind_eq_ok.1 h
    cases n <;> cases hvalue
    cases hdone
  · next s tail =>
    obtain ⟨value, hvalue, hdone⟩ := bind_eq_ok.1 h
    cases s <;> cases hvalue
    cases hdone
  · obtain ⟨inner, -, h⟩ := bind_eq_ok.1 h
    split at h
    · cases h
    · obtain ⟨items, -, hdone⟩ := bind_eq_ok.1 h
      cases hdone
  · obtain ⟨inner, -, h⟩ := bind_eq_ok.1 h
    split at h
    · cases h
    · obtain ⟨entries, -, hdone⟩ := bind_eq_ok.1 h
      cases hdone
  · cases h

lemma yields_optional_kept : Yields (optional kept) room fun found =>
    ∀ value ∈ found, Fits room value ∧ value ≠ .null := by
  intro units result rest hheld h
  unfold Reader.optional at h
  split at h
  · cases h
    exact ⟨List.suffix_cons _ _, nofun⟩
  · next hunits =>
    obtain ⟨⟨value, behind⟩, hvalue, hdone⟩ := map_eq_ok.1 h
    cases hdone
    obtain ⟨hrest, hfits⟩ := yields_kept units value _ hheld hvalue
    exact ⟨hrest, by simpa using ⟨hfits, kept_ne_null (fun tail => hunits tail) hvalue⟩⟩

lemma Yields.optional (h : Yields read room P) :
    Yields (optional read) room fun found => ∀ a ∈ found, P a := by
  intro units result rest hheld hread
  unfold Reader.optional at hread
  split at hread
  · cases hread
    exact ⟨List.suffix_cons _ _, nofun⟩
  · obtain ⟨⟨a, behind⟩, ha, hdone⟩ := map_eq_ok.1 hread
    cases hdone
    obtain ⟨hrest, hP⟩ := h units a _ hheld ha
    exact ⟨hrest, by simpa using hP⟩

lemma Yields.buffered (h : Yields read room P) : Yields (buffered read) room P := by
  intro units result rest hheld hread
  unfold Reader.buffered at hread
  split at hread
  · cases hread
  · split at hread
    · next hfound =>
      cases hread
      exact h units result rest hheld hfound
    · cases hread

lemma Yields.listItems (h : Yields read room P) (fuel : Nat) :
    Yields (listItems read fuel) room fun items => ∀ item ∈ items, P item := by
  induction fuel with
  | zero => exact fun _ _ _ _ hread => nomatch hread
  | succ fuel ih =>
    intro units result rest hheld hread
    obtain ⟨⟨first, behind⟩, hfirst, hread⟩ := bind_eq_ok.1 hread
    obtain ⟨hbehind, hP⟩ := h units first behind hheld hfirst
    dsimp only at hread
    split at hread
    · next tail =>
      have htail := (List.suffix_cons _ tail).trans hbehind
      obtain ⟨⟨others, last⟩, hothers, hdone⟩ := bind_eq_ok.1 hread
      cases hdone
      obtain ⟨hlast, hrest⟩ := ih tail others last (hheld.of_suffix htail) hothers
      exact ⟨hlast.trans htail, List.forall_mem_cons.2 ⟨hP, hrest⟩⟩
    · next tail =>
      cases hread
      exact ⟨(List.suffix_cons _ _).trans hbehind, by simpa using hP⟩
    · cases hread

lemma Yields.list (h : Yields read room P) :
    Yields (list read) (room + 1) fun items => ∀ item ∈ items, P item := by
  intro units result rest hheld hread
  unfold Reader.list at hread
  split at hread
  · cases hread
  · cases hread
    exact ⟨(List.suffix_cons _ _).trans (List.suffix_cons _ _), nofun⟩
  · next heq =>
    cases heq
    obtain ⟨hrest, hP⟩ := h.listItems _ _ _ _ (hheld.of_suffix (List.suffix_cons _ _)) hread
    exact ⟨hrest.trans (List.suffix_cons _ _), hP⟩
  · cases hread

end Yields

/-! ### Records that are read -/

/-- What is put into a record keeps a property of it. -/
def Keeps (P : σ → Prop) (update : σ → σ) : Prop :=
  ∀ record, P record → P (update record)

lemma Yields.field {read : Reader α} {P : α → Prop} {Q : σ → Prop} {set : α → σ → σ}
    (h : Yields read room P) (name : String) (required : Bool)
    (hset : ∀ a, P a → Keeps Q (set a)) :
    Yields (Field.of name required read set).read room (Keeps Q) := by
  intro units update rest hheld hread
  obtain ⟨⟨a, behind⟩, ha, hdone⟩ := map_eq_ok.1 hread
  cases hdone
  obtain ⟨hrest, hP⟩ := h units a _ hheld ha
  exact ⟨hrest, hset a hP⟩

section Keeps

variable {fields : List (Field σ)} {P : σ → Prop}
  (hfields : ∀ field ∈ fields, Yields field.read room (Keeps P))

include hfields

lemma yields_recordEntries (fuel : Nat) {seen : List String} {start result : σ}
    {units rest : List Lexeme} (hstart : P start) (hheld : AllHeld units)
    (h : recordEntries fields room fuel seen start units = .ok (result, rest)) :
    rest <:+ units ∧ P result := by
  induction fuel generalizing seen start units with
  | zero => cases h
  | succ fuel ih =>
    rw [recordEntries.eq_def] at h
    dsimp only at h
    split at h
    · next key tail =>
      have htail := hheld.of_suffix (List.suffix_cons _ tail)
      split at h
      case h_3 => cases h
      case' h_1 field hfield =>
        split at h
        case isTrue => cases h
        split at h
        case h_2 => cases h
        case' h_1 value =>
          obtain ⟨⟨update, behind⟩, hupdate, h⟩ := bind_eq_ok.1 h
          obtain ⟨hsuffix, hkeeps⟩ := hfields field (List.mem_of_find?_eq_some hfield) value
            update behind (htail.of_suffix (List.suffix_cons _ _)) hupdate
          have hrecord := hkeeps start hstart
      case' h_2 value _ =>
        obtain ⟨behind, hskipped, h⟩ := bind_eq_ok.1 h
        obtain ⟨⟨skippedValue, behind⟩, hvalue, rfl⟩ := map_eq_ok.1 hskipped
        obtain ⟨hsuffix, -⟩ := (sound _).value (htail.of_suffix (List.suffix_cons _ _)) hvalue
        have hrecord := hstart
      -- What comes behind an entry is the same for a field and for what is skipped.
      all_goals
        obtain ⟨-, ⟨⟩, hdone⟩ := bind_eq_ok.1 h
        clear h
        replace hsuffix := hsuffix.trans ((List.suffix_cons .colon value).trans
          (List.suffix_cons (.str (some key)) _))
        dsimp only at hdone
        split at hdone
        · next more =>
          have hmore := (List.suffix_cons _ more).trans hsuffix
          obtain ⟨hrest, hresult⟩ := ih hrecord (hheld.of_suffix hmore) hdone
          exact ⟨hrest.trans hmore, hresult⟩
        · next more =>
          split at hdone
          · cases hdone
            exact ⟨(List.suffix_cons _ _).trans hsuffix, hrecord⟩
          · cases hdone
        · cases hdone
    · cases h

lemma yields_recordItems {first : Bool} {start result : σ} {units rest : List Lexeme}
    (hstart : P start) (hheld : AllHeld units)
    (h : recordItems room fields first start units = .ok (result, rest)) :
    rest <:+ units ∧ P result := by
  induction fields generalizing first start units with
  | nil =>
    unfold recordItems at h
    split at h
    · cases h
      exact ⟨List.suffix_cons _ _, hstart⟩
    · cases h
    · next heq => cases heq
  | cons field fields ih =>
    obtain ⟨hfield, hmore⟩ := List.forall_mem_cons.1 hfields
    rw [recordItems.eq_def] at h
    dsimp only at h
    split at h
    · split at h
      · cases h
      · cases h
        exact ⟨List.suffix_cons _ _, hstart⟩
    · obtain ⟨⟨update, behind⟩, hupdate, h⟩ := bind_eq_ok.1 h
      obtain ⟨hsuffix, hkeeps⟩ := hfield _ update behind hheld hupdate
      obtain ⟨hrest, hresult⟩ := ih hmore (hkeeps start hstart) (hheld.of_suffix hsuffix) h
      exact ⟨hrest.trans hsuffix, hresult⟩
    · next items =>
      obtain ⟨⟨update, behind⟩, hupdate, h⟩ := bind_eq_ok.1 h
      obtain ⟨hsuffix, hkeeps⟩ := hfield items update behind
        (hheld.of_suffix (List.suffix_cons _ _)) hupdate
      have hbehind := hsuffix.trans (List.suffix_cons .comma items)
      obtain ⟨hrest, hresult⟩ := ih hmore (hkeeps start hstart) (hheld.of_suffix hbehind) h
      exact ⟨hrest.trans hbehind, hresult⟩
    · cases h

/-- **What is read of a record has each property that its fields keep.** -/
theorem yields_record {start : σ} (hstart : P start) :
    Yields (record fields start) (room + 1) P := by
  intro units result rest hheld h
  unfold record at h
  split at h
  · cases h
  · cases h
  · split at h
    · cases h
    · cases h
      exact ⟨(List.suffix_cons _ _).trans (List.suffix_cons _ _), hstart⟩
  · next heq =>
    cases heq
    obtain ⟨hrest, hP⟩ := yields_recordEntries hfields _ hstart
      (hheld.of_suffix (List.suffix_cons _ _)) h
    exact ⟨hrest.trans (List.suffix_cons _ _), hP⟩
  · next heq =>
    cases heq
    obtain ⟨hrest, hP⟩ := yields_recordItems hfields hstart
      (hheld.of_suffix (List.suffix_cons _ _)) h
    exact ⟨hrest.trans (List.suffix_cons _ _), hP⟩
  · cases h

end Keeps

end Pressroom.Reader
