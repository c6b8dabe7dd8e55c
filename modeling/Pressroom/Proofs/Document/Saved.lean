import Pressroom.Document.Config
import Pressroom.Document.Skeleton
import Pressroom.Proofs.Data.Records

/-!
Skeletons and configurations in their JSON form. What is read of a text may be written in many ways:
fields in any order or in an array, fields that are missing or unknown, a template that is no more
than a name. Its JSON form is written in one way. Main statement: what was read of any text is read
again, as it is, of its own JSON text, if the floating-point numbers in it are read as they are
written.
-/

namespace Pressroom

open Reader
open Lexeme (Held ReadsBack)
open Value (Fits)

/-! ### Whole texts -/

/-- The floating-point numbers of a value are read as they are written. -/
def Value.FloatsReadBack (value : Value) : Prop :=
  ∀ x, .float x ∈ value.numerals → ReadsBack (.float x)

namespace Reader

variable {α : Type} {read : Reader α} {room : Nat}

lemma Restores.document {value : Value} {result : α} (h : Restores read room value result)
    (hfloats : value.FloatsReadBack) : document read room value.indented = .ok result := by
  have hnumerals (n : Numeral) (hn : n ∈ value.numerals) : ReadsBack n := by
    cases n with
    | int n => exact Lexeme.readsBack_int (h.fits.held _ hn)
    | float x => exact hfloats x hn
  have hread := h.reads []
  rw [List.append_nil] at hread
  rw [Reader.document, value.ofText_indented hnumerals, hread]
  rfl

lemma Yields.document {P : α → Prop} (h : Yields read room P) {text : String} {result : α}
    (hread : document read room text = .ok result) : P result := by
  obtain ⟨⟨found, rest⟩, hfound, hdone⟩ := bind_eq_ok.1 hread
  have hP := (h _ _ _ (Lexeme.allHeld_ofText _) hfound).2
  dsimp only at hdone
  split at hdone
  · cases hdone
    exact hP
  · cases hdone

end Reader

/-! ### Margins, finishes and plans -/

section Parts

variable (room : Nat)

lemma restores_optionalText (value : Option String) :
    ∀ s ∈ value, Restores text room (.str s) s ∧ Value.str s ≠ .null :=
  fun s _ => ⟨restores_text s, nofun⟩

lemma Margins.restores (margin : Margins) :
    Restores (record Margins.fields .unset) (room + 1) margin.toValue margin := by
  have hfills : Fills room Margins.fields
      (optionalField "top" .str margin.top ++ (optionalField "bottom" .str margin.bottom ++
        (optionalField "left" .str margin.left ++
          (optionalField "right" .str margin.right ++ [])))) .unset margin :=
    .sometimes (restores_optionalText room _) rfl <|
      .sometimes (restores_optionalText room _) rfl <|
      .sometimes (restores_optionalText room _) rfl <|
      .sometimes (restores_optionalText room _) rfl <| .done _
  simpa only [Margins.toValue, List.append_assoc, List.append_nil]
    using restores_record hfills (by decide)

lemma Finish.restores (finish : Finish) :
    Restores (record Finish.fields .plain) (room + 1) finish.toValue finish := by
  have hfills : Fills room Finish.fields
      (optionalField "css" .str finish.css ++ (optionalField "paper" .str finish.paper ++
        [("load_css", .bool finish.loadCss), ("wrap", .bool finish.wrap),
          ("load_images", .bool finish.loadImages),
          ("load_images_as_urls", .bool finish.imagesAsUrls)])) .plain finish :=
    .sometimes (restores_optionalText room _) rfl <|
      .sometimes (restores_optionalText room _) rfl <|
      .always (restores_flag _) <| .always (restores_flag _) <| .always (restores_flag _) <|
      .always (restores_flag _) <| .done _
  simpa only [Finish.toValue, List.append_assoc] using restores_record hfills (by decide)

lemma optionalField_map {α β : Type} (name : String) (toValue : β → Value) (f : α → β)
    (value : Option α) :
    optionalField name toValue (value.map f) = optionalField name (toValue ∘ f) value := by
  cases value <;> rfl

lemma Path.ofString_toString (path : Path) : ofString path.toString = path := by
  rw [ofString, toString, String.toList_ofList]

lemma SavePlan.restores (plan : SavePlan) :
    Restores (record SavePlan.fields .nothing) (room + 1) plan.toValue plan := by
  have hfolder : (plan.folder.map Path.toString).map Path.ofString = plan.folder := by
    cases plan.folder <;> simp [Path.ofString_toString]
  have hfills : Fills room SavePlan.fields
      (optionalField "dir" .str (plan.folder.map Path.toString) ++
        [("data", .bool plan.data), ("skeleton", .bool plan.skeleton),
          ("rendered_template", .bool plan.page), ("pdf", .bool plan.pdf)]) .nothing
      { plan with folder := (plan.folder.map Path.toString).map Path.ofString } :=
    .sometimes (restores_optionalText room _) rfl <|
      .always (restores_flag _) <| .always (restores_flag _) <| .always (restores_flag _) <|
      .always (restores_flag _) <| .done _
  rw [hfolder, optionalField_map] at hfills
  exact restores_record hfills (by decide)

end Parts

/-! ### Skeletons -/

/-- A template choice that has a JSON form: what stands around the pages is nested no deeper than it
may be inside a document, and null is the same as nothing. -/
structure TemplateChoice.Storable (template : TemplateChoice) : Prop where
  header : ∀ value ∈ template.header, Fits (depthLimit - 2) value ∧ value ≠ .null
  footer : ∀ value ∈ template.footer, Fits (depthLimit - 2) value ∧ value ≠ .null

structure Skeleton.Storable (skeleton : Skeleton) : Prop where
  template : skeleton.template.Storable
  data : Fits (depthLimit - 1) skeleton.data
  content : Fits (depthLimit - 1) skeleton.content

lemma TemplateChoice.Storable.restores {template : TemplateChoice} (h : template.Storable) :
    Restores reader (depthLimit - 1) template.toValue template := by
  have hvalue {value : Value} (h : Fits (depthLimit - 2) value ∧ value ≠ .null) :
      Restores kept (depthLimit - 2) (id value) value ∧ id value ≠ .null :=
    h.imp restores_kept id
  have hfills : Fills (depthLimit - 2) TemplateChoice.fields
      (("name", .str template.name) :: ("margin", template.margin.toValue) ::
        (optionalField "header" id template.header ++
          (optionalField "footer" id template.footer ++ []))) (.named "") template :=
    .always (restores_text _) <| .always (template.margin.restores _) <|
      .sometimes (fun value hmem => hvalue (h.header value hmem)) rfl <|
      .sometimes (fun value hmem => hvalue (h.footer value hmem)) rfl <| .done _
  have hrecord : Restores (record fields (.named "")) (depthLimit - 2 + 1) template.toValue
      template := by
    simpa only [toValue, List.append_assoc, List.append_nil, List.cons_append, List.nil_append]
      using restores_record hfills (by decide)
  exact Restores.buffered ⟨hrecord.fits, fun rest => hrecord.reads rest⟩

lemma Skeleton.Storable.restores {skeleton : Skeleton} (h : skeleton.Storable) :
    Restores reader depthLimit skeleton.toValue skeleton := by
  have hfills : Fills (depthLimit - 1) fields
      (("template", skeleton.template.toValue) :: ("data", skeleton.data) ::
        ("content", skeleton.content) :: ("style", skeleton.finish.toValue) ::
        ("no_printer", .bool skeleton.noPrinter) ::
        (optionalField "save" SavePlan.toValue skeleton.save ++ [])) blank skeleton :=
    .always h.template.restores <| .always (restores_kept h.data) <|
      .always (restores_kept h.content) <| .always (skeleton.finish.restores _) <|
      .always (restores_flag _) <|
      .sometimes (fun plan _ => ⟨plan.restores _, nofun⟩) rfl <| .done _
  have hrecord := restores_record hfills (by decide)
  rw [List.append_nil] at hrecord
  exact hrecord

/-! ### What is read -/

section Parts

variable (room : Nat)

lemma yields_field {σ α : Type} {read : Reader α} {P : α → Prop} {room : Nat}
    (h : Yields read room P) {name : String} {required : Bool} {set : α → σ → σ} :
    Yields (Field.of name required read set).read room (Keeps fun _ => True) :=
  h.field name required fun _ _ _ _ => trivial

lemma Margins.yields : Yields (record Margins.fields .unset) (room + 1) fun _ => True := by
  refine yields_record ?_ trivial
  simp only [fields, List.forall_mem_cons]
  exact ⟨yields_field yields_text.optional, yields_field yields_text.optional,
    yields_field yields_text.optional, yields_field yields_text.optional, nofun⟩

lemma Finish.yields : Yields (record Finish.fields .plain) (room + 1) fun _ => True := by
  refine yields_record ?_ trivial
  simp only [fields, List.forall_mem_cons]
  exact ⟨yields_field yields_text.optional, yields_field yields_text.optional,
    yields_field yields_flag, yields_field yields_flag, yields_field yields_flag,
    yields_field yields_flag, nofun⟩

lemma SavePlan.yields : Yields (record SavePlan.fields .nothing) (room + 1) fun _ => True := by
  refine yields_record ?_ trivial
  simp only [fields, List.forall_mem_cons]
  exact ⟨yields_field yields_text.optional, yields_field yields_flag, yields_field yields_flag,
    yields_field yields_flag, yields_field yields_flag, nofun⟩

end Parts

lemma TemplateChoice.yields_fields :
    ∀ field ∈ fields, Yields field.read (depthLimit - 2) (Keeps Storable) := by
  simp only [fields, List.forall_mem_cons]
  refine ⟨yields_text.field _ _ ?_, (Margins.yields _).field _ _ ?_,
    yields_optional_kept.field _ _ ?_, yields_optional_kept.field _ _ ?_, nofun⟩
  · exact fun name _ template h => ⟨h.header, h.footer⟩
  · exact fun margin _ template h => ⟨h.header, h.footer⟩
  · exact fun header hheader template h => ⟨hheader, h.footer⟩
  · exact fun footer hfooter template h => ⟨h.header, hfooter⟩

lemma TemplateChoice.storable_named (name : String) : (named name).Storable :=
  ⟨nofun, nofun⟩

lemma TemplateChoice.yields_reader : Yields reader (depthLimit - 1) Storable := by
  refine Yields.buffered fun units result rest hheld h => ?_
  split at h
  · obtain ⟨⟨name, behind⟩, hname, hdone⟩ := map_eq_ok.1 h
    cases hdone
    exact ⟨(yields_text _ _ _ hheld hname).1, storable_named name⟩
  · exact yields_record yields_fields (storable_named "") units result rest hheld h

lemma Skeleton.yields_fields :
    ∀ field ∈ fields, Yields field.read (depthLimit - 1) (Keeps Storable) := by
  simp only [fields, List.forall_mem_cons]
  refine ⟨TemplateChoice.yields_reader.field _ _ ?_, yields_kept.field _ _ ?_,
    yields_kept.field _ _ ?_, (Finish.yields _).field _ _ ?_, yields_flag.field _ _ ?_,
    (SavePlan.yields _).optional.field _ _ ?_, nofun⟩
  · exact fun template htemplate skeleton h => ⟨htemplate, h.data, h.content⟩
  · exact fun data hdata skeleton h => ⟨h.template, hdata, h.content⟩
  · exact fun content hcontent skeleton h => ⟨h.template, h.data, hcontent⟩
  all_goals exact fun _ _ skeleton h => ⟨h.template, h.data, h.content⟩

lemma Skeleton.storable_blank : blank.Storable :=
  ⟨TemplateChoice.storable_named "", .null _, .null _⟩

/-- A skeleton that is read of a text has a JSON form. -/
lemma Skeleton.storable_of_ofJson {text : String} {skeleton : Skeleton}
    (h : ofJson text = .ok skeleton) : skeleton.Storable :=
  (yields_record yields_fields storable_blank).document h

lemma Skeleton.Storable.ofJson_toJson {skeleton : Skeleton} (h : skeleton.Storable)
    (hfloats : skeleton.toValue.FloatsReadBack) : ofJson skeleton.toJson = .ok skeleton :=
  h.restores.document hfloats

/-! ### Configurations -/

open Inline (PublicFolder)

lemma PublicFolder.restores (served : PublicFolder) (room : Nat) :
    Restores (record PublicFolder.fields ⟨"", ""⟩) (room + 1) served.toValue served :=
  restores_record (.always (restores_text _) <| .always (restores_text _) <| .done _) (by decide)

lemma PublicFolder.yields (room : Nat) :
    Yields (record PublicFolder.fields ⟨"", ""⟩) (room + 1) fun _ => True := by
  refine yields_record ?_ trivial
  simp only [PublicFolder.fields, List.forall_mem_cons]
  exact ⟨yields_field yields_text, yields_field yields_text, nofun⟩

namespace Config

/-- A configuration that has a JSON form. -/
def Storable (config : Config) : Prop :=
  config.fetchTimeout ≤ Number.countLimit

lemma Storable.restores {config : Config} (h : config.Storable) :
    Restores reader depthLimit config.toValue config := by
  have hfills : Fills (depthLimit - 1) fields
      [("templates_dir", .str config.templates.toString),
        ("public_dirs", .arr (config.publicFolders.map PublicFolder.toValue)),
        ("public_base_url", .str config.publicBase),
        ("http_timeout_secs", .num (.int config.fetchTimeout))] standard
      { config with templates := .ofString config.templates.toString } :=
    .always (restores_text _) <|
      .always (restores_list PublicFolder.toValue fun served _ => PublicFolder.restores served _) <|
      .always (restores_text _) <| .always (restores_count h) <| .done _
  rw [Path.ofString_toString] at hfills
  exact restores_record hfills (by decide)

lemma floatsReadBack (config : Config) : config.toValue.FloatsReadBack := by
  intro x hx
  have hfolders (n : Numeral) :
      n ∉ Value.itemNumerals (config.publicFolders.map PublicFolder.toValue) := by
    rw [Value.itemNumerals_eq, List.mem_flatMap]
    rintro ⟨item, hitem, hn⟩
    obtain ⟨served, -, rfl⟩ := List.mem_map.1 hitem
    cases hn
  simp [toValue, Value.numerals, Value.fieldNumerals, hfolders] at hx

lemma yields_fields : ∀ field ∈ fields, Yields field.read (depthLimit - 1) (Keeps Storable) := by
  simp only [fields, List.forall_mem_cons]
  refine ⟨yields_text.field _ _ ?_, (PublicFolder.yields _).list.field _ _ ?_,
    yields_text.field _ _ ?_, yields_count.field _ _ ?_, nofun⟩
  · exact fun _ _ config h => h
  · exact fun _ _ config h => h
  · exact fun _ _ config h => h
  · exact fun timeout htimeout config _ => htimeout

lemma storable_standard : standard.Storable :=
  show 30 ≤ Number.countLimit by decide

lemma storable_of_ofJson {text : String} {config : Config} (h : ofJson text = .ok config) :
    config.Storable :=
  (yields_record yields_fields storable_standard).document h

lemma Storable.ofJson_toJson {config : Config} (h : config.Storable) :
    ofJson config.toJson = .ok config :=
  h.restores.document config.floatsReadBack

end Config

/-- **What is read survives being saved.** A skeleton that any text holds is what its own JSON text
holds, its floating-point numbers being read as they are written; and so is a configuration. -/
theorem ofJson_toJson_of_ofJson :
    (∀ (text : String) (skeleton : Skeleton), Skeleton.ofJson text = .ok skeleton →
      skeleton.toValue.FloatsReadBack → Skeleton.ofJson skeleton.toJson = .ok skeleton) ∧
    ∀ (text : String) (config : Config), Config.ofJson text = .ok config →
      Config.ofJson config.toJson = .ok config :=
  ⟨fun _ _ h hfloats => (Skeleton.storable_of_ofJson h).ofJson_toJson hfloats,
    fun _ _ h => (Config.storable_of_ofJson h).ofJson_toJson⟩

def Value.wholeNumbers (value : Value) : List (Option Int) :=
  value.numerals.map fun n =>
    match n with
    | .int n => some n
    | .float _ => none

lemma Value.floatsReadBack_of_whole {value : Value} (h : none ∉ value.wholeNumbers) :
    value.FloatsReadBack :=
  fun _ hx => absurd (List.mem_map.2 ⟨_, hx, rfl⟩) h

/-- A skeleton in an array, with a template that is a name, an object that has a key twice and a
finish that has a key too many. -/
def Skeleton.shorthand : String :=
  "[\"invoice\", \x7b\"b\": 1, \"a\": [2], \"b\": 3\x7d, null, " ++
    "\x7b\"zoom\": [], \"wrap\": true\x7d, false, null]"

/-- A configuration with a public folder in an array, most of its fields missing. -/
def Config.shorthand : String :=
  "\x7b\"public_dirs\": [[\"img\", \"i\"]], \"http_timeout_secs\": 5\x7d"

theorem ofJson_toJson_of_ofJson_shorthand :
    (∃ skeleton, Skeleton.ofJson Skeleton.shorthand = .ok skeleton ∧
      skeleton.toValue.wholeNumbers = [some 3, some 2] ∧
      Skeleton.ofJson skeleton.toJson = .ok skeleton) ∧
    ∃ config, Config.ofJson Config.shorthand = .ok config ∧ config.fetchTimeout = 5 ∧
      Config.ofJson config.toJson = .ok config := by
  obtain ⟨skeleton, hskeleton, hnumbers⟩ := exists_ok
    (f := fun s : Skeleton => s.toValue.wholeNumbers) (b := [some 3, some 2])
    (show (Skeleton.ofJson Skeleton.shorthand).toOption.map _ = _ by decide +kernel)
  obtain ⟨config, hconfig, htimeout⟩ := exists_ok (f := Config.fetchTimeout) (b := 5)
    (show (Config.ofJson Config.shorthand).toOption.map _ = _ by decide +kernel)
  exact ⟨⟨skeleton, hskeleton, hnumbers, ofJson_toJson_of_ofJson.1 _ _ hskeleton
      (Value.floatsReadBack_of_whole (by simp [hnumbers]))⟩,
    config, hconfig, htimeout, ofJson_toJson_of_ofJson.2 _ _ hconfig⟩

end Pressroom
