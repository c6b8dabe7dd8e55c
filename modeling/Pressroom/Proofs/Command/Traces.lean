import Pressroom.Proofs.Command.Arguments

/-!
Runs of the command that come to no document. Whatever can stand in the way of one is found before
anything is written, and the files are as they were. Main statement: a run ends because of its
arguments, its configuration, its skeleton or its template, in this order and without a trace, or
there is a document; and arguments that can be followed come to the same run wherever their options
stand.
-/

namespace Pressroom

/-! ### What is read of a tree -/

namespace FileTree

def text (tree : FileTree) (path : Path) : Except FileFault String :=
  Id.run (FileReader.readText tree.reader path)

def config (tree : FileTree) (path : Path) : Except ConfigFault Config :=
  Id.run (Config.load tree.reader path)

def template (tree : FileTree) (base : Path) (name : String) : Except TemplateFault Template :=
  Id.run (Template.load tree.reader base name)

lemma run_readText (tree : FileTree) (path : Path) :
    (disk.toFileReader.readText path).run tree = (tree.text path, tree) := by
  have hdisk : (disk.toFileReader.read path).run tree = (pure (tree.read path, tree) : Id _) := rfl
  have hreader : tree.reader.read path = (pure (tree.read path) : Id _) := rfl
  rw [text, FileReader.readText, FileReader.readText, StateT.run_bind, hdisk, hreader, pure_bind,
    pure_bind]
  cases tree.read path with
  | error fault => rfl
  | ok bytes =>
    dsimp only
    cases Text.decode? bytes <;> rfl

lemma reader_readText (tree : FileTree) (path : Path) :
    tree.reader.readText path = (pure (tree.text path) : Id _) := rfl

lemma run_bind_readText {β : Type} (tree : FileTree) (path : Path)
    (next : Except FileFault String → StateM FileTree β) :
    (disk.toFileReader.readText path >>= next).run tree = (next (tree.text path)).run tree := by
  rw [StateT.run_bind, run_readText]
  rfl

lemma config_eq (tree : FileTree) (path : Path) :
    tree.config path = match tree.text path with
      | .error fault => .error (.unreadable path fault)
      | .ok text => (Config.ofJson text).mapError .invalid := by
  rw [config, Config.load, reader_readText, pure_bind]
  cases tree.text path <;> rfl

lemma run_loadConfigFile (tree : FileTree) (path : Path) :
    (Config.load disk.toFileReader path).run tree = (tree.config path, tree) := by
  rw [Config.load, run_bind_readText, config_eq]
  cases tree.text path <;> rfl

lemma run_loadTemplate (tree : FileTree) (base : Path) (name : String) :
    (Template.load disk.toFileReader base name).run tree = (tree.template base name, tree) := by
  rw [template, Template.load, Template.load]
  by_cases hname : (Text.trim name.toList).isEmpty = true
  · rw [if_pos hname, if_pos hname]
    rfl
  · have hdisk : (disk.toFileReader.isFolder (base / Path.ofString name)).run tree =
        (pure (tree.isFolder (base / Path.ofString name), tree) : Id _) := rfl
    have hreader : tree.reader.isFolder (base / Path.ofString name) =
        (pure (tree.isFolder (base / Path.ofString name)) : Id _) := rfl
    rw [if_neg hname, if_neg hname]
    dsimp only
    rw [StateT.run_bind, hdisk, hreader, pure_bind, pure_bind]
    cases tree.isFolder (base / Path.ofString name) with
    | error fault => rfl
    | ok isFolder =>
      dsimp only
      rw [run_bind_readText, reader_readText, pure_bind]
      cases tree.text (Template.location (base / Path.ofString name) isFolder).2 <;> rfl

end FileTree

namespace Command

/-! ### What stands in the way of a document -/

/-- The configuration of a run: that of its file, or the one for none, with the folder of templates
that the arguments name. -/
inductive Configured (tree : FileTree) (invocation : Invocation) : Config → Prop where
  | standard (hfile : invocation.config = none) :
      Configured tree invocation
        { Config.standard with
          templates := invocation.templates.getD Config.standard.templates }
  | file {path : Path} {config : Config} (hfile : invocation.config = some path)
      (hload : tree.config path = .ok config) :
      Configured tree invocation
        { config with templates := invocation.templates.getD config.templates }

/-- What stands in the way of a document: a configuration or a skeleton that cannot be read or is
invalid, or a template that cannot be found; each if nothing in front of it does. -/
inductive Hinders (tree : FileTree) (invocation : Invocation) : Obstacle → Prop where
  | config {path : Path} {fault : ConfigFault} (hfile : invocation.config = some path)
      (hload : tree.config path = .error fault) : Hinders tree invocation (.config fault)
  | unreadable {config : Config} {fault : FileFault} (hconfig : Configured tree invocation config)
      (hread : tree.text invocation.skeleton = .error fault) :
      Hinders tree invocation (.unreadable invocation.skeleton fault)
  | invalid {config : Config} {text : String} {fault : DataFault}
      (hconfig : Configured tree invocation config)
      (hread : tree.text invocation.skeleton = .ok text)
      (hskeleton : Skeleton.ofJson text = .error fault) :
      Hinders tree invocation (.invalid invocation.skeleton fault)
  | template {config : Config} {text : String} {skeleton : Skeleton} {fault : TemplateFault}
      (hconfig : Configured tree invocation config)
      (hread : tree.text invocation.skeleton = .ok text)
      (hskeleton : Skeleton.ofJson text = .ok skeleton)
      (htemplate : tree.template config.templates skeleton.template.name = .error fault) :
      Hinders tree invocation (.document invocation.skeleton (.template fault))

section Loading

variable {tree : FileTree} {invocation : Invocation} {fetch : Inline.Fetcher (StateM FileTree)}
  {guess : Inline.MediaGuess}

lemma Configured.run_loadConfig {config : Config} (h : Configured tree invocation config) :
    (loadConfig FileTree.disk.toFileReader invocation).run tree = (.ok config, tree) := by
  cases h with
  | standard hfile =>
    rw [loadConfig, hfile]
    cases invocation.templates <;> rfl
  | file hfile hload =>
    rw [loadConfig, hfile]
    dsimp only
    rw [StateT.run_bind, tree.run_loadConfigFile, hload]
    cases invocation.templates <;> rfl

lemma configured_or_hinders (tree : FileTree) (invocation : Invocation) :
    (∃ config, Configured tree invocation config) ∨
      ∃ fault, Hinders tree invocation (.config fault) := by
  cases hfile : invocation.config with
  | none => exact .inl ⟨_, .standard hfile⟩
  | some path =>
    cases hload : tree.config path with
    | error fault => exact .inr ⟨fault, .config hfile hload⟩
    | ok config => exact .inl ⟨_, .file hfile hload⟩

lemma run_loadDocument_of_configured {config : Config} (h : Configured tree invocation config) :
    (loadDocument FileTree.disk.toFileReader fetch guess invocation).run tree =
      (match tree.text invocation.skeleton with
        | .error fault => return .error (.unreadable invocation.skeleton fault)
        | .ok text =>
          match Skeleton.ofJson text with
          | .error fault => return .error (.invalid invocation.skeleton fault)
          | .ok skeleton => do
            let engine : Engine (StateM FileTree) :=
              { config, files := FileTree.disk.toFileReader, fetch, guess, evaluator := .standard }
            match (← engine.render skeleton none).value with
            | .error fault => return .error (.document invocation.skeleton fault)
            | .ok document => return .ok (skeleton, document) :
        StateM FileTree (Except Obstacle (Skeleton × Document))).run tree := by
  rw [loadDocument, StateT.run_bind, h.run_loadConfig]
  exact tree.run_bind_readText invocation.skeleton _

lemma run_render (engine : Engine (StateM FileTree))
    (hfiles : engine.files = FileTree.disk.toFileReader) (skeleton : Skeleton) :
    (∀ fault, tree.template engine.config.templates skeleton.template.name = .error fault →
      (engine.render skeleton none).run tree = (.quiet (.error (.template fault)), tree)) ∧
    ∀ template, tree.template engine.config.templates skeleton.template.name = .ok template →
      ∃ document records after,
        (engine.render skeleton none).run tree = (⟨.ok document, records⟩, after) := by
  rw [Engine.render, StateT.run_bind, hfiles, tree.run_loadTemplate]
  constructor
  · intro fault h
    rw [h]
    rfl
  · intro template h
    rw [h]
    exact ⟨_, _, _, rfl⟩

lemma Hinders.run_loadDocument {obstacle : Obstacle} (h : Hinders tree invocation obstacle) :
    (loadDocument FileTree.disk.toFileReader fetch guess invocation).run tree =
      (.error obstacle, tree) := by
  cases h with
  | @config path fault hfile hload =>
    have hrun : (loadConfig FileTree.disk.toFileReader invocation).run tree =
        (.error fault, tree) := by
      rw [loadConfig, hfile]
      dsimp only
      rw [StateT.run_bind, tree.run_loadConfigFile, hload]
      rfl
    rw [loadDocument, StateT.run_bind, hrun]
    rfl
  | unreadable hconfig hread =>
    rw [run_loadDocument_of_configured hconfig, hread]
    rfl
  | invalid hconfig hread hskeleton =>
    rw [run_loadDocument_of_configured hconfig, hread]
    dsimp only
    rw [hskeleton]
    rfl
  | @template config text skeleton fault hconfig hread hskeleton htemplate =>
    have hrender := (run_render ⟨config, FileTree.disk.toFileReader, fetch, guess, .standard⟩ rfl
      skeleton).1 fault htemplate
    rw [run_loadDocument_of_configured hconfig, hread]
    dsimp only
    rw [hskeleton]
    dsimp only
    rw [StateT.run_bind, hrender]
    rfl

lemma hinders_or_document (fetch : Inline.Fetcher (StateM FileTree)) (guess : Inline.MediaGuess)
    (tree : FileTree) (invocation : Invocation) :
    (∃ obstacle, Hinders tree invocation obstacle) ∨
      ∃ skeleton document after,
        (loadDocument FileTree.disk.toFileReader fetch guess invocation).run tree =
          (.ok (skeleton, document), after) := by
  rcases configured_or_hinders tree invocation with ⟨config, hconfig⟩ | ⟨fault, hhinders⟩
  · cases hread : tree.text invocation.skeleton with
    | error fault => exact .inl ⟨_, .unreadable hconfig hread⟩
    | ok text =>
      cases hskeleton : Skeleton.ofJson text with
      | error fault => exact .inl ⟨_, .invalid hconfig hread hskeleton⟩
      | ok skeleton =>
        cases htemplate : tree.template config.templates skeleton.template.name with
        | error fault => exact .inl ⟨_, .template hconfig hread hskeleton htemplate⟩
        | ok template =>
          obtain ⟨document, records, after, hrender⟩ :=
            (run_render ⟨config, FileTree.disk.toFileReader, fetch, guess, .standard⟩ rfl
              skeleton).2 template htemplate
          refine .inr ⟨skeleton, document, after, ?_⟩
          rw [run_loadDocument_of_configured hconfig, hread]
          dsimp only
          rw [hskeleton]
          dsimp only
          rw [StateT.run_bind, hrender]
          rfl
  · exact .inl ⟨_, hhinders⟩

end Loading

/-! ### Runs -/

lemma run_of_refused {m : Type → Type} [Monad m] {arguments : List String} {fault : ArgumentFault}
    (h : Refused arguments fault) (disk : Disk m) (fetch : Inline.Fetcher m)
    (guess : Inline.MediaGuess) (program : String) :
    run disk fetch guess program arguments = pure ⟨fault.exitCode, fault.lines program⟩ := by
  rw [run, h.ofArguments]

lemma run_of_asks {m : Type → Type} [Monad m] {arguments : List String} {invocation : Invocation}
    (h : Asks arguments invocation) (disk : Disk m) (fetch : Inline.Fetcher m)
    (guess : Inline.MediaGuess) (program : String) :
    run disk fetch guess program arguments =
      loadDocument disk.toFileReader fetch guess invocation >>= fun loaded =>
        match loaded with
        | .error obstacle => pure (.failure obstacle.line)
        | .ok (skeleton, document) => writeDocument disk invocation.output skeleton document := by
  have hasked := h.ofArguments
  unfold run
  generalize Invocation.ofArguments arguments = asked at hasked ⊢
  subst hasked
  rfl

lemma exists_asks {items items' : List Item} (hfits : ∀ item ∈ items, item.Fits)
    (hfits' : ∀ item ∈ items', item.Fits) (hcount : (plains items).length ∈ [1, 2])
    (hplains : plains items' = plains items)
    (htemplates : lastTemplates items' = lastTemplates items)
    (hconfig : lastConfig items' = lastConfig items) :
    ∃ invocation, Asks (written items) invocation ∧ Asks (written items') invocation := by
  obtain ⟨skeleton, output, hwords⟩ :
      ∃ skeleton, ∃ output : Option String, plains items = skeleton :: output.toList := by
    rcases hwords : plains items with _ | ⟨skeleton, _ | ⟨output, _ | ⟨surplus, more⟩⟩⟩
    · simp [hwords] at hcount
    · exact ⟨skeleton, none, rfl⟩
    · exact ⟨skeleton, some output, rfl⟩
    · simp [hwords] at hcount
  refine ⟨_, .ofItems items output hfits hwords, ?_⟩
  rw [← htemplates, ← hconfig]
  exact .ofItems items' output hfits' (hplains.trans hwords)

/-- **Nothing is left of a run that comes to no document.** Where arguments are refused or something
stands in the way of a document, the run ends with what there is to say about that, and the files
are as they were; and else there is a document. Arguments that can be followed come to the same run,
on any disk, if their plain arguments are the same in their order and so are the last values of
their options. -/
theorem run_without_document :
    (∀ (fetch : Inline.Fetcher (StateM FileTree)) (guess : Inline.MediaGuess) (program : String)
      (arguments : List String) (tree : FileTree),
      (∀ fault, Refused arguments fault →
        (run FileTree.disk fetch guess program arguments).run tree =
          (⟨fault.exitCode, fault.lines program⟩, tree)) ∧
      (∀ invocation obstacle, Asks arguments invocation → Hinders tree invocation obstacle →
        (run FileTree.disk fetch guess program arguments).run tree =
          (.failure obstacle.line, tree)) ∧
      ((∃ fault, Refused arguments fault) ∨
        ∃ invocation, Asks arguments invocation ∧ ((∃ obstacle, Hinders tree invocation obstacle) ∨
          ∃ skeleton document after,
            (loadDocument FileTree.disk.toFileReader fetch guess invocation).run tree =
              (.ok (skeleton, document), after)))) ∧
    ∀ items items' : List Item, (∀ item ∈ items, item.Fits) → (∀ item ∈ items', item.Fits) →
      (plains items).length ∈ [1, 2] → plains items' = plains items →
      lastTemplates items' = lastTemplates items → lastConfig items' = lastConfig items →
      ∀ (m : Type → Type) [Monad m] (disk : Disk m) (fetch : Inline.Fetcher m)
        (guess : Inline.MediaGuess) (program : String),
        run disk fetch guess program (written items') =
          run disk fetch guess program (written items) := by
  constructor
  · intro fetch guess program arguments tree
    refine ⟨fun fault h => ?_, fun invocation obstacle h hhinders => ?_, ?_⟩
    · rw [run_of_refused h]
      rfl
    · rw [run_of_asks h, StateT.run_bind, hhinders.run_loadDocument]
      rfl
    · rcases asks_or_refused arguments with ⟨invocation, h⟩ | h
      · exact .inr ⟨invocation, h, hinders_or_document fetch guess tree invocation⟩
      · exact .inl h
  · intro items items' hfits hfits' hcount hplains htemplates hconfig m _ disk fetch guess program
    obtain ⟨invocation, h, h'⟩ := exists_asks hfits hfits' hcount hplains htemplates hconfig
    rw [run_of_asks h, run_of_asks h']

/-- A skeleton whose template is not there. -/
def strayTree : FileTree :=
  .ofContents [(.ofString "s.json", some "\x7b\"template\": \"ghost\"\x7d".toUTF8)]

/-- Options before, between and behind the plain arguments. -/
def scattered : List Item :=
  [.templates "-t" "--help", .plain "s.json", .config "-c" "a", .plain "o.html",
    .templates "--templates" "t"]

/-- The same options in another order. -/
def gathered : List Item :=
  [.plain "s.json", .plain "o.html", .config "--config" "a", .templates "-t" "t"]

theorem run_without_document_stray :
    (run FileTree.disk (fun url => pure (.error (.failed url))) .common "forge"
        ["s.json", "-t"]).run strayTree = (⟨1, ["Error: --templates needs a directory."]⟩, strayTree) ∧
    (run FileTree.disk (fun url => pure (.error (.failed url))) .common "forge"
        ["-t", "t", "s.json"]).run strayTree =
      (.failure ("Error rendering 's.json': template `ghost` is not resolvable at t/ghost: " ++
        "No such file or directory (os error 2)"), strayTree) ∧
    (run FileTree.disk (fun url => pure (.error (.failed url))) .common "forge"
        (written gathered)).run strayTree =
      (run FileTree.disk (fun url => pure (.error (.failed url))) .common "forge"
        (written scattered)).run strayTree := by
  have hrefused : Refused ["s.json", "-t"] .templatesMissing :=
    .stuck [.plain "s.json"] ["-t"] (by decide) (by decide)
      (.templates (.inr rfl))
  have hasks : Asks ["-t", "t", "s.json"] (.ofWords "s.json" none (some "t") none) :=
    .ofItems [.templates "-t" "t", .plain "s.json"] none (by decide) rfl
  have hread : strayTree.text (.ofString "s.json") = .ok "\x7b\"template\": \"ghost\"\x7d" := by
    decide +kernel
  obtain ⟨skeleton, hskeleton, hname⟩ := exists_ok (f := fun s : Skeleton => s.template.name)
    (b := "ghost") (show (Skeleton.ofJson "\x7b\"template\": \"ghost\"\x7d").toOption.map _ = _
      by decide +kernel)
  have htemplate : strayTree.template (.ofString "t") skeleton.template.name =
      .error (.notResolvable "ghost" (.ofString "t/ghost") .notFound) := by
    rw [hname]
    decide +kernel
  have hhinders : Hinders strayTree (.ofWords "s.json" none (some "t") none) _ :=
    .template (.standard rfl) hread hskeleton htemplate
  refine ⟨(run_without_document.1 _ _ _ _ _).1 _ hrefused, ?_, ?_⟩
  · have hrun := (run_without_document.1 (fun url => pure (.error (.failed url))) .common "forge"
      _ _).2.1 _ _ hasks hhinders
    exact hrun
  · rw [run_without_document.2 scattered gathered (by decide) (by decide) (by decide) rfl rfl rfl]

end Command

end Pressroom
