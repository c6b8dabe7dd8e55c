import Mathlib.Data.List.Induction
import Mathlib.Tactic.Lemma
import Pressroom.Command
import Pressroom.Proofs.Outcome

/-!
What argument lists ask for. A list of arguments is plain arguments and options, each option with
the argument behind it as its value, whatever that looks like. Main statements: a list asks for
something that can be done if it can be taken apart so, with one or two plain arguments, and then it
asks for what these and the last value of each option say; and else there is one reason why not,
which is told by where such parts end.
-/

namespace Pressroom.Command

/-! ### Parts of an argument list -/

inductive Item where
  | plain (argument : String)
  | templates (option value : String)
  | config (option value : String)

namespace Item

/-- A plain argument starts with no dash, and an option has one of its two spellings. -/
def Fits : Item → Prop
  | plain argument => argument.toList.head? ≠ some '-'
  | templates option _ => option = "--templates" ∨ option = "-t"
  | config option _ => option = "--config" ∨ option = "-c"

instance (item : Item) : Decidable item.Fits :=
  match item with
  | plain argument => inferInstanceAs (Decidable (argument.toList.head? ≠ some '-'))
  | templates option _ => inferInstanceAs (Decidable (option = "--templates" ∨ option = "-t"))
  | config option _ => inferInstanceAs (Decidable (option = "--config" ∨ option = "-c"))

def written : Item → List String
  | plain argument => [argument]
  | templates option value | config option value => [option, value]

def plain? : Item → Option String
  | plain argument => some argument
  | _ => none

def templates? : Item → Option String
  | templates _ value => some value
  | _ => none

def config? : Item → Option String
  | config _ value => some value
  | _ => none

end Item

def written (items : List Item) : List String :=
  items.flatMap Item.written

def plains (items : List Item) : List String :=
  items.filterMap Item.plain?

def lastTemplates (items : List Item) : Option String :=
  (items.filterMap Item.templates?).getLast?

def lastConfig (items : List Item) : Option String :=
  (items.filterMap Item.config?).getLast?

/-- What is asked for in these words. -/
def Invocation.ofWords (skeleton : String) (output templates config : Option String) :
    Invocation where
  skeleton := .ofString skeleton
  output := (output.map Path.ofString).getD
    ((Path.ofString skeleton).withExtension "html".toList)
  templates := templates.map Path.ofString
  config := config.map Path.ofString

/-- Arguments that can be followed, and what they ask for. -/
inductive Asks : List String → Invocation → Prop where
  | ofItems (items : List Item) {skeleton : String} (output : Option String)
      (hfits : ∀ item ∈ items, item.Fits) (hplains : plains items = skeleton :: output.toList) :
      Asks (written items)
        (.ofWords skeleton output (lastTemplates items) (lastConfig items))

/-- Why no part of an argument list starts at a place behind so many plain arguments. -/
inductive Stuck (count : ℕ) : List String → ArgumentFault → Prop where
  | help {argument : String} {rest : List String} (h : argument = "--help" ∨ argument = "-h") :
      Stuck count (argument :: rest) .help
  | templates {option : String} (h : option = "--templates" ∨ option = "-t") :
      Stuck count [option] .templatesMissing
  | config {option : String} (h : option = "--config" ∨ option = "-c") :
      Stuck count [option] .configMissing
  | flag {argument : String} {rest : List String} (hdash : argument.toList.head? = some '-')
      (hother : argument ∉ ["--templates", "-t", "--config", "-c", "--help", "-h"]) :
      Stuck count (argument :: rest) (.unknownFlag argument)
  | surplus {argument : String} {rest : List String} (hdash : argument.toList.head? ≠ some '-')
      (hcount : 2 ≤ count) : Stuck count (argument :: rest) (.unexpected argument)

/-- Arguments that cannot be followed, or ask for help: reading is stuck somewhere, or there is no
plain argument. -/
inductive Refused : List String → ArgumentFault → Prop where
  | stuck (items : List Item) (rest : List String) {fault : ArgumentFault}
      (hfits : ∀ item ∈ items, item.Fits) (hcount : (plains items).length ≤ 2)
      (hstuck : Stuck (plains items).length rest fault) : Refused (written items ++ rest) fault
  | noSkeleton {items : List Item} (hfits : ∀ item ∈ items, item.Fits)
      (hplains : plains items = []) : Refused (written items) .noSkeleton

/-! ### Reading one argument after the other -/

def Arguments.add (arguments : Arguments) : Item → Arguments
  | .plain argument => { arguments with positional := arguments.positional ++ [argument] }
  | .templates _ value => { arguments with templates := some value }
  | .config _ value => { arguments with config := some value }

lemma length_add_plain (arguments : Arguments) (argument : String) :
    (arguments.add (.plain argument)).positional.length = arguments.positional.length + 1 :=
  List.length_append

lemma foldl_add_empty (items : List Item) :
    items.foldl Arguments.add .empty =
      ⟨plains items, lastTemplates items, lastConfig items⟩ := by
  induction items using List.reverseRecOn with
  | nil => rfl
  | append_singleton items item ih =>
    rw [List.foldl_append, ih]
    cases item <;> simp [Arguments.add, plains, lastTemplates, lastConfig, Item.plain?,
      Item.templates?, Item.config?]

section Read

variable {arguments : Arguments} {argument : String} {rest : List String}

lemma isTemplatesOption_iff :
    isTemplatesOption argument = true ↔ argument = "--templates" ∨ argument = "-t" := by
  simp [isTemplatesOption]

lemma isConfigOption_iff :
    isConfigOption argument = true ↔ argument = "--config" ∨ argument = "-c" := by
  simp [isConfigOption]

lemma isHelpOption_iff :
    isHelpOption argument = true ↔ argument = "--help" ∨ argument = "-h" := by
  simp [isHelpOption]

lemma read_cons (arguments : Arguments) (htemplates : isTemplatesOption argument = false)
    (hconfig : isConfigOption argument = false) (rest : List String) :
    arguments.read (argument :: rest) =
      arguments.readPlain argument >>= fun arguments => arguments.read rest := by
  cases rest with
  | nil =>
    rw [Arguments.read, htemplates, hconfig]
    cases arguments.readPlain argument <;> rfl
  | cons following rest =>
    rw [Arguments.read, htemplates, hconfig]
    cases arguments.readPlain argument <;> rfl

lemma no_option_of_plain (h : argument.toList.head? ≠ some '-') :
    isTemplatesOption argument = false ∧ isConfigOption argument = false ∧
      isHelpOption argument = false := by
  refine ⟨Bool.eq_false_iff.2 fun ho => h ?_, Bool.eq_false_iff.2 fun ho => h ?_,
    Bool.eq_false_iff.2 fun ho => h ?_⟩
  · rcases isTemplatesOption_iff.1 ho with rfl | rfl <;> rfl
  · rcases isConfigOption_iff.1 ho with rfl | rfl <;> rfl
  · rcases isHelpOption_iff.1 ho with rfl | rfl <;> rfl

lemma read_plain (h : argument.toList.head? ≠ some '-') (rest : List String) :
    arguments.read (argument :: rest) =
      if arguments.positional.length < 2 then (arguments.add (.plain argument)).read rest
      else .error (.unexpected argument) := by
  obtain ⟨htemplates, hconfig, hhelp⟩ := no_option_of_plain h
  rw [read_cons arguments htemplates hconfig, Arguments.readPlain, hhelp, if_neg Bool.false_ne_true,
    if_neg h]
  split <;> rfl

lemma read_templates {option : String} (h : option = "--templates" ∨ option = "-t")
    (value : String) (rest : List String) :
    arguments.read (option :: value :: rest) =
      (arguments.add (.templates option value)).read rest := by
  rw [Arguments.read, if_pos (isTemplatesOption_iff.2 h)]
  rfl

lemma not_isTemplatesOption {option : String} (h : option = "--config" ∨ option = "-c") :
    isTemplatesOption option = false := by
  rcases h with rfl | rfl <;> decide

lemma read_config {option : String} (h : option = "--config" ∨ option = "-c")
    (value : String) (rest : List String) :
    arguments.read (option :: value :: rest) =
      (arguments.add (.config option value)).read rest := by
  rw [Arguments.read, not_isTemplatesOption h, if_neg Bool.false_ne_true,
    if_pos (isConfigOption_iff.2 h)]
  rfl

lemma read_stuck {fault : ArgumentFault} (h : Stuck arguments.positional.length rest fault) :
    arguments.read rest = .error fault := by
  cases h with
  | @help argument rest h =>
    have hoption : isTemplatesOption argument = false ∧ isConfigOption argument = false := by
      rcases h with rfl | rfl <;> decide
    rw [read_cons arguments hoption.1 hoption.2, Arguments.readPlain, if_pos (isHelpOption_iff.2 h)]
    rfl
  | templates h => rw [Arguments.read, if_pos (isTemplatesOption_iff.2 h)]
  | config h =>
    rw [Arguments.read, not_isTemplatesOption h, if_neg Bool.false_ne_true,
      if_pos (isConfigOption_iff.2 h)]
  | @flag argument rest hdash hother =>
    simp only [List.mem_cons, List.not_mem_nil, or_false, not_or] at hother
    obtain ⟨h1, h2, h3, h4, h5, h6⟩ := hother
    rw [read_cons arguments (by simp [isTemplatesOption, h1, h2]) (by simp [isConfigOption, h3, h4]),
      Arguments.readPlain, if_neg (by simp [isHelpOption, h5, h6]), if_pos hdash]
    rfl
  | surplus hdash hcount => rw [read_plain hdash, if_neg (by omega)]

lemma length_le_foldl_add (items : List Item) (arguments : Arguments) :
    arguments.positional.length ≤ (items.foldl Arguments.add arguments).positional.length := by
  induction items generalizing arguments with
  | nil => exact Nat.le_refl _
  | cons item items ih =>
    refine Nat.le_trans ?_ (ih (arguments.add item))
    cases item <;> simp [Arguments.add]

lemma read_written (arguments : Arguments) {items : List Item} (hfits : ∀ item ∈ items, item.Fits)
    (hcount : (items.foldl Arguments.add arguments).positional.length ≤ 2) (rest : List String) :
    arguments.read (written items ++ rest) = (items.foldl Arguments.add arguments).read rest := by
  induction items generalizing arguments with
  | nil => rfl
  | cons item items ih =>
    obtain ⟨hitem, hfits⟩ := List.forall_mem_cons.1 hfits
    have hrest := ih _ hfits hcount
    rw [written, List.flatMap_cons, List.append_assoc]
    cases item with
    | plain argument =>
      have hroom := Nat.le_trans (length_le_foldl_add items _) hcount
      rw [length_add_plain] at hroom
      exact (read_plain hitem _).trans ((if_pos hroom).trans hrest)
    | templates option value => exact (read_templates hitem value _).trans hrest
    | config option value => exact (read_config hitem value _).trans hrest

/-- Arguments taken apart as far as that goes. -/
def Apart (arguments : Arguments) (args : List String) : Prop :=
  ∃ items rest, (∀ item ∈ items, item.Fits) ∧ args = written items ++ rest ∧
    (items.foldl Arguments.add arguments).positional.length ≤ 2 ∧
    (rest = [] ∨
      ∃ fault, Stuck (items.foldl Arguments.add arguments).positional.length rest fault)

lemma Apart.cons (item : Item) (hitem : item.Fits) (h : Apart (arguments.add item) rest) :
    Apart arguments (item.written ++ rest) := by
  obtain ⟨items, rest, hfits, rfl, hcount, hrest⟩ := h
  refine ⟨item :: items, rest, List.forall_mem_cons.2 ⟨hitem, hfits⟩, ?_, hcount, hrest⟩
  rw [written, written, List.flatMap_cons, List.append_assoc]

lemma apart_of_stuck {fault : ArgumentFault} (hcount : arguments.positional.length ≤ 2)
    (h : Stuck arguments.positional.length rest fault) : Apart arguments rest :=
  ⟨[], rest, nofun, rfl, hcount, .inr ⟨fault, h⟩⟩

lemma apart (arguments : Arguments) (args : List String) (hcount : arguments.positional.length ≤ 2) :
    Apart arguments args := by
  -- by induction on the length, since an option goes with the argument behind it
  induction hlength : args.length using Nat.strongRecOn generalizing args arguments with
  | _ n ih =>
  subst hlength
  cases args with
  | nil => exact ⟨[], [], nofun, rfl, hcount, .inl rfl⟩
  | cons argument args =>
    by_cases htemplates : argument = "--templates" ∨ argument = "-t"
    · cases args with
      | nil => exact apart_of_stuck hcount (.templates htemplates)
      | cons value args =>
        exact Apart.cons (.templates argument value) htemplates
          (ih args.length (by simp only [List.length_cons]; omega) _ args hcount rfl)
    by_cases hconfig : argument = "--config" ∨ argument = "-c"
    · cases args with
      | nil => exact apart_of_stuck hcount (.config hconfig)
      | cons value args =>
        exact Apart.cons (.config argument value) hconfig
          (ih args.length (by simp only [List.length_cons]; omega) _ args hcount rfl)
    by_cases hhelp : argument = "--help" ∨ argument = "-h"
    · exact apart_of_stuck hcount (.help hhelp)
    by_cases hdash : argument.toList.head? = some '-'
    · refine apart_of_stuck hcount (.flag hdash ?_)
      simp only [List.mem_cons, List.not_mem_nil, or_false]
      tauto
    · by_cases hroom : arguments.positional.length < 2
      · refine Apart.cons (.plain argument) hdash (ih args.length (by simp) _ args ?_ rfl)
        rw [length_add_plain]
        exact hroom
      · exact apart_of_stuck hcount (.surplus hdash (by omega))

end Read

/-! ### What is asked for -/

variable {arguments : List String} {invocation : Invocation} {fault : ArgumentFault}

lemma Asks.ofArguments (h : Asks arguments invocation) :
    Invocation.ofArguments arguments = .ok invocation := by
  obtain @⟨items, skeleton, output, hfits, hplains⟩ := h
  have hcount : (items.foldl Arguments.add .empty).positional.length ≤ 2 := by
    rw [foldl_add_empty, hplains]
    cases output <;> simp
  have hread := read_written .empty hfits hcount []
  rw [List.append_nil, foldl_add_empty] at hread
  rw [Invocation.ofArguments, hread, hplains]
  cases output <;> rfl

lemma Refused.ofArguments (h : Refused arguments fault) :
    Invocation.ofArguments arguments = .error fault := by
  cases h with
  | @stuck items rest fault hfits hcount hstuck =>
    have hread := read_written .empty hfits
      (by rw [foldl_add_empty]; exact hcount) rest
    rw [foldl_add_empty] at hread
    rw [Invocation.ofArguments, hread, read_stuck hstuck]
    rfl
  | @noSkeleton items hfits hplains =>
    have hread := read_written .empty hfits
      (by rw [foldl_add_empty, hplains]; simp) []
    rw [List.append_nil, foldl_add_empty, hplains] at hread
    rw [Invocation.ofArguments, hread]
    rfl

/-- Every list of arguments can be followed, or there is a reason why not. -/
theorem asks_or_refused (arguments : List String) :
    (∃ invocation, Asks arguments invocation) ∨ ∃ fault, Refused arguments fault := by
  obtain ⟨items, rest, hfits, rfl, hcount, hrest⟩ := apart .empty arguments (by decide)
  rw [foldl_add_empty] at hcount hrest
  rcases hrest with rfl | ⟨fault, hstuck⟩
  · rw [List.append_nil]
    rcases hplains : plains items with _ | ⟨skeleton, _ | ⟨output, _ | ⟨surplus, more⟩⟩⟩
    · exact .inr ⟨_, .noSkeleton hfits hplains⟩
    · exact .inl ⟨_, .ofItems items none hfits hplains⟩
    · exact .inl ⟨_, .ofItems items (some output) hfits hplains⟩
    · rw [hplains] at hcount
      simp at hcount
  · exact .inr ⟨fault, .stuck items rest hfits hcount hstuck⟩

theorem ofArguments_eq_ok_iff :
    Invocation.ofArguments arguments = .ok invocation ↔ Asks arguments invocation := by
  refine ⟨fun h => ?_, Asks.ofArguments⟩
  rcases asks_or_refused arguments with ⟨other, hasks⟩ | ⟨fault, hrefused⟩
  · cases h.symm.trans hasks.ofArguments
    exact hasks
  · cases h.symm.trans hrefused.ofArguments

theorem ofArguments_eq_error_iff :
    Invocation.ofArguments arguments = .error fault ↔ Refused arguments fault := by
  refine ⟨fun h => ?_, Refused.ofArguments⟩
  rcases asks_or_refused arguments with ⟨other, hasks⟩ | ⟨other, hrefused⟩
  · cases h.symm.trans hasks.ofArguments
  · cases h.symm.trans hrefused.ofArguments
    exact hrefused

end Pressroom.Command
