import Pressroom.Document.Archive

/-!
The command line: one skeleton file in, one page out, and whatever the skeleton wants kept.
Everything is read before anything is written.
-/

namespace Pressroom.Command

/-! ### Arguments -/

/-- What the arguments ask for. -/
structure Invocation where
  skeleton : Path
  output : Path
  templates : Option Path
  config : Option Path
  deriving Repr, DecidableEq

/-- What the arguments have named so far. -/
structure Arguments where
  /-- The arguments that are no options, at most two. -/
  positional : List String
  templates : Option String
  config : Option String
  deriving Repr, DecidableEq

def Arguments.empty : Arguments := ⟨[], none, none⟩

/-- Why the arguments ask for nothing that can be done. -/
inductive ArgumentFault where
  | help
  | templatesMissing
  | configMissing
  | unknownFlag (flag : String)
  | unexpected (argument : String)
  | noSkeleton
  deriving Repr, DecidableEq

def isTemplatesOption (argument : String) : Bool :=
  argument == "--templates" || argument == "-t"

def isConfigOption (argument : String) : Bool :=
  argument == "--config" || argument == "-c"

def isHelpOption (argument : String) : Bool :=
  argument == "--help" || argument == "-h"

def Arguments.readPlain (arguments : Arguments) (argument : String) :
    Except ArgumentFault Arguments :=
  if isHelpOption argument then .error .help
  else if argument.toList.head? = some '-' then .error (.unknownFlag argument)
  else if arguments.positional.length < 2 then
    .ok { arguments with positional := arguments.positional ++ [argument] }
  else .error (.unexpected argument)

/-- The arguments taken together, up to the first one that does not fit. -/
def Arguments.read (arguments : Arguments) : List String → Except ArgumentFault Arguments
  | [] => .ok arguments
  | [argument] =>
    if isTemplatesOption argument then .error .templatesMissing
    else if isConfigOption argument then .error .configMissing
    else arguments.readPlain argument
  | argument :: following :: rest =>
    if isTemplatesOption argument then
      { arguments with templates := some following }.read rest
    else if isConfigOption argument then { arguments with config := some following }.read rest
    else match arguments.readPlain argument with
      | .ok arguments => arguments.read (following :: rest)
      | .error fault => .error fault

/-- What the arguments ask for. Without an output, the page is put beside the skeleton. -/
def Arguments.invocation (arguments : Arguments) : Except ArgumentFault Invocation :=
  match arguments.positional with
  | [] => .error .noSkeleton
  | skeleton :: others =>
    let skeleton := Path.ofString skeleton
    .ok {
      skeleton
      output := (others.head?.map Path.ofString).getD (skeleton.withExtension "html".toList)
      templates := arguments.templates.map Path.ofString
      config := arguments.config.map Path.ofString }

def Invocation.ofArguments (arguments : List String) : Except ArgumentFault Invocation := do
  (← Arguments.empty.read arguments).invocation

/-! ### Texts -/

def usage (program : String) : List String :=
  ["forge – section-template report renderer (report-forge)",
    "",
    "Usage:",
    s!"  {program} <skeleton.json> [output.html] [--templates DIR] [--config FILE]",
    "",
    "Arguments:",
    "  <skeleton.json>  Document skeleton: template, content tree, style and save options",
    "  [output.html]    Output path  (default: same stem as skeleton with .html)",
    "",
    "Flags:",
    "  --templates, -t  Base directory for template names (overrides the config)",
    "  --config, -c     Engine config JSON file",
    "  --help           Print this message"]

def ArgumentFault.lines (program : String) : ArgumentFault → List String
  | help => usage program
  | templatesMissing => ["Error: --templates needs a directory."]
  | configMissing => ["Error: --config needs a file."]
  | unknownFlag flag => s!"Unknown flag: {flag}" :: usage program
  | unexpected argument => s!"Unexpected argument: {argument}" :: usage program
  | noSkeleton => "Error: no skeleton file specified." :: usage program

def ArgumentFault.exitCode : ArgumentFault → Nat
  | help => 0
  | _ => 1

/-- How a run ends: the exit code, and what was said. -/
structure Outcome where
  exitCode : Nat
  lines : List String
  deriving Repr, DecidableEq

def Outcome.failure (line : String) : Outcome := ⟨1, [line]⟩

/-! ### Runs -/

/-- Why there is no document to write. -/
inductive Obstacle where
  | config (fault : ConfigFault)
  | unreadable (path : Path) (fault : FileFault)
  | invalid (path : Path) (fault : DataFault)
  | document (path : Path) (fault : DocumentFault)
  deriving Repr, DecidableEq

def Obstacle.line : Obstacle → String
  | config fault => s!"Error: {fault.message}"
  | unreadable path fault => s!"Error reading '{path.toString}': {fault.message}"
  | invalid path fault => s!"Error parsing '{path.toString}': {fault.message}"
  | document path fault => s!"Error rendering '{path.toString}': {fault.message}"

variable {m : Type → Type} [Monad m]

def loadConfig (files : FileReader m) (invocation : Invocation) :
    m (Except ConfigFault Config) := do
  let loaded ← match invocation.config with
    | some path => Config.load files path
    | none => pure (.ok Config.standard)
  return loaded.map fun config =>
    match invocation.templates with
    | some templates => { config with templates }
    | none => config

def loadDocument (files : FileReader m) (fetch : Inline.Fetcher m) (guess : Inline.MediaGuess)
    (invocation : Invocation) : m (Except Obstacle (Skeleton × Document)) := do
  match ← loadConfig files invocation with
  | .error fault => return .error (.config fault)
  | .ok config =>
    match ← files.readText invocation.skeleton with
    | .error fault => return .error (.unreadable invocation.skeleton fault)
    | .ok text =>
      match Skeleton.ofJson text with
      | .error fault => return .error (.invalid invocation.skeleton fault)
      | .ok skeleton =>
        let engine : Engine m := { config, files, fetch, guess, evaluator := .standard }
        match (← engine.render skeleton none).value with
        | .error fault => return .error (.document invocation.skeleton fault)
        | .ok document => return .ok (skeleton, document)

/-- The folder that a page is put into, if its path names one. -/
def outputFolder? (output : Path) : Option Path :=
  output.parent?.filter fun folder => !folder.text.isEmpty

def writeDocument (disk : Disk m) (output : Path) (skeleton : Skeleton) (document : Document) :
    m Outcome := do
  let page := (String.ofList document.page).toUTF8
  let folder ← match outputFolder? output with
    | some folder => disk.makeFolders folder
    | none => pure (.ok ())
  match folder with
  | .error fault => return .failure s!"Error creating output directory: {fault.message}"
  | .ok () =>
    match ← disk.write output page with
    | .error fault => return .failure s!"Error writing '{output.toString}': {fault.message}"
    | .ok () =>
      let written := s!"Wrote '{output.toString}' ({page.size} bytes)"
      match ← document.save skeleton disk with
      | .error fault => return ⟨1, [written, s!"Error: {fault.message}"]⟩
      | .ok paths =>
        return ⟨0, written :: paths.map fun path => s!"Saved '{path.toString}'"⟩

def run (disk : Disk m) (fetch : Inline.Fetcher m) (guess : Inline.MediaGuess) (program : String)
    (arguments : List String) : m Outcome := do
  match Invocation.ofArguments arguments with
  | .error fault => return ⟨fault.exitCode, fault.lines program⟩
  | .ok invocation =>
    match ← loadDocument disk.toFileReader fetch guess invocation with
    | .error obstacle => return .failure obstacle.line
    | .ok (skeleton, document) => writeDocument disk invocation.output skeleton document

end Pressroom.Command
