import ViewForge.Analysis.Project
import ViewForge.Analysis.Session
import ViewForge.CSharp.Reader
import ViewForge.Command.Arguments
import ViewForge.Command.Files
import ViewForge.Command.Help
import ViewForge.Settings.Loading
import ViewForge.Settings.Written

/-!
# Commands

What a command line prints and writes, given what stands at the paths and the variables of the
environment, and how a refusal is reported.
-/

namespace ViewForge.Command

/-- Where a command runs. -/
structure Surroundings where
  /-- What stands at the paths. -/
  snapshot : Snapshot
  /-- The path of the home directory. -/
  home : Option String
  /-- The variables of the environment. -/
  environment : List (String × String) := []

/-- What a request leaves. -/
structure Effect where
  /-- The text that it prints. -/
  output : String := ""
  /-- The path of the file that it writes, and the content. -/
  written : Option (String × String) := none
  deriving Repr, DecidableEq

/-- The path of the settings file, below the home directory unless it is given. -/
def settingsPath (home : Option String) (given : Option String) : Except Failure String :=
  match given, home with
  | some path, _ => .ok path
  | none, some home => .ok (home ++ "/.xamlgen/settings.toml")
  | none, none => .error (.config "Unable to determine home directory")

/-- A line of text. -/
def line (s : String) : String := s ++ "\n"

namespace Surroundings

/-- What is found where the settings file should be. -/
def settingsFile (s : Surroundings) (path : String) : SettingsFile :=
  match s.snapshot path with
  | .missing | .throughFile => .missing
  | .directory | .binary => .unusable
  | .text content => .text (String.ofList ((Text.extension? path.toList).getD [])) content

/-- The settings that a command works with. -/
def settings (s : Surroundings) (shared : Shared) : Except Refusal Settings := do
  let path ← (settingsPath s.home shared.config).mapError
    (.during "Failed to load settings" ∘ .failed)
  Settings.loadValid (s.settingsFile path) s.environment shared.profile

/-- The document at a path. -/
def document (s : Surroundings) (path : String) : Except Refusal Document := do
  match Language.ofPath? path with
  | none => throw (.because ("Unsupported source file: " ++ path))
  | some language =>
    let text ← (s.snapshot path).read.mapError fun reason =>
      .during ("Failed to read " ++ path) (.because reason)
    pure ⟨language, text⟩

/-- A catalog with the types of the assembly that is described at a path. -/
def addMetadata (s : Surroundings) (c : Catalog) (path : String) : Except Refusal Catalog := do
  let during : Failure → Refusal :=
    fun f => .during ("Failed to load metadata " ++ path) (.failed f)
  let text ← (s.snapshot path).read.mapError fun reason =>
    during (.within ("reading " ++ path) (.plain reason))
  ((Project.addMetadata path c text).map (·.1)).mapError during

/-- The catalog of the project: its further documents and the assemblies that it uses. -/
def project (s : Surroundings) (shared : Shared) : Except Refusal Catalog := do
  let documents ← shared.references.foldlM (fun c path => do
    pure (Project.addDocument c (← s.document path)).1) {}
  shared.metadata.foldlM s.addMetadata documents

/-- The session that a command works in. -/
def session (s : Surroundings) (shared : Shared) : Except Refusal Session := do
  let settings ← s.settings shared
  pure ⟨settings, ← s.project shared⟩

end Surroundings

/-- What is printed for an output; nothing is printed if there is nothing to show as markup. -/
def printed (json : Bool) (o : Output) : String :=
  if o.isNothing && !json then "" else line (o.shown json)

/-- The line that lists a profile; a star marks the active one. -/
def profileLine (active : String) (p : Profile) : String :=
  line ((if Text.equalIgnoringCase p.name active then "* " else "  ") ++ p.name ++ " (" ++
    toString p.rules.length ++ " mappings, grouping: " ++
    (if p.grouping == "" then "none" else p.grouping) ++ ")")

/-- Writes a settings file with the defaults. -/
def writeDefaults (s : Surroundings) (config : Option String) (force : Bool) :
    Except Refusal Effect := do
  let path ← (settingsPath s.home config).mapError .failed
  if (s.snapshot path).isThere && !force then
    throw (.because ("Settings file already exists at " ++ path ++
      "\nUse --force to overwrite it."))
  let directory := parent path
  (makeDirectory s.snapshot directory).mapError fun reason =>
    .during ("Failed to create " ++ directory) (.because reason)
  let content ← (({} : Settings).toToml).mapError .failed
  (makeFile s.snapshot path).mapError fun reason =>
    .during ("Failed to write " ++ path) (.because reason)
  pure { output := line ("Wrote default settings to " ++ path), written := some (path, content) }

/-- Meets a request. -/
def run (s : Surroundings) (i : Invocation) : Except Refusal Effect := do
  match i.request with
  | .generate file caret =>
    let session ← s.session i.shared
    let document ← s.document file
    match caret with
    | none => throw (.because "Give either --position or --line and --column")
    | some caret => pure { output := printed i.shared.json (← session.generate document caret) }
  | .selection file start stop =>
    let session ← s.session i.shared
    let document ← s.document file
    let output ← session.select document (.offset start) (.offset stop)
    pure { output := printed i.shared.json output }
  | .profiles =>
    let settings ← s.settings i.shared
    pure { output := String.join (settings.profiles.map (profileLine settings.activeProfile)) }
  | .validate =>
    let settings ← s.settings i.shared
    pure { output := line ("Settings are valid: " ++ toString settings.profiles.length ++
      " profile(s), active profile '" ++ settings.activeProfile ++ "'") }
  | .init force => writeDefaults s i.shared.config force

/-! ## Reports -/

/-- A cause in a report, with its number if there are several; further lines are indented as far. -/
def causeLines (number : Option Nat) (message : String) : List String :=
  let lines := (message.toList.splitOn '\n').map String.ofList
  let lead := match number with
    | some n => String.ofList (List.replicate (5 - (toString n).length) ' ') ++ toString n ++ ": "
    | none => "    "
  let indent := match number with
    | some _ => "       "
    | none => "    "
  match lines with
  | first :: rest => (lead ++ first) :: rest.map (indent ++ ·)
  | [] => []

/-- The lines that report a refusal: its message, and the causes behind it if there are any. -/
def reportLines (r : Refusal) : List String :=
  match r.trail with
  | [] => []
  | message :: causes =>
    let head := (message.toList.splitOn '\n').map String.ofList
    match causes with
    | [] => head
    | [cause] => head ++ ["", "Caused by:"] ++ causeLines none cause
    | causes =>
      head ++ ["", "Caused by:"] ++
        causes.zipIdx.flatMap fun (cause, n) => causeLines (some n) cause

/-! ## Command lines -/

/-- What a command line comes to. -/
structure Outcome where
  /-- The exit status: 1 for a refusal, 2 for a misuse. -/
  status : Nat := 0
  /-- The text that it prints. -/
  output : String := ""
  /-- The lines of its report. -/
  report : List String := []
  /-- The path of the file that it writes, and the content. -/
  written : Option (String × String) := none
  deriving Repr, DecidableEq

/-- Follows a command line. -/
def execute (s : Surroundings) (words : List String) : Outcome :=
  match Invocation.ofWords words with
  | .error .misuse => { status := 2 }
  | .error (.help about) => { output := helpText about }
  | .error .version => { output := versionLine }
  | .ok i =>
    match run s i with
    | .ok e => { output := e.output, written := e.written }
    | .error r => { status := 1, report := reportLines r }

/-- The paths at which a command line looks. -/
def pathsOf (home : Option String) (words : List String) : List String :=
  match Invocation.ofWords words with
  | .error _ => []
  | .ok i =>
    let settings := match settingsPath home i.shared.config with
      | .ok path => [path, parent path]
      | .error _ => []
    let source := match i.request with
      | .generate file _ | .selection file _ _ => [file]
      | _ => []
    settings ++ i.shared.references ++ i.shared.metadata ++ source

/-- The variables of an environment that is listed with a null character behind each. -/
def readVariables (listing : String) : List (String × String) :=
  (listing.toList.splitOn '\x00').filterMap fun entry =>
    (Text.cut? ['='] entry).map fun (name, value) => (String.ofList name, String.ofList value)

end ViewForge.Command
