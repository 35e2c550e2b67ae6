import ViewForge.Text.Digits

/-!
# Verbs and parameters

The words of a command line: the verb that says what is to be done, and the parameters around it.
Each is given once with its spelling, the form of its value and the line that describes it.
-/

namespace ViewForge.Command

/-- What is to be done. -/
inductive Verb where
  | generate
  | selection
  | profiles
  | validate
  | init
  | help
  deriving Repr, DecidableEq

namespace Verb

/-- The verbs in the order in which help lists them. -/
def all : List Verb := [generate, selection, profiles, validate, init, help]

/-- The word of a verb. -/
def word : Verb → String
  | generate => "generate"
  | selection => "selection"
  | profiles => "profiles"
  | validate => "validate"
  | init => "init"
  | help => "help"

/-- The verb of a word. -/
def ofWord? (s : String) : Option Verb := all.find? (·.word == s)

/-- What a verb does. -/
def summary : Verb → String
  | generate => "Generate XAML for the property or type at a position"
  | selection => "Generate XAML for every property in a selection"
  | profiles => "List the configured profiles"
  | validate => "Check the settings file"
  | init => "Write a settings file with the default profiles"
  | help => "Print this message or the help of the given subcommand(s)"

end Verb

/-- A parameter of a command. -/
inductive Parameter where
  | config
  | profile
  | reference
  | metadata
  | json
  | verbose
  | position
  | line
  | column
  | start
  | stop
  | force
  | help
  | version
  deriving Repr, DecidableEq

/-- The form of a parameter's value. -/
inductive ValueForm where
  /-- There is none. -/
  | switch
  /-- Any text. -/
  | text
  /-- A text that is not empty. -/
  | path
  /-- A natural number of 64 bits. -/
  | number
  deriving Repr, DecidableEq

/-- Whether a text has a form. -/
def ValueForm.admits : ValueForm → String → Bool
  | switch, _ | text, _ => true
  | path, s => s != ""
  | number, s => (Text.word64? s.toList).isSome

namespace Parameter

/-- The name behind two hyphens. -/
def name : Parameter → String
  | config => "config"
  | profile => "profile"
  | reference => "reference"
  | metadata => "metadata"
  | json => "json"
  | verbose => "verbose"
  | position => "position"
  | line => "line"
  | column => "column"
  | start => "start"
  | stop => "end"
  | force => "force"
  | help => "help"
  | version => "version"

/-- The letter behind one hyphen. -/
def letter? : Parameter → Option Char
  | config => some 'c'
  | profile => some 'p'
  | reference => some 'r'
  | metadata => some 'm'
  | verbose => some 'v'
  | help => some 'h'
  | version => some 'V'
  | _ => none

/-- The form of the value. -/
def form : Parameter → ValueForm
  | config | reference | metadata => .path
  | profile => .text
  | position | line | column | start | stop => .number
  | json | verbose | force | help | version => .switch

/-- What help calls the value, if there is one. -/
def valueName? : Parameter → Option String
  | config | reference | metadata => some "FILE"
  | profile => some "NAME"
  | position => some "POSITION"
  | line => some "LINE"
  | column => some "COLUMN"
  | start => some "START"
  | stop => some "END"
  | json | verbose | force | help | version => none

/-- Whether the parameter may be given more than once. -/
def isRepeatable : Parameter → Bool
  | reference | metadata => true
  | _ => false

/-- Whether the parameter must be given. -/
def isRequired : Parameter → Bool
  | start | stop => true
  | _ => false

/-- What a parameter is for. -/
def summary : Parameter → String
  | config => "Settings file path"
  | profile => "Profile to use instead of the active one"
  | reference => "Other source files of the project, for resolving types"
  | metadata => "Metadata JSON describing types of referenced assemblies"
  | json => "Print the full result as JSON"
  | verbose => "Verbose logging"
  | position => "Zero-based character offset"
  | line => "One-based line number"
  | column => "One-based column number"
  | start => "Zero-based character offset where the selection starts"
  | stop => "Zero-based character offset where the selection ends"
  | force => "Overwrite an existing settings file"
  | help => "Print help"
  | version => "Print version"

end Parameter

/-- A place on a command line for a word that is no parameter. -/
structure Place where
  /-- What help calls the word. -/
  name : String
  /-- What the word is for. -/
  summary : String
  deriving Repr, DecidableEq

/-- What may stand on a command line before the verb, or behind one. -/
structure Level where
  /-- The verb that stands before. -/
  verb? : Option Verb
  /-- The parameters, in the order in which help lists them. -/
  parameters : List Parameter
  /-- The verbs that may follow. -/
  verbs : List Verb := []
  /-- The places, each of which must be filled. -/
  places : List Place := []

namespace Level

/-- What stands before a verb. -/
def top : Level :=
  { verb? := none
    parameters := [.config, .profile, .reference, .metadata, .json, .verbose, .help, .version]
    verbs := Verb.all }

/-- The document that a verb is about. -/
def sourceFile : Place := ⟨"FILE", "Source file (.cs or .vb)"⟩

/-- What stands behind a verb. -/
def behind : Verb → Level
  | .generate =>
    { verb? := some .generate
      parameters := [.config, .position, .line, .profile, .column, .reference, .metadata, .json,
        .verbose, .help]
      places := [sourceFile] }
  | .selection =>
    { verb? := some .selection
      parameters := [.config, .start, .stop, .profile, .reference, .metadata, .json, .verbose,
        .help]
      places := [sourceFile] }
  | .init =>
    { verb? := some .init
      parameters := [.config, .force, .profile, .reference, .metadata, .json, .verbose, .help] }
  | .help => { verb? := some .help, parameters := [] }
  | verb =>
    { verb? := some verb
      parameters := [.config, .profile, .reference, .metadata, .json, .verbose, .help] }

end Level

end ViewForge.Command
