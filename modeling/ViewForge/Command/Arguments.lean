import ViewForge.Command.Parameter
import ViewForge.Outline.Caret

/-!
# Arguments

What the words of a command line ask for. Parameters stand anywhere, with their values attached or
as the next word; those that all verbs share may also stand before the verb, where they give way to
those behind it. A command line that cannot be read is a misuse.
-/

namespace ViewForge.Command

/-- Why the words of a command line are not followed to their end. -/
inductive Halt where
  /-- They cannot be read. -/
  | misuse
  /-- They ask for help, perhaps about a verb. -/
  | help (about : Option Verb)
  /-- They ask for the version. -/
  | version
  deriving Repr, DecidableEq

/-- Parameters that are given, with their values, in order. -/
abbrev Given := List (Parameter × String)

namespace Given

/-- The value of a parameter. -/
def value? (g : Given) (p : Parameter) : Option String := g.lookup p

/-- The values of a parameter. -/
def values (g : Given) (p : Parameter) : List String := (g.filter (·.1 == p)).map (·.2)

/-- Whether a parameter is given. -/
def has (g : Given) (p : Parameter) : Bool := (g.value? p).isSome

/-- The number that a parameter is given. -/
def number? (g : Given) (p : Parameter) : Option Nat :=
  (g.value? p).bind fun s => Text.word64? s.toList

/-- Parameters with one more. -/
def add (l : Level) (g : Given) (p : Parameter) (value : String) : Except Halt Given :=
  match p with
  | .help => .error (.help l.verb?)
  | .version => .error .version
  | p =>
    if (g.has p && !p.isRepeatable) || !p.form.admits value then .error .misuse
    else .ok (g ++ [(p, value)])

end Given

/-! ## Words -/

/-- Whether a word is a parameter and no value. -/
def looksLikeParameter : List Char → Bool
  | '-' :: _ :: _ => true
  | _ => false

/-- The parameters that letters behind one hyphen give, and the one that still lacks its value. -/
def readLetters (l : Level) : List Char → Given → Except Halt (Given × Option Parameter)
  | [], given => .ok (given, none)
  | c :: cs, given =>
    match l.parameters.find? (·.letter? == some c) with
    | none => .error .misuse
    | some p =>
      if p.form = .switch then do readLetters l cs (← given.add l p "")
      else
        match cs with
        | [] => .ok (given, some p)
        | '=' :: value => do pure (← given.add l p (String.ofList value), none)
        | value => do pure (← given.add l p (String.ofList value), none)

/-- The parameter that a name behind two hyphens gives, or that still lacks its value. -/
def readName (l : Level) (word : List Char) (given : Given) :
    Except Halt (Given × Option Parameter) :=
  let name := word.takeWhile (· != '=')
  let attached := word.dropWhile (· != '=')
  match l.parameters.find? (·.name.toList == name) with
  | none => .error .misuse
  | some p =>
    match attached with
    | [] => if p.form = .switch then do pure (← given.add l p "", none) else .ok (given, some p)
    | _ :: value =>
      if p.form = .switch then .error .misuse
      else do pure (← given.add l p (String.ofList value), none)

/-- What stands at a level. -/
structure Words where
  /-- The parameters. -/
  given : Given := []
  /-- The places that are named. -/
  places : List String := []
  /-- The verb that follows and the words behind it. -/
  verb? : Option (Verb × List String) := none
  deriving Repr

/-- Words with one more place. -/
def Words.addPlace (l : Level) (w : Words) (place : String) : Except Halt Words :=
  if w.places.length < l.places.length && place != "" then
    .ok { w with places := w.places ++ [place] }
  else .error .misuse

/-- The parameter that a word gives, or that still lacks its value; nothing for a word of another
kind. -/
def readParameter? (l : Level) (given : Given) (word : String) :
    Option (Except Halt (Given × Option Parameter)) :=
  match word.toList with
  | '-' :: '-' :: name => some (readName l name given)
  | '-' :: c :: cs => some (readLetters l (c :: cs) given)
  | _ => none

/-- What words say up to a verb. Behind two hyphens alone there are only places. -/
def readWords (l : Level) : List String → Words → Except Halt Words
  | [], w => .ok w
  | word :: rest, w =>
    match l.verbs.find? (·.word == word) with
    | some verb => .ok { w with verb? := some (verb, rest) }
    | none =>
      if word == "--" then rest.foldlM (Words.addPlace l) w
      else
        match readParameter? l w.given word with
        | none => do readWords l rest (← w.addPlace l word)
        | some step => do
          let (given, lacking) ← step
          match lacking, rest with
          | none, rest => readWords l rest { w with given }
          | some p, value :: rest =>
            if looksLikeParameter value.toList then .error .misuse
            else readWords l rest { w with given := ← given.add l p value }
          | some _, [] => .error .misuse

/-! ## Requests -/

/-- What a command line asks for. -/
inductive Request where
  /-- The output for the place of a caret, if one is given. -/
  | generate (file : String) (caret : Option Caret)
  /-- The output for a selection. -/
  | selection (file : String) (start stop : Nat)
  /-- A list of the profiles. -/
  | profiles
  /-- A check of the settings. -/
  | validate
  /-- A settings file with the defaults, in place of one that is there if `force`. -/
  | init (force : Bool)
  deriving Repr, DecidableEq

/-- What all requests share. -/
structure Shared where
  /-- The settings file. -/
  config : Option String := none
  /-- The profile to generate with. -/
  profile : Option String := none
  /-- Further documents of the project. -/
  references : List String := []
  /-- Descriptions of assemblies. -/
  metadata : List String := []
  /-- Whether outputs are printed as data. -/
  json : Bool := false
  deriving Repr, DecidableEq

/-- A request, with what all requests share. -/
structure Invocation where
  /-- What all requests share. -/
  shared : Shared
  /-- The request. -/
  request : Request
  deriving Repr, DecidableEq

/-- What all requests share; what stands behind the verb counts first. -/
def sharedOf (before behind : Given) : Shared :=
  let one (p : Parameter) := (behind.value? p).or (before.value? p)
  let many (p : Parameter) := if behind.has p then behind.values p else before.values p
  { config := one .config, profile := one .profile, references := many .reference
    metadata := many .metadata, json := before.has .json || behind.has .json }

/-- The caret that parameters give: an offset, or a line with a column, but not both. -/
def caretOf (given : Given) : Except Halt (Option Caret) :=
  match given.number? .position, given.number? .line, given.number? .column with
  | some n, none, none => .ok (some (.offset n))
  | none, some line, some column => .ok (some (.lineColumn line column))
  | none, none, none => .ok none
  | _, _, _ => .error .misuse

/-- The request of a verb. -/
def requestOf (verb : Verb) (w : Words) : Except Halt Request :=
  match verb, w.places with
  | .generate, [file] => do pure (.generate file (← caretOf w.given))
  | .selection, [file] =>
    match w.given.number? .start, w.given.number? .stop with
    | some start, some stop => .ok (.selection file start stop)
    | _, _ => .error .misuse
  | .profiles, _ => .ok .profiles
  | .validate, _ => .ok .validate
  | .init, _ => .ok (.init (w.given.has .force))
  | _, _ => .error .misuse

/-- The help that is asked for about topics. -/
def helpAbout : List String → Halt
  | [] => .help none
  | [topic] =>
    match Verb.ofWord? topic with
    | some verb => .help (some verb)
    | none => .misuse
  | _ => .misuse

/-- What the words of a command line ask for. -/
def Invocation.ofWords (words : List String) : Except Halt Invocation := do
  let top ← readWords .top words {}
  match top.verb? with
  | none => throw .misuse
  | some (.help, topics) => throw (helpAbout topics)
  | some (verb, rest) =>
    let w ← readWords (.behind verb) rest {}
    pure ⟨sharedOf top.given w.given, ← requestOf verb w⟩

end ViewForge.Command
