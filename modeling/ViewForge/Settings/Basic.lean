import ViewForge.Profile.BuiltIn
import ViewForge.Profile.Fault
import ViewForge.Text.LetterCase
import ViewForge.Text.Quoted

/-!
# Settings

The profiles at hand, the one that is active, and the knobs of generation and layout. Valid
settings name an active profile and have profiles without faults under different names.
-/

namespace ViewForge

/-- How generated markup is laid out. -/
structure Formatting where
  /-- Blanks for each level. -/
  indentSize : Nat := 4
  deriving Repr, DecidableEq

/-- How far members are followed. -/
structure Generation where
  /-- The deepest level to which members are expanded. -/
  maxDepth : Nat := 5
  /-- The names of members that are left out; a final star stands for any ending. -/
  excluded : List String := ["IsInDesignMode*"]
  deriving Repr, DecidableEq

/-- All settings. -/
structure Settings where
  /-- The name of the profile to generate with. -/
  activeProfile : String := Profile.defaultName
  /-- How generated markup is laid out. -/
  formatting : Formatting := {}
  /-- How far members are followed. -/
  generation : Generation := {}
  /-- The profiles. -/
  profiles : List Profile := Profile.builtIn
  deriving Repr, DecidableEq

/-- What is wrong with settings. -/
inductive SettingsFault where
  | noProfiles
  | duplicateProfile (name : String)
  | activeNotFound (active : String) (available : List String)
  | indentTooLarge (size : Nat)
  | depthZero
  | profiles (messages : List String)
  deriving Repr, DecidableEq

/-- The widest indentation that settings may ask for. -/
def maxIndent : Nat := 16

/-- The message that reports a fault. -/
def SettingsFault.message : SettingsFault → String
  | noProfiles => "No profiles configured"
  | duplicateProfile name => "Duplicate profile name '" ++ name ++ "'"
  | activeNotFound active available =>
    "Active profile '" ++ active ++ "' not found. Available: " ++ Text.quotedList available
  | indentTooLarge size =>
    "formatting.indent_size too large (max " ++ toString maxIndent ++ ", got " ++
      toString size ++ ")"
  | depthZero => "generation.max_sub_property_depth must be greater than 0"
  | profiles messages => "; ".intercalate messages

namespace Settings

/-- The first profile of a name, in any case. -/
def profile? (s : Settings) (name : String) : Option Profile :=
  s.profiles.find? fun p => Text.equalIgnoringCase p.name name

/-- The names of the profiles. -/
def profileNames (s : Settings) : List String := s.profiles.map (·.name)

/-- The profile to generate with. -/
def active (s : Settings) : Except SettingsFault Profile :=
  match s.profile? s.activeProfile with
  | some p => .ok p
  | none => .error (.activeNotFound s.activeProfile s.profileNames)

/-- The first name that repeats an earlier one up to letter case; `seen` holds the earlier ones. -/
def repeatedName? (seen : List String) : List String → Option String
  | [] => none
  | name :: rest =>
    let folded := Text.lowercase name
    if seen.contains folded then some name else repeatedName? (folded :: seen) rest

/-- Settings are valid if there are profiles under different names, one of them is active, the
knobs are in range and no profile has a fault. The first of these that fails is reported. -/
def validate (s : Settings) : Except SettingsFault Unit := do
  if s.profiles.isEmpty then throw .noProfiles
  match repeatedName? [] s.profileNames with
  | some name => throw (.duplicateProfile name)
  | none => pure ()
  let _ ← s.active
  if s.formatting.indentSize > maxIndent then throw (.indentTooLarge s.formatting.indentSize)
  if s.generation.maxDepth = 0 then throw .depthZero
  let messages := s.profiles.flatMap (·.faultMessages)
  if !messages.isEmpty then throw (.profiles messages)

end Settings

end ViewForge
