import ViewForge.Profile.Basic
import ViewForge.TypeExpr.Parser

/-!
# Faults of a profile

What makes a profile unfit for use: an empty name, a rule without type or output, a type pattern
that cannot be read, a marker that does not exist.
-/

namespace ViewForge

/-- A template of a profile outside its rules. -/
inductive Slot where
  | fallback
  | nestedFallback
  | enumMember
  deriving Repr, DecidableEq

/-- The word for a template in a profile's file. -/
def Slot.key : Slot → String
  | fallback => "fallback_output"
  | nestedFallback => "sub_property_output"
  | enumMember => "enum_member_output"

/-- The template that stands in a slot of a profile. -/
def Profile.template (p : Profile) : Slot → String
  | .fallback => p.fallback
  | .nestedFallback => p.nestedFallback
  | .enumMember => p.enumMember

/-- A fault of a rule. -/
inductive RuleFault where
  /-- The rule has no type pattern. -/
  | noType
  /-- A type pattern denotes no type. -/
  | invalidType (pattern : String)
  /-- The template is blank. -/
  | noOutput
  /-- The template holds a marker that does not exist. -/
  | unknownMarker (marker : String)
  deriving Repr, DecidableEq

/-- A fault of a profile. -/
inductive ProfileFault where
  /-- The name is blank. -/
  | noName
  /-- A template holds a marker that does not exist. -/
  | unknownMarker (slot : Slot) (marker : String)
  /-- The rule at an index has a fault. -/
  | inRule (index : Nat) (rule : Rule) (fault : RuleFault)
  deriving Repr, DecidableEq

/-- The unknown markers of a template. -/
def unknownMarkersOf (template : String) : List String :=
  (Template.unknownMarkers template.toList).map String.ofList

/-- A pattern that is no type but stands for all enumerations or all arrays. -/
def isReservedPattern (pattern : String) : Bool :=
  Text.equalIgnoringCase pattern enumPattern || Text.equalIgnoringCase pattern arrayPattern

/-- Whether a text holds nothing but white space. -/
def isBlankText (s : String) : Bool := s.toList.all Text.isBlank

namespace Rule

/-- The faults of a rule: of its patterns first, then of its template. -/
def faults (r : Rule) : List RuleFault :=
  let patterns := r.typeAlternatives
  let invalid := patterns.filter fun p => !isReservedPattern p && (TypeExpr.parse? p).isNone
  (if patterns.isEmpty then [.noType] else []) ++ invalid.map .invalidType ++
    (if isBlankText r.output then [.noOutput] else []) ++
    (unknownMarkersOf r.output).map .unknownMarker

end Rule

namespace Profile

/-- The faults of a profile, in the order in which it is read. -/
def faults (p : Profile) : List ProfileFault :=
  (if isBlankText p.name then [.noName] else []) ++
  ([Slot.fallback, .nestedFallback, .enumMember].flatMap fun slot =>
    (unknownMarkersOf (p.template slot)).map (.unknownMarker slot)) ++
  (p.rules.zipIdx.flatMap fun (rule, index) => rule.faults.map (.inRule index rule))

end Profile

/-- The message that reports a fault of the profile of a name. -/
def ProfileFault.message (profile : String) : ProfileFault → String
  | .noName => "profile name must not be empty"
  | .unknownMarker slot marker =>
    "profile '" ++ profile ++ "': " ++ slot.key ++ " contains unknown placeholder " ++ marker
  | .inRule index rule fault =>
    let place := "profile '" ++ profile ++ "': mapping " ++ toString index
    match fault with
    | .noType => place ++ " has no type"
    | .invalidType pattern => place ++ " has invalid type '" ++ pattern ++ "'"
    | .noOutput => place ++ " (" ++ rule.types ++ ") has no output"
    | .unknownMarker marker =>
      place ++ " (" ++ rule.types ++ ") contains unknown placeholder " ++ marker

/-- The messages that report the faults of a profile. -/
def Profile.faultMessages (p : Profile) : List String := p.faults.map (·.message p.name)

end ViewForge
