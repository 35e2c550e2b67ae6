import ViewForge.Member.Shape
import ViewForge.Profile.Fault
import ViewForge.Text.LetterCase
import ViewForge.TypeExpr.Pattern

/-!
# Choosing a rule

The first rule of a profile that fits a member by read-only state, name and type. A type pattern
also fits the nullable form of a type.
-/

namespace ViewForge

/-- A type pattern of a rule. -/
inductive TypePattern where
  /-- Fits every enumeration. -/
  | anyEnum
  /-- Fits every array. -/
  | anyArray
  /-- Fits the types of a shape. -/
  | shape (t : TypeExpr)
  /-- Fits a type text that denotes no type and is the same. -/
  | raw (text : String)
  deriving Repr, DecidableEq

namespace TypePattern

/-- The pattern that a text means. -/
def ofText (text : String) : TypePattern :=
  if Text.equalIgnoringCase text enumPattern then .anyEnum
  else if Text.equalIgnoringCase text arrayPattern then .anyArray
  else
    match TypeExpr.parse? text with
    | some t => .shape t
    | none => .raw text

/-- Whether a type or the type under its nullable mark has a shape. -/
def hasShapeOrNullable (pattern : TypeExpr) (t : TypeExpr) : Bool :=
  t.hasShape pattern || match t with
    | .nullable inner => inner.hasShape pattern
    | _ => false

/-- Whether a pattern fits a member. -/
def fits (s : Shape) : TypePattern → Bool
  | anyEnum => s.isEnum
  | anyArray => s.type?.any fun t => t.withoutNullable.isArray
  | shape pattern => s.type?.any (hasShapeOrNullable pattern)
  | raw text => s.type?.isNone && text == s.typeText

end TypePattern

namespace Rule

/-- Whether a name holds one of the fragments, in any case; no fragments fit every name. -/
def fitsName (fragments : List String) (name : String) : Bool :=
  fragments.isEmpty ||
    fragments.any fun f => Text.occursIn (Text.lower f.toList) (Text.lower name.toList)

/-- Whether a rule fits a member. -/
def fits (s : Shape) (r : Rule) : Bool :=
  r.ifReadOnly == s.isReadOnly && fitsName r.nameAlternatives s.name &&
    (r.typeAlternatives.map TypePattern.ofText).any (·.fits s)

end Rule

/-- The first rule that fits a member. -/
def chooseRule (rules : List Rule) (s : Shape) : Option Rule := rules.find? (Rule.fits s)

end ViewForge
