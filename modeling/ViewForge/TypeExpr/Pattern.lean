import ViewForge.TypeExpr.Basic

/-!
# Substitution and patterns

Type parameters are replaced by their arguments, and a type is compared with a pattern in which a
bare `T` below the root stands for any type.
-/

namespace ViewForge.TypeExpr

mutual

/-- Replaces the bare names that are bound. -/
def substitute (bound : String → Option TypeExpr) : TypeExpr → TypeExpr
  | .named qualifier name args =>
    if qualifier.isNone && args.isEmpty then (bound name).getD (.named qualifier name [])
    else .named qualifier name (substituteAll bound args)
  | .array element rank => .array (substitute bound element) rank
  | .nullable inner => .nullable (substitute bound inner)
  | .tuple items => .tuple (substituteAll bound items)
  | .dynamic => .dynamic

/-- Replaces the bare names that are bound in each of a list of types. -/
def substituteAll (bound : String → Option TypeExpr) : List TypeExpr → List TypeExpr
  | [] => []
  | t :: ts => substitute bound t :: substituteAll bound ts

end

/-- The pattern that stands for any type: a bare `T`. -/
def isWildcard : TypeExpr → Bool
  | .named none name [] => name == "T"
  | _ => false

mutual

/-- Whether a type has the shape of a pattern; names are compared without their namespaces. -/
def hasShape : TypeExpr → TypeExpr → Bool
  | .named _ name args, .named _ name' args' => name == name' && fitAll args args'
  | .array element rank, .array element' rank' => rank == rank' && fits element element'
  | .nullable inner, .nullable inner' => fits inner inner'
  | .tuple items, .tuple items' => fitAll items items'
  | .dynamic, .dynamic => true
  | _, _ => false

/-- Whether a type fits a pattern below the root, where a bare `T` fits everything. -/
def fits (t pattern : TypeExpr) : Bool := pattern.isWildcard || hasShape t pattern

/-- Whether types fit as many patterns one by one. -/
def fitAll : List TypeExpr → List TypeExpr → Bool
  | [], [] => true
  | t :: ts, p :: ps => fits t p && fitAll ts ps
  | _, _ => false

end

end ViewForge.TypeExpr
