import ViewForge.Model.Catalog
import ViewForge.TypeExpr.Pattern

/-!
# Base classes

The chain of base classes of a type, each with the type arguments that its parameters stand for as
seen from the type at the start. The chain ends where no base class is found or a name comes back.
-/

namespace ViewForge

/-- Type parameters and the types they stand for. -/
abbrev Bindings := List (String × TypeExpr)

/-- The type that a parameter stands for; the last of several entries counts. -/
def Bindings.lookup? (b : Bindings) (name : String) : Option TypeExpr :=
  (b.reverse.find? fun (parameter, _) => parameter == name).map (·.2)

namespace Member

/-- The first entry of a base list that means a type with members, and the reference to it as seen
from the start of the chain. The root class `object` ends the search. -/
def baseIn? (m : Model) (t : TypeDecl) (b : Bindings) : List String → Option (TypeDecl × TypeExpr)
  | [] => none
  | text :: rest =>
    match TypeExpr.parse? text with
    | none => baseIn? m t b rest
    | some written =>
      let reference := written.substitute b.lookup?
      if reference.simpleName == "object" then none
      else
        match (m.resolve reference (some t)).filter (·.hasMembers) with
        | some base => some (base, reference)
        | none => baseIn? m t b rest

/-- The base class of a type. -/
def base? (m : Model) (t : TypeDecl) (b : Bindings) : Option (TypeDecl × TypeExpr) :=
  baseIn? m t b t.bases

/-- The chain from a type on, without the types whose names were met before. The fuel is more than
the number of types that can still be met. -/
def chainWith (m : Model) : Nat → List String → TypeDecl → Bindings → List (TypeDecl × Bindings)
  | 0, _, _, _ => []
  | fuel + 1, met, t, b =>
    if met.contains t.fullName then []
    else
      (t, b) :: match base? m t b with
        | some (base, reference) =>
          chainWith m fuel (t.fullName :: met) base (base.parameters.zip reference.args)
        | none => []

/-- A type and its base classes, nearest first, each with its type arguments. -/
def chain (m : Model) (t : TypeDecl) : List (TypeDecl × Bindings) :=
  chainWith m (m.types.length + 1) [] t []

end Member

end ViewForge
