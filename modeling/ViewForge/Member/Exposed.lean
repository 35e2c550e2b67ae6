import ViewForge.Member.Chain

/-!
# Exposed members

The members of a type that can be bound to: instance properties with a getter that are not left
out, own ones first, then those of each base class. A redeclared property hides the ones behind it.
-/

namespace ViewForge

/-- A property of a type or of one of its base classes. -/
structure Member where
  /-- The property; its type is seen from the type at the start of the chain. -/
  property : Property
  /-- The type that declares it. -/
  declaring : TypeDecl
  deriving Repr

namespace Member

/-- Whether a name fits a pattern: it is the pattern, or begins with what stands before a star at
the pattern's end. -/
def fitsPattern (pattern name : String) : Bool :=
  match pattern.toList.reverse with
  | '*' :: lead => lead.reverse.isPrefixOf name.toList
  | _ => name == pattern

/-- Whether a name is left out. -/
def isExcluded (excluded : List String) (name : String) : Bool :=
  excluded.any (fitsPattern · name)

/-- Whether a property is shown: it belongs to instances, can be read and is not left out. -/
def isExposed (excluded : List String) (p : Property) : Bool :=
  !p.isStatic && p.hasGetter && !isExcluded excluded p.name

/-- A property whose type parameters are replaced by what they stand for. The type text stays as it
is written if nothing is replaced. -/
def bind (b : Bindings) (p : Property) : Property :=
  match p.type? with
  | some declared =>
    let seen := declared.substitute b.lookup?
    if seen = declared then p else { p with typeText := seen.render }
  | none => p

/-- Every property along a chain, with the type that declares it and the bindings there. -/
def declared (chain : List (TypeDecl × Bindings)) : List (Property × TypeDecl × Bindings) :=
  chain.flatMap fun (t, b) => t.properties.map fun p => (p, t, b)

/-- The entries whose name none before them has; `seen` holds the names met so far. -/
def firstOfName (seen : List String) :
    List (Property × TypeDecl × Bindings) → List (Property × TypeDecl × Bindings)
  | [] => []
  | entry :: rest =>
    if seen.contains entry.1.name then firstOfName seen rest
    else entry :: firstOfName (entry.1.name :: seen) rest

/-- The exposed members of a type. -/
def exposed (m : Model) (excluded : List String) (t : TypeDecl) : List Member :=
  (firstOfName [] (declared (chain m t))).filter (fun (p, _, _) => isExposed excluded p)
    |>.map fun (p, t, b) => ⟨bind b p, t⟩

end Member

end ViewForge
