import ViewForge.Proofs.TypeExpr.Spelling
import ViewForge.TypeExpr.Parser

/-!
# The grammar of type expressions

Which tokens derive which type. A type is a base and suffixes; a base is a tuple or a dotted name
with arguments, in angle brackets or behind `(Of`. The relations follow the rules

    Type     := Base Suffix*
    Base     := Ident (('.' | '::') Ident)* Args? | '(' Elements ')'
    Args     := '<' Types '>' | '(' 'Of' Types ')'
    Types    := Type (',' Type)*
    Elements := Element (',' Element)*
    Element  := Type Ident?
    Suffix   := '?' | '[' ','* ']' | '(' ','* ')'

Two points are conventions of their own: which word is `Of`, and when a segment `global` before
`::` only anchors a name. The grammar that is read takes `Of` in any case and drops every leading
anchor (`Conventions.wide`); a narrower one takes only `Of` and drops only the first
(`Conventions.narrow`).
-/

namespace ViewForge.TypeExpr

/-! ## Conventions -/

/-- The points on which grammars of type expressions differ. -/
structure Conventions where
  /-- Whether a word opens type arguments behind a parenthesis. -/
  opens : TypeToken → Bool
  /-- The segments of a dotted name that count, out of the first and those behind it, each of which
  notes whether `::` stands before it. -/
  segments : String → List (Bool × String) → List String

/-- The segments of a name without the anchors at its start. -/
def withoutAnchors (first : String) : List (Bool × String) → List String
  | [] => [first]
  | (colons, second) :: rest =>
    if colons && first == "global" then withoutAnchors second rest
    else first :: second :: rest.map (·.2)

/-- The segments of a name without an anchor in the first place. -/
def withoutFirstAnchor (first : String) : List (Bool × String) → List String
  | [] => [first]
  | (colons, second) :: rest =>
    if colons && first == "global" then second :: rest.map (·.2)
    else first :: second :: rest.map (·.2)

/-- `Of` is taken in any case, and every anchor is dropped. -/
def Conventions.wide : Conventions where
  opens := TypeToken.opensArguments
  segments := withoutAnchors

/-- `Of` is taken as it stands, and one anchor is dropped. -/
def Conventions.narrow : Conventions where
  opens word := word == .word false ['O', 'f'] true
  segments := withoutFirstAnchor

/-! ## Names and suffixes -/

/-- Whether tokens are the segments of a dotted name behind its first. -/
inductive IsTail : List TypeToken → List (Bool × String) → Prop
  /-- No segment need follow. -/
  | nil : IsTail [] []
  /-- A segment may follow a point. -/
  | point {escaped blank : Bool} {letters : List Char} {tokens : List TypeToken}
      {tail : List (Bool × String)} (htail : IsTail tokens tail) :
      IsTail (.mark '.' :: .word escaped letters blank :: tokens)
        ((false, String.ofList letters) :: tail)
  /-- A segment may follow a double colon. -/
  | colons {escaped blank : Bool} {letters : List Char} {tokens : List TypeToken}
      {tail : List (Bool × String)} (htail : IsTail tokens tail) :
      IsTail (.doubleColon :: .word escaped letters blank :: tokens)
        ((true, String.ofList letters) :: tail)

/-- Whether tokens are one suffix, which makes one type of another. -/
inductive IsSuffix : List TypeToken → TypeExpr → TypeExpr → Prop
  /-- A question mark makes a type nullable. -/
  | nullable {t : TypeExpr} : IsSuffix [.mark '?'] t (.nullable t)
  /-- Square brackets make an array, with a dimension more than there are commas. -/
  | square {t : TypeExpr} (commas : Nat) :
      IsSuffix (.mark '[' :: (List.replicate commas (.mark ',') ++ [.mark ']'])) t
        (.array t (commas + 1))
  /-- So do parentheses. -/
  | round {t : TypeExpr} (commas : Nat) :
      IsSuffix (.mark '(' :: (List.replicate commas (.mark ',') ++ [.mark ')'])) t
        (.array t (commas + 1))

/-- Whether tokens are suffixes, which make one type of another. -/
inductive AreSuffixes : List TypeToken → TypeExpr → TypeExpr → Prop
  /-- No suffix leaves the type as it is. -/
  | nil {t : TypeExpr} : AreSuffixes [] t t
  /-- Suffixes apply one after the other. -/
  | cons {first rest : List TypeToken} {t u v : TypeExpr} (hfirst : IsSuffix first t u)
      (hrest : AreSuffixes rest u v) : AreSuffixes (first ++ rest) t v

/-! ## Types -/

mutual

/-- Whether tokens derive a type. -/
inductive IsType (g : Conventions) : List TypeToken → TypeExpr → Prop
  /-- A type is a base and suffixes. -/
  | suffixed {base suffixes : List TypeToken} {t u : TypeExpr} (hbase : IsBase g base t)
      (hsuffixes : AreSuffixes suffixes t u) : IsType g (base ++ suffixes) u

/-- Whether tokens derive a type without suffixes. -/
inductive IsBase (g : Conventions) : List TypeToken → TypeExpr → Prop
  /-- A dotted name with its arguments. -/
  | named {escaped blank : Bool} {letters : List Char} {dotted arguments : List TypeToken}
      {tail : List (Bool × String)} {args : List TypeExpr} (htail : IsTail dotted tail)
      (hargs : AreArguments g arguments args) :
      IsBase g (.word escaped letters blank :: (dotted ++ arguments))
        (ofSegments (g.segments (String.ofList letters) tail) args)
  /-- A tuple. -/
  | tuple {elements : List TypeToken} {items : List TypeExpr}
      (hitems : AreElements g elements items) :
      IsBase g (.mark '(' :: (elements ++ [.mark ')'])) (.tuple items)

/-- Whether tokens are the arguments of a name. -/
inductive AreArguments (g : Conventions) : List TypeToken → List TypeExpr → Prop
  /-- A name need not have arguments. -/
  | none : AreArguments g [] []
  /-- They may stand in angle brackets. -/
  | angle {tokens : List TypeToken} {args : List TypeExpr} (hargs : AreTypes g tokens args) :
      AreArguments g (.mark '<' :: (tokens ++ [.mark '>'])) args
  /-- They may stand in parentheses behind the word for them. -/
  | round {word : TypeToken} {tokens : List TypeToken} {args : List TypeExpr}
      (hword : g.opens word = true) (hargs : AreTypes g tokens args) :
      AreArguments g (.mark '(' :: word :: (tokens ++ [.mark ')'])) args

/-- Whether tokens derive types separated by commas. -/
inductive AreTypes (g : Conventions) : List TypeToken → List TypeExpr → Prop
  /-- There may be one. -/
  | one {tokens : List TypeToken} {t : TypeExpr} (ht : IsType g tokens t) : AreTypes g tokens [t]
  /-- A comma stands before more. -/
  | more {tokens rest : List TypeToken} {t : TypeExpr} {ts : List TypeExpr}
      (ht : IsType g tokens t) (hts : AreTypes g rest ts) :
      AreTypes g (tokens ++ .mark ',' :: rest) (t :: ts)

/-- Whether tokens derive the elements of a tuple. -/
inductive AreElements (g : Conventions) : List TypeToken → List TypeExpr → Prop
  /-- There may be one. -/
  | one {tokens : List TypeToken} {t : TypeExpr} (ht : IsElement g tokens t) :
      AreElements g tokens [t]
  /-- A comma stands before more. -/
  | more {tokens rest : List TypeToken} {t : TypeExpr} {ts : List TypeExpr}
      (ht : IsElement g tokens t) (hts : AreElements g rest ts) :
      AreElements g (tokens ++ .mark ',' :: rest) (t :: ts)

/-- Whether tokens derive one element of a tuple. -/
inductive IsElement (g : Conventions) : List TypeToken → TypeExpr → Prop
  /-- An element need not have a name. -/
  | unnamed {tokens : List TypeToken} {t : TypeExpr} (ht : IsType g tokens t) :
      IsElement g tokens t
  /-- Its name begins with a letter, an underscore or an `@`. -/
  | named {tokens : List TypeToken} {name : TypeToken} {t : TypeExpr} (ht : IsType g tokens t)
      (hname : name.namesElement = true) : IsElement g (tokens ++ [name]) t

end

/-- Whether a text derives a type: it spells tokens that do. -/
def Conventions.Derives (g : Conventions) (text : String) (t : TypeExpr) : Prop :=
  ∃ tokens, TypeToken.Spells text.toList tokens ∧ IsType g tokens t

end ViewForge.TypeExpr
