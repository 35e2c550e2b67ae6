import ViewForge.Text.Match

/-!
# Markers

The vocabulary of placeholders that a template may hold, each written between dollar signs.
-/

namespace ViewForge

/-- A placeholder of a template. -/
inductive Marker where
  /-- The name of the member. -/
  | name
  /-- The name of the member, spaced into words. -/
  | spacedName
  /-- The type of the member. -/
  | type
  /-- The counter of the call, which then advances. -/
  | counter
  /-- The last value that the counter gave. -/
  | lastCounter
  /-- The members of the member's type, expanded. -/
  | subProperties
  /-- The members of the member's enumeration, expanded. -/
  | enumMembers
  /-- The enumeration member at hand. -/
  | element
  /-- The enumeration member at hand, spaced into words. -/
  | spacedElement
  /-- The name of the property whose enumeration is expanded. -/
  | enumProperty
  /-- The generated element name of this rendering. -/
  | elementName
  /-- The generated element name before this one in the group. -/
  | previousElementName
  /-- Suppresses the rendering. -/
  | noOutput
  deriving Repr, DecidableEq

namespace Marker

/-- All markers, in the order of the vocabulary. -/
def all : List Marker :=
  [.name, .spacedName, .type, .counter, .lastCounter, .subProperties, .enumMembers, .element,
   .spacedElement, .enumProperty, .elementName, .previousElementName, .noOutput]

/-- The word between the dollar signs. -/
def word : Marker → List Char
  | .name => "name".toList
  | .spacedName => "namewithspaces".toList
  | .type => "type".toList
  | .counter => "incint".toList
  | .lastCounter => "repint".toList
  | .subProperties => "subprops".toList
  | .enumMembers => "members".toList
  | .element => "element".toList
  | .spacedElement => "elementwithspaces".toList
  | .enumProperty => "enumname".toList
  | .elementName => "xname".toList
  | .previousElementName => "repxname".toList
  | .noOutput => "nooutput".toList

/-- The spelling of a marker in a template. -/
def spelling (m : Marker) : List Char := '$' :: m.word ++ ['$']

/-- The marker at the start of a text and the text after it. -/
def leading? (cs : List Char) : Option (Marker × List Char) :=
  all.findSome? fun m => (Text.after? m.spelling cs).map fun rest => (m, rest)

end Marker

end ViewForge
