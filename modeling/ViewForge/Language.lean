import ViewForge.CSharp.Outline
import ViewForge.Text.Path
import ViewForge.VisualBasic.Scan

/-!
# Languages

The languages of source documents: their names, their file extensions and how each is outlined.
-/

namespace ViewForge

/-- A language of source documents. -/
inductive Language where
  | csharp
  | visualBasic
  deriving Repr, DecidableEq

namespace Language

/-- All languages. -/
def all : List Language := [.csharp, .visualBasic]

/-- The name that is shown. -/
def name : Language → String
  | .csharp => "csharp"
  | .visualBasic => "vb"

/-- The name in data. -/
def key : Language → String
  | .csharp => "c_sharp"
  | .visualBasic => "visual_basic"

/-- The names under which a language is known. -/
def names : Language → List String
  | .csharp => ["csharp", "cs", "c#"]
  | .visualBasic => ["vb", "visualbasic", "visual_basic"]

/-- The language of a name, in any case. -/
def ofName? (name : String) : Option Language :=
  all.find? fun l => l.names.any (Text.equalIgnoringCase name)

/-- The extension of the files of a language. -/
def fileExtension : Language → String
  | .csharp => "cs"
  | .visualBasic => "vb"

/-- The language that the extension of a path stands for. -/
def ofPath? (path : String) : Option Language := do
  let extension ← Text.extension? path.toList
  all.find? fun l => l.fileExtension.toList == Text.lower extension

/-- The outline of a text in a language. -/
def outline [CSharp.Parser] (l : Language) (text : String) : Outline :=
  match l with
  | .csharp => CSharp.outline text
  | .visualBasic => VisualBasic.outline text.toList

end Language

/-- A source document. -/
structure Document where
  /-- The language that it is written in. -/
  language : Language
  /-- The text. -/
  text : String
  deriving Repr, DecidableEq

namespace Document

/-- The number of characters of a document. -/
def length (d : Document) : Nat := d.text.length

/-- What a document declares. -/
def outline [CSharp.Parser] (d : Document) : Outline := d.language.outline d.text

end Document

end ViewForge
