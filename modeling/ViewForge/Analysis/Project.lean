import ViewForge.Failure
import ViewForge.Language
import ViewForge.Model.Reading

/-!
# Projects

The types of the other documents of a project and of the assemblies that it uses.
-/

namespace ViewForge

/-- A catalog with more declarations. -/
def Catalog.insertAll (c : Catalog) (ts : List TypeDecl) : Catalog := ts.foldl Catalog.insert c

namespace Project

/-- A catalog with the types of a document, and their number. -/
def addDocument [CSharp.Parser] (c : Catalog) (d : Document) : Catalog × Nat :=
  let ts := d.outline.types.map (·.decl)
  (c.insertAll ts, ts.length)

/-- A catalog with the types of an assembly that a text describes, and their number. `name` is what
the text is called if it describes none. -/
def addMetadata (name : String) (c : Catalog) (text : String) : Except Failure (Catalog × Nat) :=
  match Assembly.parse? text with
  | some assembly => .ok (c.insertAll assembly.marked, assembly.types.length)
  | none => .error (.malformed name)

/-- The name of a description that does not come from a file. -/
def unnamedMetadata : String := "assembly metadata"

/-- The catalog of documents and of descriptions of assemblies. -/
def build [CSharp.Parser] (documents : List Document) (metadata : List String) :
    Except Failure Catalog :=
  metadata.foldlM (fun c text => (addMetadata unnamedMetadata c text).map (·.1))
    (documents.foldl (fun c d => (addDocument c d).1) {})

end Project

end ViewForge
