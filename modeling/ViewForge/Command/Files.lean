import ViewForge.Text.Path

/-!
# Files

What stands at a path, as far as a command has to know, and a tree of files held in memory.
-/

namespace ViewForge.Command

/-- What stands at a path. -/
inductive Entry where
  /-- Nothing. -/
  | missing
  /-- Nothing, because the path leads through a file. -/
  | throughFile
  /-- A directory. -/
  | directory
  /-- A file that is no text. -/
  | binary
  /-- A file of text. -/
  | text (content : String)
  deriving Repr, DecidableEq

namespace Entry

/-- Whether anything stands at a path. -/
def isThere : Entry → Bool
  | missing | throughFile => false
  | directory | binary | text _ => true

/-- The text of a file, or the reason of the system for not giving it. -/
def read : Entry → Except String String
  | missing => .error "No such file or directory (os error 2)"
  | throughFile => .error "Not a directory (os error 20)"
  | directory => .error "Is a directory (os error 21)"
  | binary => .error "stream did not contain valid UTF-8"
  | text content => .ok content

end Entry

/-- What stands at the paths. -/
abbrev Snapshot := String → Entry

/-- The path of the directory that holds a path, as it is written. -/
def parent (path : String) : String :=
  let cs := path.toList.reverse.dropWhile (· == '/')
  let rest := cs.dropWhile (· != '/')
  let holder := rest.dropWhile (· == '/')
  String.ofList (if holder.isEmpty then rest.take 1 else holder.reverse)

/-- Makes a directory and those that hold it, or gives the reason of the system for not doing so. -/
def makeDirectory (s : Snapshot) (path : String) : Except String Unit :=
  if path == "" then .ok ()
  else
    match s path with
    | .text _ | .binary => .error "File exists (os error 17)"
    | .throughFile => .error "Not a directory (os error 20)"
    | .missing | .directory => .ok ()

/-- Makes a file, or gives the reason of the system for not doing so. -/
def makeFile (s : Snapshot) (path : String) : Except String Unit :=
  if s path == .directory || path.endsWith "/" then .error "Is a directory (os error 21)"
  else .ok ()

/-! ## Files in memory -/

/-- Files by their paths below one directory, which has a path of its own. -/
structure FileTree where
  /-- The path of the directory. -/
  root : String
  /-- The files: the names on the way to each, and its content. -/
  files : List (List String × String)
  deriving Repr

namespace FileTree

/-- The names on the way to a path; the way up takes the last name back. -/
def names (path : List Char) : List String :=
  ((Text.components path).foldl (fun done name =>
    if name = ['.', '.'] then done.tail else String.ofList name :: done) []).reverse

/-- The tree of files with paths below a directory. -/
def ofList (root : String) (files : List (String × String)) : FileTree :=
  ⟨root, files.map fun (path, content) => (names path.toList, content)⟩

/-- The names on the way from the directory to a path, unless the path leads elsewhere. -/
def relative? (t : FileTree) (path : String) : Option (List String) :=
  if path.startsWith t.root then some (names (path.toList.drop t.root.length))
  else if path.startsWith "/" then none
  else some (names path.toList)

/-- What stands at the end of a way. -/
def entryAt (t : FileTree) (way : List String) : Entry :=
  match t.files.lookup way with
  | some content => .text content
  | none =>
    if way.isEmpty || t.files.any (fun (w, _) => way.isPrefixOf w) then .directory
    else if t.files.any (fun (w, _) => w.isPrefixOf way) then .throughFile
    else .missing

/-- What stands at the paths. -/
def snapshot (t : FileTree) : Snapshot := fun path =>
  if path == "" then .missing
  else
    match t.relative? path with
    | none => .missing
    | some way =>
      match t.entryAt way with
      | .text content => if path.endsWith "/" then .throughFile else .text content
      | entry => entry

/-- The tree with a file written. -/
def write (t : FileTree) (path content : String) : FileTree :=
  match t.relative? path with
  | some way => { t with files := (way, content) :: t.files.filter (·.1 != way) }
  | none => t

/-- The text of a file. -/
def text? (t : FileTree) (path : String) : Option String :=
  match t.snapshot path with
  | .text content => some content
  | _ => none

end FileTree

end ViewForge.Command
