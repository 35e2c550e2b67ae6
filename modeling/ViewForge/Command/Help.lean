import ViewForge.Command.Parameter

/-!
# Help

What the program says about itself: its version, and a page for the program and for each verb. A
page is a line on what is done, a line on usage, and lists in two columns.
-/

namespace ViewForge.Command

/-- The name of the program. -/
def programName : String := "xamlgen"

/-- What the program does. -/
def programSummary : String := "Generate XAML from the properties of C# and VB types"

/-- The line with the version. -/
def versionLine : String := programName ++ " 0.1.0\n"

/-- A name as it stands for a word that the user chooses. -/
def chosen (name : String) : String := "<" ++ name ++ ">"

namespace Parameter

/-- The parameter with its name, and what stands for its value. -/
def spelling (p : Parameter) : String :=
  "--" ++ p.name ++ (p.valueName?.elim "" fun name => " " ++ chosen name)

/-- The parameter as help lists it, with its letter first if it has one. -/
def listed (p : Parameter) : String :=
  (p.letter?.elim "    " fun letter => "-" ++ String.ofList [letter] ++ ", ") ++ p.spelling

end Parameter

/-- Rows of two columns, indented, the second column beside the longest cell of the first. -/
def columns (rows : List (String × String)) : List String :=
  let width := rows.foldl (fun n row => max n row.1.length) 0
  rows.map fun (left, right) =>
    "  " ++ left ++ String.ofList (List.replicate (width - left.length + 2) ' ') ++ right

/-- A part of a page: a blank line, a heading and rows. There is none without rows. -/
def pagePart (heading : String) (rows : List (String × String)) : List String :=
  if rows.isEmpty then [] else "" :: (heading ++ ":") :: columns rows

namespace Level

/-- The words of the usage line. -/
def usage (l : Level) : List String :=
  programName :: (l.verb?.elim [] fun verb => [verb.word]) ++
    (if l.parameters.isEmpty then [] else ["[OPTIONS]"]) ++
    (l.parameters.filter (·.isRequired)).map (·.spelling) ++
    l.places.map (chosen ·.name) ++
    (if l.verbs.isEmpty then [] else [chosen "COMMAND"]) ++
    (if l.verb? = some .help then ["[COMMAND]..."] else [])

/-- The rows on places. -/
def placeRows (l : Level) : List (String × String) :=
  if l.verb? = some .help then [("[COMMAND]...", "Print help for the subcommand(s)")]
  else l.places.map fun place => (chosen place.name, place.summary)

/-- The lines of the help page. -/
def page (l : Level) : List String :=
  [l.verb?.elim programSummary Verb.summary, "", "Usage: " ++ " ".intercalate l.usage] ++
    pagePart "Commands" (l.verbs.map fun verb => (verb.word, verb.summary)) ++
    pagePart "Arguments" l.placeRows ++
    pagePart "Options" (l.parameters.map fun p => (p.listed, p.summary))

end Level

/-- The help page for the program or for a verb. -/
def helpText (about : Option Verb) : String :=
  String.join ((about.elim Level.top Level.behind).page.map (· ++ "\n"))

end ViewForge.Command
