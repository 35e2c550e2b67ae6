import ViewForge.Command.Run

/-!
# The program

Looks at the paths that a command line names, follows it, prints and writes what it comes to.
-/

namespace ViewForge.Command

/-- What stands at a path. -/
def look (path : String) : IO Entry := do
  try
    let bytes ← IO.FS.readBinFile path
    match String.fromUTF8? bytes with
    | some content => pure (.text content)
    | none => pure .binary
  catch
    | .inappropriateType _ code _ => pure (if code = 20 then .throughFile else .directory)
    | _ => pure .missing

/-- The variables of the environment, as the system lists them. -/
def readEnvironment : IO (List (String × String)) := do
  try
    pure (readVariables (← IO.FS.readFile "/proc/self/environ"))
  catch _ => pure []

end ViewForge.Command

open ViewForge.Command

/-- Follows the words of a command line. -/
def main (words : List String) : IO UInt32 := do
  let home ← IO.getEnv "HOME"
  let seen ← (pathsOf home words).mapM fun path => do pure (path, ← look path)
  let snapshot (path : String) := (seen.lookup path).getD .missing
  let outcome := execute { snapshot, home, environment := ← readEnvironment } words
  if let some (path, content) := outcome.written then
    let directory := parent path
    if directory != "" then IO.FS.createDirAll directory
    IO.FS.writeFile path content
  IO.print outcome.output
  unless outcome.report.isEmpty do IO.eprintln ("Error: " ++ "\n".intercalate outcome.report)
  if outcome.status = 2 then IO.eprint (helpText none)
  pure outcome.status.toUInt32
