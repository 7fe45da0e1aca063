/-
# The program

Files and environment are read before the run and everything is printed after it; between the two
`CommandLine.run` is a function. Each line of the log and of the event bus has the time in front, in
UTC: the log to the second, the bus in the standard form.
-/

import Std.Time.DateTime
import TypedInputs.Catalog.Yaml
import TypedInputs.CommandLine

namespace TypedInputs
namespace Main

open Calendar Catalog

/-- What stands at a path. What is there and cannot be read counts as a folder. -/
def entryAt (path : String) : IO Entry := do
  try
    return .file (← IO.FS.readBinFile path).toList
  catch
    | .noFileOrDirectory .. => return .missing
    | _ => return .folder

/-- What stands at each of some paths; nothing stands elsewhere. -/
def filesAt (paths : List String) : IO Files := do
  let entries ← paths.mapM fun path => do
    let normal := Path.normal path
    return (normal, ← entryAt normal)
  return fun path => (field? entries path).getD .missing

/-- The environment of the process. -/
def environment : IO Diagnostics.Environment := do
  let settings ← Diagnostics.Setting.all.filterMapM fun setting => do
    return (← IO.getEnv setting.key).map fun value => (setting.key, value)
  return field? settings

/-- The time now. -/
def now : IO (Option DateTime) := do
  let seconds := (← Std.Time.Timestamp.now).toSecondsSinceUnixEpoch.val
  return DateTime.ofSeconds? seconds 0

/-- Lines with a time in front of each. -/
def stamped (time : String) (lines : List String) : String :=
  CommandLine.textOfLines (lines.map fun line => time ++ " | " ++ line)

end Main
end TypedInputs

open TypedInputs in
/-- Runs the command line. -/
def main (words : List String) : IO UInt32 := do
  let files ← Main.filesAt (CommandLine.pathsOf words)
  match CommandLine.run files (← Main.environment) words with
  | .error fault =>
    IO.eprintln fault.message
    return 1
  | .ok outcome =>
    let time ← Main.now
    let clock := (time.map fun t => String.ofList (t.toCharsWith ' ')).getD ""
    let instant := (time.map fun t => t.text ++ "+00:00").getD ""
    IO.print (Main.stamped clock outcome.log)
    IO.print (Main.stamped instant outcome.events)
    IO.print outcome.output
    if outcome.exitCode = 2 then IO.eprint CommandLine.generalHelp
    return UInt32.ofNat outcome.exitCode
