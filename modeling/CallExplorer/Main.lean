/-
The program.

Settings, listing and complaints are those of `Command.run`. What happens here is
that the one file a run asks for is read, and that log, rows and complaint are
written to where they belong. Other programs cannot be started from here, so a
run that asks for a language server ends with that complaint.
-/
import CallExplorer.Command.Run
import Std.Time.Format

namespace CallExplorer

namespace Command

/-- What the system says of a failure, as a cause. -/
def fileErrorOf (e : IO.Error) : FileError :=
  match e with
  | .noFileOrDirectory .. => .notFound
  | .inappropriateType _ code details =>
    if code = 21 then .isDirectory else if code = 20 then .notDirectory else .other details
  | e => .other (toString e)

/-- Reads a file. -/
def readFile (path : String) : IO (Except FileError (List UInt8)) := do
  if hasNul path then return .error .nulInName
  try
    let content ← IO.FS.readBinFile path
    return .ok content.data.toList
  catch e =>
    return .error (fileErrorOf e)

/-- What the program finds around it, given its command line. -/
def findSurroundings (words : List String) : IO Surroundings := do
  let working ←
    try
      let directory ← IO.currentDir
      pure (.ok directory.toString)
    catch e => pure (.error (fileErrorOf e))
  let path :=
    match readSettings words with
    | .ok s => s.inputPath (working.toOption.getD "")
    | .error _ => ""
  let content ← readFile path
  let output ← IO.getStdout
  return {
    working := working
    read := fun p => if p = path then content else .error .notFound
    start := fun _ _ => .error (.other "programs cannot be started from here")
    terminal := ← output.isTty
  }

/-- The time, for the log. -/
def timeText : IO String := do
  let now ← Std.Time.Timestamp.now
  let date := Std.Time.DateTime.ofTimestamp now .UTC
  return date.format "uuuu-MM-dd'T'HH:mm:ss.SSSSSSSSS'Z'"

end Command

end CallExplorer

/-- Runs the command line. -/
def main (words : List String) : IO UInt32 := do
  let around ← CallExplorer.Command.findSurroundings words
  let report := CallExplorer.Command.run words around
  let output ← IO.getStdout
  let complaints ← IO.getStderr
  for line in report.logLines (.text (← CallExplorer.Command.timeText)) do
    complaints.putStr (line ++ "\n")
  output.write ⟨report.output.toArray⟩
  output.flush
  complaints.putStr report.complaint
  complaints.flush
  return if report.success then 0 else 1
