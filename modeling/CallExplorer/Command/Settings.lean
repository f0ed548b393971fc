/-
What a run is told to do.

A run lists the callers or callees of some symbols, so many levels deep, and
writes them for people or for programs. The symbols come from a file with a call
graph, or from a language server that is asked for a place in a document.
-/
import CallExplorer.Files
import CallExplorer.Log.Line

namespace CallExplorer

/-- How rows are written. -/
inductive OutputFormat where
  | auto
  | human
  | json
  deriving DecidableEq, Repr

namespace OutputFormat

/-- The formats by name. -/
def names : List (String × OutputFormat) := [("auto", .auto), ("human", .human), ("json", .json)]

/-- The format with the given name. -/
def ofName? (name : String) : Option OutputFormat :=
  (names.find? (·.1 == name)).map (·.2)

/-- Whether rows are written as JSON. Unless told otherwise they are when nobody looks. -/
def isJson (f : OutputFormat) (terminal : Bool) : Bool :=
  match f with
  | .auto => !terminal
  | .human => false
  | .json => true

end OutputFormat

/-- What a language server is asked for, and how it is started. -/
structure ServerOptions where
  file : String
  line : UInt32
  column : UInt32
  language : String
  command : String
  arguments : List String
  deriving DecidableEq, Repr

/-- Where the symbols come from. -/
inductive Source where
  | fixture (path : String)
  | server (options : ServerOptions)
  deriving DecidableEq, Repr

/-- What a run is told to do. -/
structure Settings where
  direction : Direction
  depth : Nat
  output : OutputFormat
  logFilter : String
  logFormat : LogFormat
  source : Source
  deriving DecidableEq, Repr

namespace Settings

/-- The levels listed below the roots. -/
def defaultDepth : Nat := 1

/-- The log filter. -/
def defaultLogFilter : String := "info"

/-- The language that documents are said to be in. -/
def defaultLanguage : String := "rust"

/-- The file that a run reads first, seen from a directory. -/
def inputPath (s : Settings) (working : String) : String :=
  match s.source with
  | .fixture path => path
  | .server o => joinPath working o.file

end Settings

end CallExplorer
