/-
What a run finds around it.

A run reads files, may start a program, and writes to an output that somebody may
look at and that may be full at some point. A file tree with some programs makes
up such surroundings: a command without a slash is looked for among the programs
alone, any other must be the path of one, since mere files cannot be started.

Some things are found out by others for the run: whether an introduction is sound
in all its parts, where in a text an error is, and what a command line should have
been. They are taken as they come.
-/
import CallExplorer.Files
import CallExplorer.Server.Client

namespace CallExplorer

namespace Command

/-- What keeps a run from getting under way. -/
inductive Hindrance where
  /-- The log cannot be set up. -/
  | log (why : String)
  /-- There is nothing to run on. -/
  | runtime (why : FileError)
  deriving DecidableEq, Repr

/-- What a run finds around it. -/
structure Surroundings where
  /-- The directory that relative paths start from, if it can be told. -/
  working : Except FileError String
  hindrance : Option Hindrance := none
  read : FileReader
  /-- Starts a program with arguments, and gives what it has to say. -/
  start : String → List String → Except FileError (List Server.Arrival)
  /-- Whether somebody looks at the output. -/
  terminal : Bool := false
  /-- The bytes that the output takes, if there is a limit. -/
  room : Option Nat := none
  /-- The number of the process of the run. -/
  process : UInt32 := 0
  /-- How the introduction of a server is to be read. -/
  introductions : Decoder Server.Introduction := Server.Introduction.decoder
  /-- Finds the places of errors in JSON texts. -/
  locate : Locate := .nowhere
  /-- What is advised to somebody whose command line is wrong: paragraphs with a blank line behind
  each of them. -/
  advice : List String → String := fun _ => ""

/-- The client of a server that has this to say. A failure may lie in wait in the pipe to it. -/
def Surroundings.client (s : Surroundings) (output : List Server.Arrival)
    (pipe : Option Server.Obstacle := none) : Server.Client where
  incoming := output
  obstacle := pipe
  process := s.process.toNat
  introductions := s.introductions

/-- A program that can be started, with all that it has to say. -/
structure Program where
  command : String
  output : List Server.Arrival

/-- Whether a text has a NUL in it, which no argument of a program can have. -/
def hasNul (s : String) : Bool := s.toList.contains (Char.ofNat 0)

/-- Why a command without a slash that names no program cannot be started. The dots name
directories, and what no file can be called is not looked for. -/
def whyNotListed (command : String) : FileError :=
  if command = "." ∨ command = ".." then .denied
  else if (Text.bytes command).length > 255 then .nameTooLong
  else .notFound

/-- Why a command that names no program cannot be started. -/
def whyNoProgram (files : FileTree) (command : String) : FileError :=
  if !command.toList.contains '/' then whyNotListed command
  else
    match files.read command with
    | .ok _ => .denied
    | .error .isDirectory => .denied
    | .error why => why

/-- Starts one of some programs. -/
def startAmong (programs : List Program) (files : FileTree) (command : String)
    (arguments : List String) : Except FileError (List Server.Arrival) :=
  if hasNul command || arguments.any hasNul then
    .error (.other "nul byte found in provided data")
  else
    match programs.find? (·.command == command) with
    | some p => .ok p.output
    | none => .error (whyNoProgram files command)

/-- The surroundings made up by a file tree and some programs. -/
def Surroundings.ofFiles (files : FileTree) (programs : List Program) : Surroundings where
  working := .ok files.workingPath
  read := files.read
  start := startAmong programs files

end Command

end CallExplorer
