/-
A run of the program.

A run reads its settings from the command line, sets up the log, opens the source
of the symbols, lists the tree, takes leave of the server if there is one, and only
then writes the rows. When anything before that goes wrong nothing is written but
the complaint. The log is not written here: a run leaves its events.
-/
import CallExplorer.Command.Arguments
import CallExplorer.Command.Help
import CallExplorer.Command.Surroundings
import CallExplorer.Graph.Fixture
import CallExplorer.Host
import CallExplorer.Log.Filter
import CallExplorer.Remote

namespace CallExplorer

namespace Command

-- ============================================ complaints

/-- Why a run fails. -/
inductive RunError where
  | nothingAsked
  /-- The command line is wrong, and this is advised. -/
  | usage (e : UsageError) (advice : String)
  | badFilter (e : FilterError)
  | hindered (h : Hindrance)
  /-- The directory that relative paths start from cannot be told. -/
  | nowhere (why : FileError)
  | unreadable (path : String) (why : FileError)
  | server (f : Server.Failure)
  | exploration (f : Failure)
  /-- The output does not take the rows as JSON. -/
  | unserialised
  /-- The output does not take the text. -/
  | unwritten
  deriving DecidableEq

/-- What the system says when the output takes no more. -/
def outputClosed : String := "stdout closed"

/-- The complaint in words. -/
def RunError.message (e : RunError) (locate : Locate) : String :=
  match e with
  | .nothingAsked => Scope.program.help false
  | .usage e advice =>
    "error: " ++ e.message ++ "\n\n" ++ advice ++ "For more information, try '--help'.\n"
  | .badFilter e => "invalid log filter: " ++ e.message
  | .hindered (.log why) => "failed to install log subscriber: " ++ why
  | .hindered (.runtime why) => "failed to start the async runtime: " ++ why.message
  | .nowhere why => "failed to resolve the working directory: " ++ why.message
  | .unreadable path why => "failed to read " ++ path ++ ": " ++ why.message
  | .server f => "language server failed: " ++ f.message locate
  | .exploration f => f.message locate
  | .unserialised => "failed to serialise call tree: " ++ outputClosed
  | .unwritten => "failed to write output: " ++ outputClosed

-- ============================================ listings

/-- The URI of a path. -/
def uriOf {σ : Type} (path : String) : Action σ RunError Uri :=
  Action.lift ((Uri.ofPath path).mapError fun e => .exploration (.noUri e))

/-- The rows of a call graph in a file. -/
def listGraph {σ : Type} (s : Settings) (read : FileReader) (path : String) :
    Action σ RunError (List Row) := do
  let g ← Action.lift ((CallGraph.load read path).mapError .exploration)
  Action.note (.loadedGraph path g.roots.length)
  (g.provider.rows s.direction s.depth).mapError .exploration

/-- Takes leave of a server. It does not matter to the run how that goes. -/
def takeLeave (locate : Locate) : Action Server.Client RunError Unit := do
  match ← Action.attempt Server.Client.shutdown with
  | .ok () => Action.note .serverStopped
  | .error f => Action.note (.serverNotStopped (f.message locate))

/-- The rows of the call hierarchy that a server knows for a place in a document. -/
def listServer (s : Settings) (o : ServerOptions) (locate : Locate)
    (directory path content : String) : Action Server.Client RunError (List Row) := do
  let root ← uriOf directory
  let _ ← (Server.Client.initialise root).mapError .server
  let document ← uriOf path
  (Server.Client.openDocument document o.language content).mapError .server
  let access := Server.Client.access
  let roots ← (access.start path ⟨o.line, o.column⟩).mapError .exploration
  let listed ←
    Action.attempt (Shared.during ((Shared.provider access roots).rows s.direction s.depth))
  takeLeave locate
  Action.lift (listed.mapError .exploration)

/-- A server that was started: the arguments it got, and the client that talks to it. -/
structure StartedServer where
  arguments : List String
  client : Server.Client

/-- Starts a server. A failure may lie in wait in the pipe to it. -/
def startServer (s : Surroundings) (o : ServerOptions) (pipe : Option Server.Obstacle := none) :
    Except RunError Server.Client :=
  match s.start o.command o.arguments with
  | .error why => .error (.server (.notStarted why))
  | .ok output => .ok (s.client output pipe)

/-- The rows that settings ask for. The state is the server, if one was started. -/
def listRows (s : Settings) (around : Surroundings) (pipe : Option Server.Obstacle := none) :
    Action (Option StartedServer) RunError (List Row) :=
  match s.source with
  | .fixture path => listGraph s around.read path
  | .server o => do
    let directory ← Action.lift (around.working.mapError .nowhere)
    let path := joinPath directory o.file
    let content ← Action.lift ((around.read.text path).mapError (.unreadable path))
    let client ← Action.lift (startServer around o pipe)
    Action.note (.startedServer o.command)
    fun _ =>
      let listed := listServer s o around.locate directory path content client
      ⟨listed.result, listed.events, some ⟨o.arguments, listed.state⟩⟩

-- ============================================ output

/-- As much of a text as the output takes. -/
def fitting (room : Option Nat) (text : String) : List UInt8 :=
  let bs := Text.bytes text
  match room with
  | none => bs
  | some n => bs.take n

/-- Whether the output takes a text. -/
def fits (room : Option Nat) (text : String) : Bool :=
  match room with
  | none => true
  | some n => text.utf8ByteSize ≤ n

/-- Writes rows, and gives what arrived. -/
def writeRows (isJson : Bool) (room : Option Nat) (rows : List Row) :
    Except RunError Unit × List UInt8 :=
  if isJson then
    let text := Row.listText rows
    let whole := text ++ "\n"
    (if !fits room text then .error .unserialised
     else if !fits room whole then .error .unwritten
     else .ok (),
     fitting room whole)
  else
    let text := Row.outline rows
    (if fits room text then .ok () else .error .unwritten, fitting room text)

-- ============================================ runs

/-- What comes of a run. -/
structure Report where
  success : Bool
  output : List UInt8
  complaint : String
  events : List Event
  server : Option StartedServer
  /-- How the log is to be written; unknown when it does not come to that. -/
  log : Option (Filter × LogFormat)

/-- A run that stops before it begins. -/
def Report.plain (success : Bool) (output : List UInt8) (complaint : String) : Report :=
  ⟨success, output, complaint, [], none, none⟩

/-- A failure as the complaint of a run. -/
def RunError.complaint (e : RunError) (locate : Locate) : String := e.message locate ++ "\n"

/-- The rows that settings ask for, with a note of their number. -/
def listing (s : Settings) (around : Surroundings) (pipe : Option Server.Obstacle := none) :
    Action (Option StartedServer) RunError (List Row) := do
  let rows ← listRows s around pipe
  Action.note (.listedTree s.direction s.depth rows.length)
  pure rows

/-- Writes what came of a listing, with the log set up. -/
def Report.ofListing (s : Settings) (around : Surroundings) (filter : Filter)
    (o : Outcome (Option StartedServer) RunError (List Row)) : Report :=
  let log := some (filter, s.logFormat)
  match o.result with
  | .error e => ⟨false, [], e.complaint around.locate, o.events, o.state, log⟩
  | .ok rows =>
    match writeRows (s.output.isJson around.terminal) around.room rows with
    | (.ok (), output) => ⟨true, output, "", o.events, o.state, log⟩
    | (.error e, output) => ⟨false, output, e.complaint around.locate, o.events, o.state, log⟩

/-- Runs with settings. -/
def execute (s : Settings) (around : Surroundings) (pipe : Option Server.Obstacle := none) :
    Report :=
  match Filter.ofText s.logFilter with
  | .error e => .plain false [] ((RunError.badFilter e).complaint around.locate)
  | .ok filter =>
    match around.hindrance with
    | some h => .plain false [] ((RunError.hindered h).complaint around.locate)
    | none => .ofListing s around filter (listing s around pipe none)

/-- Runs a command line. -/
def run (words : List String) (around : Surroundings) (pipe : Option Server.Obstacle := none) :
    Report :=
  match readSettings words with
  | .ok s => execute s around pipe
  | .error (.help s isLong) => .plain true (fitting around.room (s.help isLong)) ""
  | .error .version => .plain true (fitting around.room versionText) ""
  | .error .nothing => .plain false [] (RunError.nothingAsked.complaint around.locate)
  | .error (.wrong e) =>
    .plain false [] ((RunError.usage e (around.advice words)).complaint around.locate)

/-- The lines that a run leaves in the log. -/
def Report.logLines (r : Report) (time : Json) : List String :=
  match r.log with
  | none => []
  | some (filter, format) =>
    (r.events.filter filter.passes).map fun e =>
      match format with
      | .compact => e.compactLine
      | .json => (e.jsonLine time).compact

end Command

end CallExplorer
