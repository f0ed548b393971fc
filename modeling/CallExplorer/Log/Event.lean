/-
What a run says about itself.

Events are meant for logs. Each has a level, a target that names the part of the
program it comes from, a fixed message and some fields. A field is a number, a
text, or a text shown as it is.
-/
import CallExplorer.Direction

namespace CallExplorer

/-- How important an event is, the most important first. -/
inductive Level where
  | error
  | warn
  | info
  | debug
  | trace
  deriving DecidableEq, Repr

namespace Level

/-- The name of a level. -/
def name : Level → String
  | .error => "ERROR"
  | .warn => "WARN"
  | .info => "INFO"
  | .debug => "DEBUG"
  | .trace => "TRACE"

/-- The rank of a level; the less important the higher. -/
def rank : Level → Nat
  | .error => 1
  | .warn => 2
  | .info => 3
  | .debug => 4
  | .trace => 5

end Level

/-- The value of a field. -/
inductive FieldValue where
  | number (n : Int)
  | text (s : String)
  | shown (s : String)
  deriving DecidableEq, Repr

/-- Something worth logging. -/
inductive Event where
  /-- One level of children was found below an item. -/
  | expandedCall (direction : Direction) (item : String) (children : Nat)
  /-- A whole tree was listed. -/
  | expandedTree (rows maxDepth : Nat)
  /-- A server knows the symbol at the start position. -/
  | preparedHierarchy (path : String) (roots : Nat)
  | sendingRequest (id : Int) (method : String)
  | sendingNotification (method : String)
  | serverError (id : Int) (method : String) (code : Int)
  | startedServer (command : String)
  | loadedGraph (path : String) (roots : Nat)
  | listedTree (direction : Direction) (depth rows : Nat)
  | serverStopped
  | serverNotStopped (reason : String)
  deriving DecidableEq, Repr

namespace Event

/-- How important an event is. -/
def level : Event → Level
  | .sendingRequest .. => .trace
  | .sendingNotification .. => .trace
  | .serverError .. => .warn
  | .serverNotStopped .. => .warn
  | _ => .debug

/-- The part of the program an event comes from. -/
def target : Event → String
  | .expandedCall .. => "callscope::data_source"
  | .expandedTree .. => "callscope::tree"
  | .preparedHierarchy .. => "callscope::model"
  | .sendingRequest .. => "callscope::lsp"
  | .sendingNotification .. => "callscope::lsp"
  | .serverError .. => "callscope::lsp"
  | .startedServer .. => "callscope::lsp"
  | .loadedGraph .. => "callscope::cli"
  | .listedTree .. => "callscope::cli"
  | .serverStopped => "callscope::cli"
  | .serverNotStopped .. => "callscope::cli"

/-- What an event says. -/
def message : Event → String
  | .expandedCall .. => "expanded call"
  | .expandedTree .. => "expanded tree"
  | .preparedHierarchy .. => "prepared call hierarchy"
  | .sendingRequest .. => "sending request"
  | .sendingNotification .. => "sending notification"
  | .serverError .. => "server returned an error"
  | .startedServer .. => "spawned language server"
  | .loadedGraph .. => "loaded fixture"
  | .listedTree .. => "expanded call tree"
  | .serverStopped => "language server shut down"
  | .serverNotStopped .. => "language server shutdown failed"

/-- The fields of an event, in the order they are logged. -/
def fields : Event → List (String × FieldValue)
  | .expandedCall direction item children =>
    [("direction", .shown direction.tag), ("item", .shown item), ("children", .number children)]
  | .expandedTree rows maxDepth => [("rows", .number rows), ("max_depth", .number maxDepth)]
  | .preparedHierarchy path roots => [("path", .shown path), ("roots", .number roots)]
  | .sendingRequest id method => [("id", .number id), ("method", .text method)]
  | .sendingNotification method => [("method", .text method)]
  | .serverError id method code =>
    [("id", .number id), ("method", .text method), ("code", .number code)]
  | .startedServer command => [("command", .text command)]
  | .loadedGraph path roots => [("path", .shown path), ("roots", .number roots)]
  | .listedTree direction depth rows =>
    [("direction", .shown direction.tag), ("depth", .number depth), ("rows", .number rows)]
  | .serverStopped => []
  | .serverNotStopped reason => [("error", .shown reason)]

end Event

end CallExplorer
