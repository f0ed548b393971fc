/-
The client of a language server.

A client numbers its requests from 1 and waits for the answer of each before it
goes on. Whatever else comes meanwhile is passed over, but only so many messages.
Most of what it can do needs a session with the server, which is opened by
`initialise` and closed by `shutdown`; without one nothing is sent at all.
-/
import CallExplorer.Action
import CallExplorer.Server.Capabilities
import CallExplorer.Server.Frame
import CallExplorer.Server.Message
import CallExplorer.Symbol.Link

namespace CallExplorer

namespace Server

/-- The messages that may come before an answer, the answer included. -/
def maxReplies : Nat := 1000

/-- The steps in which a message goes out. -/
inductive Step where
  | header
  | body
  | flush
  deriving DecidableEq, Repr

/-- A failure lying in wait in the pipe to the server: the step it strikes of the message
with that number, counted from 0. It strikes only once. -/
structure Obstacle where
  message : Nat
  step : Step
  reason : String
  deriving DecidableEq, Repr

/-- What was written of a message: the header, and the body unless that failed. -/
structure Transmission where
  message : Message
  complete : Bool

/-- The bytes of a transmission. -/
def Transmission.bytes (t : Transmission) : List UInt8 :=
  if t.complete then frame t.message.body
  else Text.bytes (headerText t.message.body.utf8ByteSize)

/-- A client. -/
structure Client where
  /-- What the server has yet to say. -/
  incoming : List Arrival
  /-- What was written, the last message first. -/
  sent : List Transmission := []
  /-- How many messages went all the way. -/
  delivered : Nat := 0
  obstacle : Option Obstacle := none
  /-- The id of the next request. -/
  nextId : Int := 1
  initialised : Bool := false
  /-- The process the server is to watch. -/
  process : Nat := 0
  /-- How the introduction of a server is to be read. -/
  introductions : Decoder Introduction := Introduction.decoder

namespace Client

-- ============================================ writing

/-- Takes the obstacle of a step away, if it lies there. -/
def meet (c : Client) (step : Step) : Option (String × Client) :=
  match c.obstacle with
  | some o =>
    if o.message = c.delivered ∧ o.step = step then some (o.reason, { c with obstacle := none })
    else none
  | none => none

/-- Records what was written of a message. -/
def record (c : Client) (m : Message) (complete : Bool) : Client :=
  { c with sent := ⟨m, complete⟩ :: c.sent }

/-- Writes a message. -/
def write (m : Message) (c : Client) : Except Failure Unit × Client :=
  match c.meet .header with
  | some (reason, c) => (.error (.stream (.broken reason)), c)
  | none =>
    match c.meet .body with
    | some (reason, c) => (.error (.stream (.broken reason)), c.record m false)
    | none =>
      match c.meet .flush with
      | some (reason, c) => (.error (.stream (.broken reason)), c.record m true)
      | none => (.ok (), { c.record m true with delivered := c.delivered + 1 })

/-- Sends a notification. -/
def notify (method : String) (params : Option Json) : Action Client Failure Unit := do
  Action.note (.sendingNotification method)
  Action.step (write ⟨none, method, params⟩)

-- ============================================ reading

/-- Reads the next message of the server. -/
def readReply (stream : List Arrival) : Except Failure Reply × List Arrival :=
  match readFrame stream with
  | (.error e, rest) => (.error (.stream e), rest)
  | (.ok body, rest) => ((Reply.ofBody body).mapError .undecodable, rest)

/-- Reads messages up to the one that answers a request, at most so many. -/
def awaitReply (id : Int) : Nat → List Arrival → Except Failure Reply × List Arrival
  | 0, stream => (.error (.noResponse id), stream)
  | n + 1, stream =>
    match readReply stream with
    | (.error e, rest) => (.error e, rest)
    | (.ok r, rest) => if r.answers id then (.ok r, rest) else awaitReply id n rest

/-- Waits for the answer to a request. -/
def receive (id : Int) : Action Client Failure Reply :=
  Action.step fun c =>
    let (r, rest) := awaitReply id maxReplies c.incoming
    (r, { c with incoming := rest })

-- ============================================ requests

/-- The greatest id. -/
def lastId : Int := 9223372036854775807

/-- The id of the next request, which the request uses up. -/
def takeId : Action Client Failure Int :=
  Action.step fun c => (.ok c.nextId, { c with nextId := min (c.nextId + 1) lastId })

/-- Sends a request and decodes the result of its answer. -/
def request {α : Type} (decode : Decoder α) (method : String) (params : Option Json) :
    Action Client Failure α := do
  let id ← takeId
  Action.note (.sendingRequest id method)
  Action.step (write ⟨some id, method, params⟩)
  let reply ← receive id
  match reply.refusal with
  | some r =>
    Action.note (.serverError id method r.code)
    Action.fail (.refused r.code r.message)
  | none =>
    Action.lift <|
      (decodeValue decode (.orNull reply.result)).mapError fun e => .undecodable ⟨e, none⟩

/-- Goes on only in an open session. -/
def needSession : Action Client Failure Unit := do
  if (← Action.get).initialised then pure () else Action.fail .notInitialised

/-- Opens or closes the session. -/
def setSession (isOpen : Bool) : Action Client Failure Unit :=
  Action.modify fun c => { c with initialised := isOpen }

-- ============================================ what a client can do

/-- What a client says of itself in the first request. -/
def introductionParams (process : Nat) (root : Uri) : Json :=
  let folder := Json.object [("name", .text "workspace"), ("uri", .text root.text)]
  let hierarchy := Json.object [("dynamicRegistration", .bool false)]
  .object
    [("capabilities", .object [("textDocument", .object [("callHierarchy", hierarchy)])]),
     ("processId", .int process), ("rootUri", .text root.text),
     ("workspaceFolders", .array [folder])]

/-- Opens a session for the directory. -/
def initialise (root : Uri) : Action Client Failure Introduction := do
  let c ← Action.get
  let introduction ←
    request c.introductions "initialize" (some (introductionParams c.process root))
  notify "initialized" (some (.object []))
  setSession true
  pure introduction

/-- Hands a document over to the server. -/
def openDocument (uri : Uri) (language content : String) : Action Client Failure Unit := do
  needSession
  notify "textDocument/didOpen" <|
    some (.object [("textDocument", .object
      [("languageId", .text language), ("text", .text content), ("uri", .text uri.text),
       ("version", .int 1)])])

/-- Closes the session. -/
def shutdown : Action Client Failure Unit := do
  let _ ← request (Decoder.option Decoder.any) "shutdown" none
  notify "exit" none
  setSession false

/-- Where the symbol is that a client asks for first. -/
def prepareParams (uri : Uri) (p : Position) : Json :=
  .object [("position", p.json), ("textDocument", .object [("uri", .text uri.text)])]

/-- The symbols at a position. -/
def prepare (uri : Uri) (p : Position) : Action Client Failure (Option (List Item)) := do
  needSession
  request (Decoder.option (Decoder.list Item.decoder)) "textDocument/prepareCallHierarchy"
    (some (prepareParams uri p))

/-- The method that asks for the calls of an item. -/
def linksMethod : Direction → String
  | .outgoing => "callHierarchy/outgoingCalls"
  | .incoming => "callHierarchy/incomingCalls"

/-- The item that a client asks about. -/
def linksParams (i : Item) : Json := .object [("item", i.json)]

/-- The calls of an item. -/
def links (d : Direction) (i : Item) : Action Client Failure (Option (List Link)) := do
  needSession
  request (Decoder.option (Decoder.list (Link.decoder d))) (linksMethod d) (some (linksParams i))

-- ============================================ descriptions

/-- What a client says of itself to people who look for faults. -/
def describe (c : Client) : String :=
  "LspClient \x7b pid: None, next_id: " ++ Text.signedDecimal c.nextId ++ ", initialised: "
    ++ (if c.initialised then "true" else "false") ++ ", .. \x7d"

end Client

end Server

end CallExplorer
