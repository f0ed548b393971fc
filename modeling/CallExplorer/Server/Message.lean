/-
Messages.

A client sends requests, which have an id and get an answer, and notifications,
which have none. A server sends answers, but also requests and notifications of
its own. What answers a request has no method, and its id is the very integer
that the request carried.
-/
import CallExplorer.Json.Printer
import CallExplorer.Json.Record

namespace CallExplorer

namespace Server

-- ============================================ to the server

/-- A request, or a notification when it has no id. -/
structure Message where
  id : Option Int
  method : String
  params : Option Json

namespace Message

/-- A message as a value. -/
def json (m : Message) : Json :=
  .object <|
    [("jsonrpc", .text "2.0")] ++ Json.optional "id" (m.id.map .int)
    ++ [("method", .text m.method)] ++ Json.optional "params" m.params

/-- The body of a message. -/
def body (m : Message) : String := m.json.compact

end Message

-- ============================================ from the server

/-- What a server says when it refuses a request. -/
structure Refusal where
  code : Int
  message : String

/-- The fields of a refusal. -/
def Refusal.fields : Fields (Int × String × Unit) (Option Int × Option String × Unit) :=
  .cons (.required "code" .i64) <| .cons (.required "message" .text) .nil

/-- Reads a refusal. -/
def Refusal.decoder : Decoder Refusal :=
  (fields.decode "ResponseError").map fun (code, message, ()) => ⟨code, message⟩

/-- What a server sends, as far as a client looks at it. -/
structure Reply where
  id : Option Json
  method : Option String
  result : Option Json
  refusal : Option Refusal

namespace Reply

/-- The fields of a reply. -/
def fields :
    Fields (Option Json × Option String × Option Json × Option Refusal × Unit)
      (Option (Option Json) × Option (Option String) × Option (Option Json)
        × Option (Option Refusal) × Unit) :=
  .cons (.optional "id" .any) <|
  .cons (.optional "method" .text) <|
  .cons (.optional "result" .any) <|
  .cons (.optional "error" Refusal.decoder) .nil

/-- Reads a reply. -/
def decoder : Decoder Reply :=
  (fields.decode "Response").map fun (id, method, result, refusal, ()) =>
    ⟨id, method, result, refusal⟩

/-- Reads a reply from the body of a message. -/
def ofBody (body : List UInt8) : Except JsonError Reply := decodeDocument decoder body

/-- Whether a reply answers the request with the given id. -/
def answers (r : Reply) (id : Int) : Bool :=
  r.method.isNone &&
    match r.id with
    | some (.int n) => n = id
    | _ => false

end Reply

end Server

end CallExplorer
