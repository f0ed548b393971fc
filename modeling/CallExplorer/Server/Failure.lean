/-
What goes wrong between a client and its server.
-/
import CallExplorer.Files
import CallExplorer.Json.Decoder

namespace CallExplorer

namespace Server

/-- The largest message body accepted, in bytes. -/
def maxMessageBytes : Nat := 64 * 1024 * 1024

/-- What goes wrong with the bytes. -/
inductive StreamError where
  /-- The stream ends where a message should begin or go on with a header line. -/
  | closed
  /-- The stream ends inside a body. -/
  | truncated
  /-- A header line is not UTF-8. -/
  | notText
  | badLength (raw : String) (why : Text.NumberError)
  | noLength
  | tooLong (length : Nat)
  /-- The system reports a failure. -/
  | broken (reason : String)
  deriving DecidableEq, Repr

/-- The failure in words. -/
def StreamError.message : StreamError → String
  | .closed => "language server closed its output"
  | .truncated => "failed to fill whole buffer"
  | .notText => "stream did not contain valid UTF-8"
  | .badLength raw why => "invalid Content-Length header '" ++ raw ++ "': " ++ why.message
  | .noLength => "missing Content-Length header"
  | .tooLong length =>
    "message of " ++ Text.decimal length ++ " bytes exceeds size limit of "
      ++ Text.decimal maxMessageBytes
  | .broken reason => reason

/-- Why a client gets no answer. -/
inductive Failure where
  | notStarted (why : FileError)
  | stream (e : StreamError)
  | undecodable (e : JsonError)
  /-- The server answered with an error. -/
  | refused (code : Int) (message : String)
  | notInitialised
  /-- Too many messages came without an answer among them. -/
  | noResponse (id : Int)
  deriving DecidableEq

/-- The failure in words. -/
def Failure.message (f : Failure) (locate : Locate := .nowhere) : String :=
  match f with
  | .notStarted why => "failed to spawn language server: " ++ why.message
  | .stream e => "IO error: " ++ e.message
  | .undecodable e => "JSON error: " ++ e.message locate
  | .refused code message => "server error " ++ Text.signedDecimal code ++ ": " ++ message
  | .notInitialised => "client not initialised: call initialize() first"
  | .noResponse id => "timeout waiting for response to request " ++ Text.signedDecimal id

end Server

end CallExplorer
