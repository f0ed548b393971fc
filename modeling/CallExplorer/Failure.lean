/-
Why an exploration fails.

Failures reach the host as they arise; nothing on the way rewords them. Some have
a cause of their own, which says more than their message.
-/
import CallExplorer.Server.Failure
import CallExplorer.Uri.Path

namespace CallExplorer

/-- What is wrong with the text of a call graph. -/
inductive FixtureError where
  | malformed (e : JsonError)
  | unknownItem (key : String)
  deriving DecidableEq

/-- The complaint in words. -/
def FixtureError.message (e : FixtureError) (locate : Locate := .nowhere) : String :=
  match e with
  | .malformed e => e.message locate
  | .unknownItem key => "unknown item '" ++ key ++ "'"

/-- Why a provider failed. -/
inductive Cause where
  | server (f : Server.Failure)
  | text (s : String)
  deriving DecidableEq

/-- The cause in words. -/
def Cause.message : Cause → String
  | .server f => f.message
  | .text s => s

/-- Why an exploration fails. -/
inductive Failure where
  | provider (message : String) (cause : Cause)
  | symbolNotFound (path : String) (position : UInt32 × UInt32)
  | cancelled
  /-- An earlier request broke down while it held the client. -/
  | clientLost
  | fixture (e : FixtureError)
  | unreadable (path : String) (why : FileError)
  /-- A path has no URI. -/
  | noUri (e : Uri.PathError)
  /-- This request broke down while it held the client. -/
  | crashed
  deriving DecidableEq

namespace Failure

/-- A failure of the server as a failure of the exploration. -/
def ofServer (f : Server.Failure) : Failure := .provider "language server request failed" (.server f)

/-- The failure in words. -/
def message (f : Failure) (locate : Locate := .nowhere) : String :=
  match f with
  | .provider message _ => "call hierarchy provider failed: " ++ message
  | .symbolNotFound path (line, column) =>
    "no symbol found at " ++ path ++ ":" ++ Text.decimal line.toNat ++ ":"
      ++ Text.decimal column.toNat
  | .cancelled => "call hierarchy request was cancelled"
  | .clientLost => "call hierarchy client is unavailable after a failed request"
  | .fixture e => "invalid call graph fixture: " ++ e.message locate
  | .unreadable path _ => "IO error: failed to read " ++ path
  | .noUri (.notAbsolute path) => "IO error: failed to convert path to URI: " ++ path
  | .noUri (.malformed text) => "IO error: failed to parse URI: " ++ text
  | .crashed => "client panicked"

/-- What the system says behind a failure of input. -/
def systemMessage? : Failure → Option String
  | .unreadable _ why => some why.message
  | .noUri (.notAbsolute _) => some "path must be absolute"
  | .noUri (.malformed _) => some "invalid URI"
  | _ => none

end Failure

end CallExplorer
