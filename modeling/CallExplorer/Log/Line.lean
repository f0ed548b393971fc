/-
Lines of the log.

A compact line is for people: level, message and fields. Texts stand between
quotes, so that one sees where they end. The other format is a JSON object that
holds the fields next to level, target and message, and the time.
-/
import CallExplorer.Json.Printer
import CallExplorer.Log.Event
import CallExplorer.Text.Quoted

namespace CallExplorer

/-- The format of the log. -/
inductive LogFormat where
  | json
  | compact
  deriving DecidableEq, Repr

namespace LogFormat

/-- Logs are for people unless told otherwise. -/
instance : Inhabited LogFormat := ⟨.compact⟩

/-- The name of a format. -/
def name : LogFormat → String
  | .json => "json"
  | .compact => "compact"

/-- The format a name stands for, in any case. -/
def ofName? (name : String) : Option LogFormat :=
  if Text.eqIgnoreCase name "json" then some .json
  else if Text.eqIgnoreCase name "compact" then some .compact
  else none

end LogFormat

namespace FieldValue

/-- A value on a compact line. -/
def compact : FieldValue → String
  | .number n => Text.signedDecimal n
  | .text s => Text.quoted s
  | .shown s => s

/-- A value as a value. -/
def json : FieldValue → Json
  | .number n => .int n
  | .text s => .text s
  | .shown s => .text s

end FieldValue

namespace Event

/-- The level of an event, five characters wide. -/
def paddedLevel (e : Event) : String :=
  String.ofList (List.replicate (5 - e.level.name.length) ' ') ++ e.level.name

/-- An event for people. -/
def compactLine (e : Event) : String :=
  e.paddedLevel ++ " " ++ e.message
    ++ String.join (e.fields.map fun f => " " ++ f.1 ++ "=" ++ f.2.compact)

/-- An event for collectors, with the time it was logged. -/
def jsonLine (e : Event) (time : Json) : Json :=
  .object <|
    [("timestamp", time), ("level", .text e.level.name), ("message", .text e.message)]
    ++ e.fields.map (fun f => (f.1, f.2.json)) ++ [("target", .text e.target)]

end Event

end CallExplorer
