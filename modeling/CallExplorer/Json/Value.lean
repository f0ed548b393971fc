/-
JSON values.

Opaque data travels through the explorer untouched, messages are built and taken
apart as values. An integer and a number with a fraction are different things
here, as they are in every text this library reads or writes. A value that was
read has the members of its objects in the order of their keys.
-/
import CallExplorer.Json.Double

namespace CallExplorer

/-- A JSON value. -/
inductive Json where
  | null
  | bool (b : Bool)
  | int (n : Int)
  | float (x : Double)
  | text (s : String)
  | array (items : List Json)
  | object (members : List (String × Json))
  deriving Inhabited

namespace Json

/-- Puts a member where its key belongs among members ordered by key; a member with
the same key is replaced. -/
def insert {α : Type} (key : String) (value : α) : List (String × α) → List (String × α)
  | [] => [(key, value)]
  | (k, v) :: rest =>
    if key < k then (key, value) :: (k, v) :: rest
    else if key = k then (key, value) :: rest
    else (k, v) :: insert key value rest

/-- An object with the members in the order of their keys; of members with one key
the last counts. -/
def ofMembers (members : List (String × Json)) : Json :=
  .object (members.foldl (fun ms m => insert m.1 m.2 ms) [])

/-- The member with the given key. -/
def get? : Json → String → Option Json
  | .object members, key => (members.find? (·.1 == key)).map (·.2)
  | _, _ => none

/-- A member that is left out when there is no value. -/
def optional (key : String) (value : Option Json) : List (String × Json) :=
  (value.map (key, ·)).toList

/-- A value, or `null` in place of none. -/
def orNull : Option Json → Json
  | some v => v
  | none => .null

end Json

end CallExplorer
