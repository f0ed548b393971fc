/-
A client with prepared replies.

Hosts can be tried without a server: the replies to each kind of request stand in
a list of their own and are given one after the other. When a list is at its end,
every further reply is that there is none.
-/
import CallExplorer.Remote

namespace CallExplorer

/-- What a scripted client does when it is asked. -/
inductive ScriptedReply (α : Type) where
  | none
  | list (xs : List α)
  | failure (message cause : String)
  | crash

/-- What a scripted client was asked for. -/
inductive Request where
  | prepare (uri : Uri) (position : Position)
  | links (direction : Direction) (item : Item)

/-- A client with prepared replies. -/
structure ScriptedClient where
  roots : List (ScriptedReply Item)
  links : Direction → List (ScriptedReply Link)
  /-- What it was asked for, the last request first. -/
  asked : List Request := []

namespace ScriptedClient

/-- Gives a reply. -/
def give {α : Type} : Option (ScriptedReply α) → Except Failure (Option (List α))
  | some (.list xs) => .ok (some xs)
  | some (.failure message cause) => .error (.provider message (.text cause))
  | some .crash => .error .crashed
  | some .none => .ok none
  | none => .ok none

/-- Replies to a question for the symbols at a position. -/
def prepare (uri : Uri) (p : Position) :
    Action ScriptedClient Failure (Option (List Item)) :=
  Action.step fun c =>
    (give c.roots.head?, { c with roots := c.roots.tail, asked := .prepare uri p :: c.asked })

/-- Replies to a question for the calls of an item. -/
def answer (d : Direction) (i : Item) : Action ScriptedClient Failure (Option (List Link)) :=
  Action.step fun c =>
    (give (c.links d).head?,
     { c with
       links := fun e => if e = d then (c.links e).tail else c.links e
       asked := .links d i :: c.asked })

/-- A scripted client as access to call hierarchies. -/
def access : HierarchyClient ScriptedClient := ⟨prepare, answer⟩

end ScriptedClient

end CallExplorer
