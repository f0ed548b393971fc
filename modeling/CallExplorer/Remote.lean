/-
Providers behind a client.

Call hierarchies usually come from elsewhere, through a client. A client answers
with a list, with no list at all, which means the same as an empty one, or with a
failure. It serves one query at a time, and a query that breaks down while it
holds the client takes the client with it: from then on no query gets through.
Cancelled queries are turned away before they touch the client.
-/
import CallExplorer.Provider
import CallExplorer.Server.Client

namespace CallExplorer

/-- Access to call hierarchies, over clients `γ`. -/
structure HierarchyClient (γ : Type) where
  prepare : Uri → Position → Action γ Failure (Option (List Item))
  links : Direction → Item → Action γ Failure (Option (List Link))

/-- The client of a language server as access to call hierarchies. -/
def Server.Client.access : HierarchyClient Server.Client where
  prepare uri p := (Server.Client.prepare uri p).mapError Failure.ofServer
  links d i := (Server.Client.links d i).mapError Failure.ofServer

/-- A client that queries share. -/
structure Shared (γ : Type) where
  client : γ
  lost : Bool := false

namespace Shared

variable {γ : Type}

/-- Asks the client, which is lost if it breaks down. -/
def ask {α : Type} (x : Action γ Failure α) : Action (Shared γ) Failure α := fun s =>
  let o := x s.client
  let broke :=
    match o.result with
    | .error .crashed => true
    | _ => false
  ⟨o.result, o.events, ⟨o.state, s.lost || broke⟩⟩

/-- The calls that a query asks for. -/
def resolve (access : HierarchyClient γ) (q : Query) : Action (Shared γ) Failure (List Link) := do
  if q.cancelled then Action.fail .cancelled
  else if (← Action.get).lost then Action.fail .clientLost
  else
    let links ← ask (access.links q.direction q.item)
    pure (links.getD [])

/-- The client, when nobody needs to share it any more. -/
def reclaim (s : Shared γ) : Except Failure γ :=
  if s.lost then .error .clientLost else .ok s.client

/-- Shares a client for as long as an action takes. -/
def during {ε α : Type} (x : Action (Shared γ) ε α) : Action γ ε α := fun c =>
  let o := x { client := c }
  ⟨o.result, o.events, o.state.client⟩

/-- A shared client as a provider of calls. -/
def provider (access : HierarchyClient γ) (roots : List Item) : Provider (Shared γ) where
  roots := roots
  resolve := resolve access

end Shared

namespace HierarchyClient

variable {γ : Type}

/-- The symbols at a position of a file, of which there must be one at least. -/
def start (access : HierarchyClient γ) (path : String) (p : Position) :
    Action γ Failure (List Item) := do
  let uri ← Action.lift ((Uri.ofPath path).mapError .noUri)
  match (← access.prepare uri p).getD [] with
  | [] => Action.fail (.symbolNotFound path (p.line, p.character))
  | roots =>
    Action.note (.preparedHierarchy path roots.length)
    pure roots

end HierarchyClient

end CallExplorer
