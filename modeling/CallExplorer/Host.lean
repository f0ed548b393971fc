/-
Hosts.

A host shows a tree and asks for more of it as it likes: for the roots, for the
children of a node, for the other direction. It numbers the nodes it gets in the
order it gets them, and remembers which of them each was found from. Nodes are
kept as the provider named them; a host that wants siblings in order sorts them.
-/
import CallExplorer.Provider
import CallExplorer.Tree.Explorer

namespace CallExplorer

/-- A provider in use: its state, and the direction the session looks in. -/
structure Session (σ : Type) where
  direction : Direction
  state : σ

/-- A provider as something that trees are grown from. -/
def Provider.explorer {σ : Type} (p : Provider σ) : Explorer (Session σ) where
  roots := p.roots
  direction s := s.direction
  resolve d i :=
    Action.zoom Session.state (fun state s => { s with state := state })
      (p.resolve { direction := d, item := i })

/-- The rows of the whole tree down to the limit, as long as nobody turns around. -/
def Provider.rows {σ : Type} (p : Provider σ) (d : Direction) (limit : Nat) :
    Action σ Failure (List Row) := fun s =>
  let o := p.explorer.expand limit ⟨d, s⟩
  ⟨o.result, o.events, o.state.state⟩

/-- Any node may turn out to have children; only asking for them tells. -/
def Node.mayHaveChildren (_ : Node) : Bool := true

/-- A node that a host holds, with the number of the node it was found from. -/
structure HeldNode where
  node : Node
  source : Option Nat

/-- A host: the session, and the nodes it got so far by number. -/
structure Host (σ : Type) where
  session : Session σ
  nodes : List HeldNode := []

namespace Host

variable {σ : Type}

/-- The node with the given number. -/
def node? (h : Host σ) (number : Nat) : Option HeldNode := h.nodes[number]?

/-- Puts new nodes behind the others. -/
def hold (nodes : List Node) (source : Option Nat) (h : Host σ) : Host σ :=
  { h with nodes := h.nodes ++ nodes.map fun n => ⟨n, source⟩ }

/-- Acts on the session. -/
def inSession {α : Type} (x : Action (Session σ) Failure α) : Action (Host σ) Failure α :=
  Action.zoom Host.session (fun session h => { h with session := session }) x

/-- Asks for the roots. -/
def roots (p : Provider σ) : Action (Host σ) Failure (List Node) := do
  let nodes := p.explorer.rootNodes
  Action.modify (hold nodes none)
  pure nodes

/-- Asks for the children of a node that the host holds under a number. -/
def children (p : Provider σ) (number : Nat) (n : Node) : Action (Host σ) Failure (List Node) := do
  let nodes ← inSession (p.explorer.children n)
  Action.modify (hold nodes (some number))
  pure nodes

/-- Looks in a direction. -/
def turn (d : Direction) : Action (Host σ) Failure Unit :=
  Action.modify fun h => { h with session := { h.session with direction := d } }

/-- Asks the provider itself, without leaving an event. -/
def resolve (p : Provider σ) (q : Query) : Action (Host σ) Failure (List Link) :=
  inSession <|
    Action.zoom Session.state (fun state s => { s with state := state }) (p.resolve q)

/-- The rows of the whole tree down to the limit. -/
def expand (p : Provider σ) (limit : Nat) : Action (Host σ) Failure (List Row) :=
  inSession (p.explorer.expand limit)

end Host

end CallExplorer
