/-
Call graphs.

A call graph is a list of calls and the items to start from. It answers every
query from what it holds: asked about an item it finds the calls of the same
symbol, in the order of the list, and the symbol at the other end of each.
-/
import CallExplorer.Provider

namespace CallExplorer

/-- A call, with the call sites in the document of the caller. -/
structure Call where
  caller : Item
  callee : Item
  sites : List Range

namespace Call

/-- The end of a call that a query in a direction starts from. -/
def near (d : Direction) (c : Call) : Item :=
  match d with
  | .outgoing => c.caller
  | .incoming => c.callee

/-- The end of a call that a query in a direction leads to. -/
def far (d : Direction) (c : Call) : Item :=
  match d with
  | .outgoing => c.callee
  | .incoming => c.caller

/-- A call as the answer to a query. -/
def link (d : Direction) (c : Call) : Link := ⟨c.far d, c.sites⟩

end Call

/-- A fixed set of calls with items to start from. -/
structure CallGraph where
  roots : List Item
  calls : List Call

namespace CallGraph

/-- The calls of an item in a direction, seen from it. -/
def links (g : CallGraph) (d : Direction) (i : Item) : List Link :=
  (g.calls.filter fun c => (c.near d).sameSymbol i).map (Call.link d)

/-- What holds of both ends of all calls holds of what any item is linked to. -/
theorem of_mem_links {g : CallGraph} {P : Item → Prop}
    (h : ∀ c ∈ g.calls, P c.caller ∧ P c.callee) {d : Direction} {i : Item} {l : Link}
    (hl : l ∈ g.links d i) : P l.item := by
  obtain ⟨c, hc, rfl⟩ := List.mem_map.1 hl
  have hboth := h c (List.mem_filter.1 hc).1
  cases d with
  | outgoing => exact hboth.2
  | incoming => exact hboth.1

/-- A call graph as a provider that keeps nothing in mind. -/
def provider {σ : Type} (g : CallGraph) : Provider σ where
  roots := g.roots
  resolve q := if q.cancelled then Action.fail .cancelled else pure (g.links q.direction q.item)

end CallGraph

end CallExplorer
