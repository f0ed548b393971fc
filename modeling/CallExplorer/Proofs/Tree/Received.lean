/-
Trees of symbols that were received.

A symbol comes back over the wire with other data than it had (`Item.received`). Nothing that a
tree shows lies in the data: rows, children and the order of siblings are the same, and a call
graph that is asked about such a symbol finds the same calls.
-/
import CallExplorer.Graph.Basic
import CallExplorer.Proofs.Symbol.Wire
import CallExplorer.Tree.Order
import CallExplorer.Tree.Row

namespace CallExplorer

/-- A call graph cannot tell a symbol from the one received. -/
theorem CallGraph.links_received (g : CallGraph) (d : Direction) (i : Item) :
    g.links d i.received = g.links d i := rfl

/-- Symbols that are written alike have the same links. -/
theorem CallGraph.links_of_json (g : CallGraph) (d : Direction) {i j : Item} (h : i.json = j.json) :
    g.links d i = g.links d j := by
  have hreceived : Except.ok (ε := DecodeError) i.received = .ok j.received := by
    rw [← i.decode_json, ← j.decode_json, h]
  injection hreceived with hreceived
  rw [← g.links_received, hreceived, g.links_received]

namespace Node

/-- A node of symbols as they were received, from the node up to the root. -/
def received : Node → Node
  | .root item => .root item.received
  | .child item locations parent => .child item.received locations parent.received

@[simp] theorem item_received (n : Node) : n.received.item = n.item.received := by
  cases n with
  | root item => rfl
  | child item locations parent => rfl

@[simp] theorem locations_received (n : Node) : n.received.locations = n.locations := by
  cases n with
  | root item => rfl
  | child item locations parent => rfl

theorem ancestors_received (n : Node) : n.received.ancestors = n.ancestors.map received := by
  induction n with
  | root item => rfl
  | child item locations parent ih =>
      show Node.child item.received locations parent.received :: parent.received.ancestors = _
      rw [ih]
      rfl

/-- Identities are made from documents and ranges, which are received as they were sent. -/
theorem identity_received (d : Direction) (n : Node) :
    n.received.identity d = n.identity d := by
  have hmark : (fun a => a.item.mark d) ∘ received = fun a : Node => a.item.mark d := by
    funext a
    show a.received.item.mark d = a.item.mark d
    rw [item_received]
    rfl
  rw [identity, identity, ancestors_received, List.map_map, hmark]

/-- A received node has the row of the node. -/
theorem row_received (d : Direction) (n : Node) : Row.ofNode d n.received = Row.ofNode d n := by
  have hdepth : n.received.depth = n.depth := by
    rw [depth, depth, ancestors_received, List.length_map]
  rw [Row.ofNode, Row.ofNode, hdepth, identity_received, item_received, locations_received]
  rfl

/-- The links received lead from the node received to its children. -/
theorem children_received (d : Direction) (n : Node) (links : List Link) :
    n.received.children d (links.map Link.received) = (n.children d links).map received := by
  rw [children, children, List.map_map, List.map_map]
  refine List.map_congr_left fun l _ => ?_
  -- the call sites lie in the document of the caller, at whichever end that is
  have hsites : l.received.locations d n.received.item = l.locations d n.item := by
    rw [item_received]
    cases d with
    | outgoing => rfl
    | incoming => rfl
  show Node.child l.received.item (l.received.locations d n.received.item) n.received = _
  rw [hsites]
  rfl

/-- Siblings that were received stand as they did. -/
theorem sorted_received (ns : List Node) : sorted (ns.map received) = (sorted ns).map received := by
  rw [sorted, sorted, sortedOn, sortedOn]
  refine (List.map_mergeSort fun a _ b _ => ?_).symm
  simp only [id, inOrder, order, item_received]
  rfl

end Node

end CallExplorer
