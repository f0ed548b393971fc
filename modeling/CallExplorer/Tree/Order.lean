/-
The order of siblings.

Siblings stand in the order of their documents, and within a document in the
order of where they start. Nodes that agree in both keep the order in which the
provider named them.
-/
import CallExplorer.Tree.Node

namespace CallExplorer

/-- How two positions follow each other. -/
def Position.order (a b : Position) : Ordering :=
  (compare a.line b.line).then (compare a.character b.character)

/-- How two items follow each other: by document, then by where they start. -/
def Item.order (a b : Item) : Ordering :=
  (compare a.uri.text b.uri.text).then (a.range.start.order b.range.start)

namespace Node

/-- How two nodes follow each other, which only their items decide. -/
def order (a b : Node) : Ordering := a.item.order b.item

/-- Whether a node may stand before another. -/
def inOrder (a b : Node) : Bool := (order a b).isLE

/-- Things that stand for nodes, in the order of these, and as given where that leaves it
open. -/
def sortedOn {α : Type} (node : α → Node) (xs : List α) : List α :=
  xs.mergeSort fun a b => inOrder (node a) (node b)

/-- Nodes as siblings. -/
def sorted (ns : List Node) : List Node := sortedOn id ns

/-- Sorting neither adds nor drops a node. -/
theorem mem_sorted {n : Node} {ns : List Node} : n ∈ sorted ns ↔ n ∈ ns :=
  List.mem_mergeSort

/-- Sorting keeps the number of nodes. -/
@[simp] theorem length_sorted (ns : List Node) : (sorted ns).length = ns.length :=
  List.length_mergeSort ns

end Node

end CallExplorer
