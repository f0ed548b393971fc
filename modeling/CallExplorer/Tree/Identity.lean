/-
Identities of nodes.

Nodes are built anew whenever their parent is expanded. Their identity outlives
them: it is made from direction, document and range of the node and of all its
ancestors, the node itself first.
-/
import CallExplorer.Json.Printer
import CallExplorer.Tree.Node

namespace CallExplorer

/-- A position as part of an identity. -/
def Position.mark (p : Position) : String :=
  Text.decimal p.line.toNat ++ ":" ++ Text.decimal p.character.toNat

/-- A range as part of an identity. -/
def Range.mark (r : Range) : String := r.start.mark ++ "-" ++ r.stop.mark

/-- An item as one level of an identity. -/
def Item.mark (d : Direction) (i : Item) : String :=
  d.tag ++ "|" ++ Json.escaped i.uri.text ++ "|" ++ i.range.mark

/-- The identity of a node while the session looks in a direction. -/
def Node.identity (d : Direction) (n : Node) : String :=
  "/".intercalate (n.ancestors.map fun a => a.item.mark d)

/-- The identity of a node continues with that of its parent. -/
theorem Node.identity_of_parent {n parent : Node} (h : n.parent = some parent) (d : Direction) :
    n.identity d = n.item.mark d ++ "/" ++ parent.identity d := by
  obtain ⟨first, others, hancestors⟩ := List.exists_cons_of_ne_nil parent.ancestors_ne_nil
  rw [identity, ancestors_of_parent h, identity, hancestors, List.map_cons, List.map_cons,
    String.intercalate_cons_cons]

end CallExplorer
