/-
Nodes of a call tree.

A node shows an item in a place of the tree: as a root, or below the node whose
expansion found it, along with the call sites that were found. Nodes know their
parents but not their children, which are asked for when a host wants them.
-/
import CallExplorer.Symbol.Kind
import CallExplorer.Symbol.Link

namespace CallExplorer

/-- A node of a call tree. -/
inductive Node where
  | root (item : Item)
  | child (item : Item) (locations : List Location) (parent : Node)

namespace Node

/-- The item a node shows. -/
def item : Node → Item
  | .root item => item
  | .child item _ _ => item

/-- The call sites of a node; a root has none to speak of. -/
def locations : Node → Option (List Location)
  | .root _ => none
  | .child _ locations _ => some locations

/-- The node a node was found from. -/
def parent : Node → Option Node
  | .root _ => none
  | .child _ _ parent => some parent

/-- Whether a node has no parent. -/
def isRoot : Node → Bool
  | .root _ => true
  | .child .. => false

/-- A node, its parent and so on up to the root. -/
def ancestors : Node → List Node
  | .root item => [.root item]
  | .child item locations parent => .child item locations parent :: parent.ancestors

/-- The number of steps up to the root. -/
def depth (n : Node) : Nat := n.ancestors.length - 1

/-- The nodes of the links found when a node was expanded in a direction. -/
def children (n : Node) (d : Direction) (links : List Link) : List Node :=
  links.map fun l => .child l.item (l.locations d n.item) n

theorem ancestors_ne_nil (n : Node) : n.ancestors ≠ [] := by
  cases n <;> simp [ancestors]

@[simp] theorem depth_root (item : Item) : (root item).depth = 0 := rfl

@[simp] theorem depth_child (item : Item) (locations : List Location) (parent : Node) :
    (child item locations parent).depth = parent.depth + 1 := by
  have := List.length_pos_iff.2 parent.ancestors_ne_nil
  simp only [depth, ancestors, List.length_cons]
  omega

theorem depth_of_parent {n parent : Node} (h : n.parent = some parent) :
    n.depth = parent.depth + 1 := by
  cases n with
  | root item => cases h
  | child item locations parent' =>
    injection h with h
    subst h
    exact depth_child _ _ _

theorem ancestors_of_parent {n parent : Node} (h : n.parent = some parent) :
    n.ancestors = n :: parent.ancestors := by
  cases n with
  | root item => cases h
  | child item locations parent' =>
    injection h with h
    subst h
    rfl

theorem parent_of_mem_children {n c : Node} {d : Direction} {links : List Link}
    (h : c ∈ n.children d links) : c.parent = some n := by
  obtain ⟨l, -, rfl⟩ := List.mem_map.1 h
  rfl

/-- A child lies one level below its parent. -/
theorem depth_of_mem_children {n c : Node} {d : Direction} {links : List Link}
    (h : c ∈ n.children d links) : c.depth = n.depth + 1 :=
  depth_of_parent (parent_of_mem_children h)

-- ============================================ roots and others

theorem parent_eq_none_iff {n : Node} : n.parent = none ↔ n.isRoot = true := by
  cases n <;> simp [parent, isRoot]

theorem locations_eq_none_iff {n : Node} : n.locations = none ↔ n.isRoot = true := by
  cases n <;> simp [locations, isRoot]

theorem depth_eq_zero_iff {n : Node} : n.depth = 0 ↔ n.isRoot = true := by
  cases n <;> simp [isRoot]

-- ============================================ descriptions

/-- A text between quotes, or its absence. -/
def describeOption : Option String → String
  | none => "None"
  | some s => "Some(" ++ s ++ ")"

/-- What a node says of itself to people who look for faults. Call sites are only told
to be absent or none. -/
def describe (n : Node) : String :=
  "Call \x7b item: " ++ Text.quoted n.item.name ++ ", uri: " ++ Text.quoted n.item.uri.text
    ++ ", locations: " ++ describeOption (n.locations.map fun _ => "[]")
    ++ ", parent: " ++ describeOption (n.parent.map fun p => Text.quoted p.item.name)
    ++ ", .. \x7d"

end Node

end CallExplorer
