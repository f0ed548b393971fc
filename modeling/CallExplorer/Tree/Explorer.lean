/-
Listing a tree.

An explorer knows the roots, the direction its session looks in, and how to ask
for the calls of an item. Asking may change its state, and the direction with it.
A listing starts with the roots and keeps a list of nodes still to be shown. It
shows the first of them, and unless that lies at the limit it asks for the calls
of its item and puts the children, sorted, in front of the others. So rows come in
preorder, and nothing is asked before the row it belongs to has been shown.

The listing ends although nothing bounds the number of children: each step takes
the first node away and puts in only nodes nearer to the limit.
-/
import CallExplorer.Action
import CallExplorer.Failure
import CallExplorer.Tree.Order
import CallExplorer.Tree.Row

namespace CallExplorer

/-- What a tree is grown from: over states `σ`, a source of calls and a session that
looks in some direction. -/
structure Explorer (σ : Type) where
  roots : List Item
  direction : σ → Direction
  resolve : Direction → Item → Action σ Failure (List Link)

namespace Explorer

variable {σ : Type}

/-- The nodes of the roots, as the source names them. -/
def rootNodes (e : Explorer σ) : List Node := e.roots.map .root

/-- Asks for the calls of an item in the direction of the session at that moment, which
comes with the answer. -/
def ask (e : Explorer σ) (i : Item) : Action σ Failure (Direction × List Link) := do
  let d := e.direction (← Action.get)
  let links ← e.resolve d i
  Action.note (.expandedCall d i.name links.length)
  pure (d, links)

/-- The direction is looked up once, before the source is asked. -/
theorem ask_eq (e : Explorer σ) (i : Item) (s : σ) :
    e.ask i s
      = (do
          let links ← e.resolve (e.direction s) i
          Action.note (.expandedCall (e.direction s) i.name links.length)
          pure (e.direction s, links)) s := rfl

theorem ask_of_error {e : Explorer σ} {i : Item} {s t : σ} {f : Failure} {events : List Event}
    (h : e.resolve (e.direction s) i s = ⟨.error f, events, t⟩) :
    e.ask i s = ⟨.error f, events, t⟩ :=
  (e.ask_eq i s).trans (Action.bind_of_error h)

theorem ask_of_ok {e : Explorer σ} {i : Item} {s t : σ} {links : List Link} {events : List Event}
    (h : e.resolve (e.direction s) i s = ⟨.ok links, events, t⟩) :
    e.ask i s
      = ⟨.ok (e.direction s, links),
          events ++ [.expandedCall (e.direction s) i.name links.length], t⟩ :=
  (e.ask_eq i s).trans (Action.bind_of_ok h)

/-- The children of a node, as the source names them. -/
def children (e : Explorer σ) (n : Node) : Action σ Failure (List Node) := do
  let (d, links) ← e.ask n.item
  pure (n.children d links)

/-- The children of a node as siblings. -/
def sortedChildren (e : Explorer σ) (n : Node) : Action σ Failure (List Node) := do
  let (d, links) ← e.ask n.item
  pure (Node.sorted (n.children d links))

/-- The row of a node, as the session looks at that moment. -/
def row (e : Explorer σ) (n : Node) : Action σ Failure Row := do
  pure (.ofNode (e.direction (← Action.get)) n)

-- ============================================ the end of a listing

/-- What a step of a listing does to the levels left below each pending node. -/
def Steps (after before : List Nat) : Prop :=
  ∃ n rest nearer, before = n :: rest ∧ after = nearer ++ rest ∧ ∀ k ∈ nearer, k < n

/-- A node can be worked off if all that follow it can. -/
theorem acc_cons (n : Nat) : ∀ {rest : List Nat}, Acc Steps rest → Acc Steps (n :: rest) := by
  induction n using Nat.strongRecOn with
  | _ n ih =>
    intro rest hrest
    refine ⟨_, ?_⟩
    rintro after ⟨_, _, nearer, h, rfl, hlt⟩
    cases h
    induction nearer with
    | nil => exact hrest
    | cons k ks ihks =>
      exact ih k (hlt k List.mem_cons_self) (ihks fun j hj => hlt j (List.mem_cons_of_mem k hj))

/-- Every listing ends. -/
theorem wellFounded_steps : WellFounded Steps := by
  refine ⟨fun ns => ?_⟩
  induction ns with
  | nil =>
    refine ⟨_, ?_⟩
    rintro _ ⟨_, _, _, h, -, -⟩
    cases h
  | cons n rest ih => exact acc_cons n ih

/-- The levels left below the pending nodes of a listing. -/
structure LevelsLeft where
  below : List Nat

/-- Listings go by steps. -/
instance listingOrder : WellFoundedRelation LevelsLeft :=
  ⟨InvImage Steps LevelsLeft.below, InvImage.wf _ wellFounded_steps⟩

/-- The levels left below nodes, given the limit. -/
def levelsLeft (limit : Nat) (ns : List Node) : List Nat := ns.map (limit - ·.depth)

/-- Showing a node without going deeper is a step. -/
theorem steps_drop (limit : Nat) (n : Node) (rest : List Node) :
    Steps (levelsLeft limit rest) (levelsLeft limit (n :: rest)) :=
  ⟨limit - n.depth, levelsLeft limit rest, [], rfl, rfl, by simp⟩

/-- Putting children in place of a node above the limit is a step. -/
theorem steps_children {limit : Nat} {n : Node} (h : n.depth < limit) (d : Direction)
    (links : List Link) (rest : List Node) :
    Steps (levelsLeft limit (Node.sorted (n.children d links) ++ rest))
      (levelsLeft limit (n :: rest)) := by
  refine ⟨limit - n.depth, levelsLeft limit rest, _, rfl, List.map_append, ?_⟩
  intro k hk
  obtain ⟨c, hc, rfl⟩ := List.mem_map.1 hk
  have := Node.depth_of_mem_children (Node.mem_sorted.1 hc)
  omega

-- ============================================ listings

/-- Shows pending nodes and all that lies below them, down to the limit. -/
def list (e : Explorer σ) (limit : Nat) : List Node → Action σ Failure (List Row)
  | [] => pure []
  | n :: rest => do
    let row ← e.row n
    if h : n.depth < limit then
      let (d, links) ← e.ask n.item
      have := steps_children h d links rest
      let rows ← e.list limit (Node.sorted (n.children d links) ++ rest)
      pure (row :: rows)
    else
      have := steps_drop limit n rest
      let rows ← e.list limit rest
      pure (row :: rows)
termination_by pending => LevelsLeft.mk (levelsLeft limit pending)

/-- The rows of the whole tree down to the limit. -/
def expand (e : Explorer σ) (limit : Nat) : Action σ Failure (List Row) := do
  let rows ← e.list limit (Node.sorted e.rootNodes)
  Action.note (.expandedTree rows.length limit)
  pure rows

end Explorer

end CallExplorer
