/-
The order of siblings and the sort that rests on it.

A library sorts siblings by a comparison of two nodes at a time. It is free to compare them in any
way it likes, and what it owes is a stable sort: the nodes it was given, in order, and as they stood
where the order leaves that open (`StableSort`). It owes that only to a comparison that hangs
together, and what comes out must not hang on how the library goes about it.

The first is a matter of the order alone. It compares the bytes of the documents and then where the
items start, so all laws of a total preorder hold of it. The second is uniqueness. The heads of two
stable sorts of the same nodes are not told apart by the order, and then they are the same node,
since both come first among those that the order does not tell apart from it
(`eq_of_ascending`).

# What this closes

`siblings_stably_sorted`, for all nodes and every explorer.
-/
import Mathlib.Data.String.Basic
import CallExplorer.Proofs.Text.ByteOrder
import CallExplorer.Proofs.Tree.Sorting
import CallExplorer.Tree.Explorer

namespace CallExplorer

/-- An item comes before another: the URI of its document has the lesser bytes, or it lies in the
same document and starts on a line before, or on the same line to the left. -/
def Item.Precedes (a b : Item) : Prop :=
  Text.bytes a.uri.text < Text.bytes b.uri.text ∨ a.uri.text = b.uri.text
    ∧ (a.range.start.line < b.range.start.line ∨ a.range.start.line = b.range.start.line
      ∧ a.range.start.character < b.range.start.character)

namespace Node

theorem order_eq_lt_iff {a b : Node} : order a b = .lt ↔ a.item.Precedes b.item := by
  rw [order, Item.order, Position.order, Ordering.then_eq_lt, Ordering.then_eq_lt,
    compare_lt_iff_lt, Text.lt_iff_bytes_lt, Std.compare_eq_iff_eq, Std.compare_eq_lt,
    Std.compare_eq_iff_eq, Std.compare_eq_lt]
  rfl

-- ============================================ stable sorts

/-- A list of nodes is a stable sort of another: it has the same nodes, none of them stands before
one that it must follow, and those that the order does not tell apart from any node stand as they
did. -/
structure StableSort (ns sorted : List Node) : Prop where
  perm : sorted.Perm ns
  ascending : sorted.Pairwise fun a b => (order a b).isLE
  stable : ∀ n, sorted.filter (order n · = .eq) = ns.filter (order n · = .eq)

/-- The order tells no two nodes apart that it does not tell apart from a third. -/
theorem pairwise_same (n : Node) (ns : List Node) :
    (ns.filter (order n · = .eq)).Pairwise (inOrder · ·) := by
  refine List.pairwise_of_forall_mem_list fun a ha b hb => ?_
  have hna := of_decide_eq_true (List.mem_filter.1 ha).2
  have hnb := of_decide_eq_true (List.mem_filter.1 hb).2
  rw [inOrder, ← Std.TransCmp.congr_left hna, hnb]
  rfl

theorem stableSort_sorted (ns : List Node) : StableSort ns (sorted ns) := by
  refine ⟨sorted_perm ns, pairwise_sorted ns, fun n => ?_⟩
  have hpart : (ns.filter (order n · = .eq)).Sublist (sorted ns) :=
    List.sublist_mergeSort inOrder_trans inOrder_total (pairwise_same n ns) List.filter_sublist
  have hsame : (ns.filter (order n · = .eq)).Sublist ((sorted ns).filter (order n · = .eq)) := by
    simpa only [List.filter_filter, Bool.and_self] using hpart.filter (order n · = .eq)
  exact (hsame.eq_of_length ((sorted_perm ns).filter _).length_eq.symm).symm

/-- All that is sorted stays in order behind the first node. -/
theorem isLE_head {a b : Node} {ns : List Node}
    (h : (a :: ns).Pairwise fun a b => (order a b).isLE) (hb : b ∈ a :: ns) :
    (order a b).isLE := by
  rcases List.mem_cons.1 hb with rfl | hb
  · exact Std.ReflCmp.isLE_rfl
  · exact (List.pairwise_cons.1 h).1 b hb

/-- Nodes in order are what they are by which nodes there are, and by how those stand that the
order does not tell apart. -/
theorem eq_of_ascending {ms ms' : List Node} (hperm : ms.Perm ms')
    (hms : ms.Pairwise fun a b => (order a b).isLE)
    (hms' : ms'.Pairwise fun a b => (order a b).isLE)
    (hsame : ∀ n, ms.filter (order n · = .eq) = ms'.filter (order n · = .eq)) : ms = ms' := by
  induction ms generalizing ms' with
  | nil => exact hperm.nil_eq
  | cons a ms ih =>
      cases ms' with
      | nil => exact hperm.eq_nil
      | cons b ms' =>
          have hab : order a b = .eq :=
            Std.OrientedCmp.isLE_antisymm
              (isLE_head hms (hperm.mem_iff.2 List.mem_cons_self))
              (isLE_head hms' (hperm.mem_iff.1 List.mem_cons_self))
          -- both are the first of their kind
          obtain rfl : a = b := by
            have haa : order a a = .eq := Std.ReflCmp.compare_self
            have hheads := hsame a
            rw [List.filter_cons_of_pos (by simpa using haa),
              List.filter_cons_of_pos (by simpa using hab)] at hheads
            exact (List.cons.inj hheads).1
          have hbehind : ∀ n, ms.filter (order n · = .eq) = ms'.filter (order n · = .eq) := by
            intro n
            have hn := hsame n
            rw [List.filter_cons, List.filter_cons] at hn
            split at hn
            · exact (List.cons.inj hn).2
            · exact hn
          rw [ih hperm.cons_inv hms.tail hms'.tail hbehind]

/-- So there is no other stable sort than the one that is used. -/
theorem stableSort_iff {ns ms : List Node} : StableSort ns ms ↔ ms = sorted ns := by
  have hsorted := stableSort_sorted ns
  constructor
  · intro h
    exact eq_of_ascending (h.perm.trans hsorted.perm.symm) h.ascending hsorted.ascending
      fun n => (h.stable n).trans (hsorted.stable n).symm
  · rintro rfl
    exact hsorted

end Node

-- ============================================ siblings

/-- Siblings are the children that the source names, sorted; or there are none, because the source
failed. -/
theorem Explorer.sortedChildren_result {σ : Type} (e : Explorer σ) (n : Node) (s : σ) :
    (e.sortedChildren n s).result
      = (e.resolve (e.direction s) n.item s).result.map fun links =>
          Node.sorted (n.children (e.direction s) links) := by
  cases hresolve : e.resolve (e.direction s) n.item s with
  | mk answer events t =>
      cases answer with
      | error f =>
          rw [sortedChildren, Action.bind_of_error (ask_of_error hresolve)]
          rfl
      | ok links =>
          rw [sortedChildren, Action.bind_of_ok (ask_of_ok hresolve)]
          rfl

open Node (order) in
/-- The order of siblings is a total preorder on all nodes. It compares the documents byte by byte,
then where the items start, and the other way round it says the opposite. It is transitive; nodes
that it does not tell apart compare alike with every third one; and it does not tell two nodes apart
exactly if the URIs of their documents are the same text and their ranges start at the same point,
whatever else there is to the nodes. So there is one stable sort of a list of nodes and no other.
The roots are sorted so, and the children of a node, by whatever source of calls they are named. If
that fails, its failure is all there is. -/
theorem siblings_stably_sorted :
    (∀ a b : Node, (order a b = .lt ↔ a.item.Precedes b.item) ∧ order b a = (order a b).swap)
      ∧ (∀ a b c : Node, (order a b).isLE → (order b c).isLE → (order a c).isLE)
      ∧ (∀ a b : Node, order a b = .eq → ∀ c, order a c = order b c ∧ order c a = order c b)
      ∧ (∀ a b : Node, order a b = .eq
          ↔ a.item.uri.text = b.item.uri.text ∧ a.item.range.start = b.item.range.start)
      ∧ (∀ ns ms : List Node, Node.StableSort ns ms ↔ ms = Node.sorted ns)
      ∧ ∀ {σ : Type} (e : Explorer σ), Node.StableSort e.rootNodes (Node.sorted e.rootNodes)
          ∧ ∀ n s, match (e.resolve (e.direction s) n.item s).result with
            | .ok links => ∃ kids, (e.sortedChildren n s).result = .ok kids
                ∧ Node.StableSort (n.children (e.direction s) links) kids
            | .error f => (e.sortedChildren n s).result = .error f := by
  refine ⟨fun a b => ⟨Node.order_eq_lt_iff, Std.OrientedCmp.eq_swap⟩,
    fun a b c => Std.TransCmp.isLE_trans, fun a b hab c => ?congruent,
    fun a b => Node.order_eq_eq_iff, fun ns ms => Node.stableSort_iff, fun e => ?sources⟩
  case congruent => exact ⟨Std.TransCmp.congr_left hab, Std.TransCmp.congr_right hab⟩
  case sources =>
    refine ⟨Node.stableSort_sorted _, fun n s => ?_⟩
    have hresult := e.sortedChildren_result n s
    cases hanswer : (e.resolve (e.direction s) n.item s).result with
    | error f => rw [hresult, hanswer]; rfl
    | ok links =>
        rw [hanswer] at hresult
        exact ⟨_, hresult, Node.stableSort_sorted _⟩

end CallExplorer
