/-
Sorting siblings.

The order of siblings compares three things one after the other, so it is an order as far as it
tells nodes apart, and the sort is the stable one. Sorting puts a further node behind those that
must stand before it and in front of all others, and leaves these as they were (`sorted_cons`).
So nodes that are left out of a list are left out of the sorted list, and nothing else changes
(`sorted_sublist`).
-/
import CallExplorer.Tree.Order

namespace CallExplorer

namespace Node

/-- The order of siblings compares document, line and character, one after the other. -/
theorem order_eq : order
    = compareLex (compareOn (·.item.uri.text))
        (compareLex (compareOn (·.item.range.start.line))
          (compareOn (·.item.range.start.character))) := rfl

/-- So it is an order in the first place. -/
instance : Std.TransCmp order :=
  order_eq ▸ inferInstance

theorem inOrder_trans (a b c : Node) (hab : inOrder a b = true) (hbc : inOrder b c = true) :
    inOrder a c = true :=
  Std.TransCmp.isLE_trans hab hbc

theorem inOrder_total (a b : Node) : (inOrder a b || inOrder b a) = true := by
  rw [Bool.or_eq_true]
  cases h : order a b with
  | lt | eq => exact .inl (congrArg Ordering.isLE h)
  | gt =>
      have hba : order b a = .lt := Std.OrientedCmp.lt_of_gt h
      exact .inr (congrArg Ordering.isLE hba)

/-- The order leaves two nodes as they are if their items agree in document and start, and only
then. -/
theorem order_eq_eq_iff {a b : Node} : order a b = .eq
    ↔ a.item.uri.text = b.item.uri.text ∧ a.item.range.start = b.item.range.start := by
  rw [order, Item.order, Position.order, Ordering.then_eq_eq, Ordering.then_eq_eq,
    Std.compare_eq_iff_eq, Std.compare_eq_iff_eq, Std.compare_eq_iff_eq]
  refine and_congr_right fun _ => ?_
  cases a.item.range.start
  cases b.item.range.start
  rw [Position.mk.injEq]

/-- Sorting only moves things. -/
theorem sortedOn_perm {α : Type} (node : α → Node) (xs : List α) : (sortedOn node xs).Perm xs :=
  List.mergeSort_perm xs _

theorem sorted_perm (ns : List Node) : (sorted ns).Perm ns := sortedOn_perm id ns

/-- Things that stand for nodes are sorted as these are. -/
theorem sorted_map {α : Type} (node : α → Node) (xs : List α) :
    sorted (xs.map node) = (sortedOn node xs).map node := by
  rw [sorted, sortedOn, sortedOn]
  symm
  exact List.map_mergeSort (f := node) fun _ _ _ _ => rfl

/-- Sorted nodes stand in order. -/
theorem pairwise_sorted (ns : List Node) : (sorted ns).Pairwise (inOrder · ·) :=
  List.pairwise_mergeSort inOrder_trans inOrder_total ns

-- ============================================ one node more

/-- A further node parts those that must stand before it from those that may stand behind it. -/
theorem sorted_cons (n : Node) (ns : List Node) :
    sorted ns = (sorted ns).filter (!inOrder n ·) ++ (sorted ns).filter (inOrder n ·)
      ∧ sorted (n :: ns)
        = (sorted ns).filter (!inOrder n ·) ++ n :: (sorted ns).filter (inOrder n ·) := by
  obtain ⟨before, behind, hcons, hrest, hbefore⟩ :=
    List.mergeSort_cons inOrder_trans inOrder_total n ns
  have hsorted : sorted (n :: ns) = before ++ n :: behind := hcons
  have hrest : sorted ns = before ++ behind := hrest
  have hbehind : ∀ m ∈ behind, inOrder n m = true := by
    have hpairs := pairwise_sorted (n :: ns)
    rw [hsorted] at hpairs
    exact (List.pairwise_cons.1 (List.pairwise_append.1 hpairs).2.1).1
  -- so the two parts are what the node tells apart
  have hlow : (sorted ns).filter (!inOrder n ·) = before := by
    have hnone : behind.filter (!inOrder n ·) = [] := by simpa using hbehind
    rw [hrest, List.filter_append, List.filter_eq_self.2 hbefore, hnone, List.append_nil]
  have hhigh : (sorted ns).filter (inOrder n ·) = behind := by
    have hnone : before.filter (inOrder n ·) = [] := by simpa using hbefore
    rw [hrest, List.filter_append, hnone, List.filter_eq_self.2 hbehind, List.nil_append]
  rw [hlow, hhigh]
  exact ⟨hrest, hsorted⟩

/-- Leaving nodes out and sorting go together. -/
theorem sorted_sublist {ns ns' : List Node} (h : ns.Sublist ns') :
    (sorted ns).Sublist (sorted ns') := by
  induction h with
  | slnil => exact List.Sublist.refl _
  | @cons _ ns' n _ ih =>
      obtain ⟨hparts, hsorted⟩ := sorted_cons n ns'
      rw [hparts] at ih
      rw [hsorted]
      exact ih.middle n
  | @cons_cons ns ns' n _ ih =>
      rw [(sorted_cons n ns).2, (sorted_cons n ns').2]
      exact (ih.filter _).append ((ih.filter _).cons_cons n)

end Node

end CallExplorer
