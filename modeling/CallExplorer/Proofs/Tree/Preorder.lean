/-
Listings in preorder.

A list of nodes is in preorder if each of them stands behind its parent with nothing in between
but what lies below that parent too. Such a list can be read back from the depths alone: the parent
of a node is the nearest one before it that lies a level higher.

# How the invariant goes

`FoundBehind` says of a node where in the list its parent stands, and which answer it was found in.
All nodes that are shown, siblings apart, are found behind others (`Listed.foundBehind`). It does not
matter to that what stands further ahead, so in the induction only the children of the first node
need a thought: in front of them stands that node, and between them nothing but what lies deeper.

All else about depths follows without another induction. A list starts at depth 0 because nobody can
be found behind nobody, and a step leads at most one level down because the parent is not passed by.

The order of siblings is a second induction (`Listed.keepsOrder`). Looking back over nodes that lie
no higher, one comes to another sibling before one leaves the parent.

# What this closes

`rows_in_preorder`, for every provider and every limit.
-/
import Mathlib.Data.List.Chain
import Mathlib.Data.List.Permutation
import Mathlib.Data.String.Basic
import CallExplorer.Proofs.Graph.Walks
import CallExplorer.Proofs.Past
import CallExplorer.Proofs.Tree.Listed
import CallExplorer.Proofs.Tree.Sorting

namespace CallExplorer

open Provider (question)

variable {σ : Type} {d : Direction} {limit : Nat} {siblings rest shown behind : List Node}
  {asked askedAll : List Exchange} {n : Node}

-- ============================================ parents

/-- The node was found by a question about another one, which stands before it and is not followed
by any that lies as high. -/
def FoundBehind (d : Direction) (asked : List Exchange) (before : List Node) (n : Node) : Prop :=
  ∃ parent links, Since (· = parent) (·.depth ≤ parent.depth) before
    ∧ ⟨question d parent, .ok links⟩ ∈ asked ∧ n ∈ parent.children d links

/-- What stands further ahead and what else was asked does not matter. -/
theorem FoundBehind.mono {before : List Node} (h : FoundBehind d asked before n)
    (ahead : List Node) (hasked : asked ⊆ askedAll) :
    FoundBehind d askedAll (ahead ++ before) n := by
  obtain ⟨parent, links, hsince, hx, hn⟩ := h
  exact ⟨parent, links, since_append.2 (.inl hsince), hasked hx, hn⟩

/-- Nor does it matter to those that are shown behind a node and all that lies below it. -/
theorem foundBehind_behind
    (h : AtEach (fun before m => m ∈ rest ∨ FoundBehind d asked before m) behind)
    (ahead : List Node) (hasked : asked ⊆ askedAll) :
    AtEach (fun before m => m ∈ n :: rest ∨ FoundBehind d askedAll (ahead ++ before) m) behind := by
  refine h.imp fun before m hm => ?_
  rcases hm with hm | hm
  · exact .inl (List.mem_cons_of_mem n hm)
  · exact .inr (hm.mono ahead hasked)

/-- All that is shown, siblings apart, is found behind its parent. -/
theorem Listed.foundBehind (h : Listed d limit siblings shown asked) :
    AtEach (fun before n => n ∈ siblings ∨ FoundBehind d asked before n) shown := by
  induction h with
  | nil => exact atEach_nil
  | @leaf n rest behind asked hdepth hbehind ih =>
      rw [atEach_cons]
      exact ⟨.inl List.mem_cons_self, foundBehind_behind ih [n] fun x hx => hx⟩
  | @inner n links rest below behind asked askedBehind hdepth hbelow hbehind ihBelow ihBehind =>
      rw [atEach_cons, atEach_append]
      refine ⟨.inl List.mem_cons_self, ?_, foundBehind_behind ihBehind (n :: below) ?_⟩
      · intro before m after hparts
        right
        rcases ihBelow before m after hparts with hm | hm
        · -- a child: behind the node there is nothing but what lies deeper
          refine ⟨n, links, ⟨[], n, before, rfl, rfl, fun y hy => ?_⟩, List.mem_cons_self,
            Node.mem_sorted.1 hm⟩
          have := hbelow.lt_depth y (by rw [hparts]; exact List.mem_append_left _ hy)
          omega
        · exact hm.mono [n] fun x hx => List.mem_cons_of_mem _ (List.mem_append_left _ hx)
      · exact fun x hx => List.mem_cons_of_mem _ (List.mem_append_right _ hx)

theorem FoundBehind.depth_eq {before : List Node} (h : FoundBehind d asked before n) :
    ∃ parent ∈ before, n.depth = parent.depth + 1 := by
  obtain ⟨parent, links, hsince, -, hn⟩ := h
  obtain ⟨_, hmem, rfl⟩ := hsince.exists_mem
  exact ⟨_, hmem, Node.depth_of_mem_children hn⟩

-- ============================================ siblings

/-- An item does not come after another: it lies in a document that comes before, or in the same
one and starts on a line before, or on the same line and not to the right. -/
def Item.NotAfter (a b : Item) : Prop :=
  a.uri.text < b.uri.text ∨ a.uri.text = b.uri.text
    ∧ (a.range.start.line < b.range.start.line ∨ a.range.start.line = b.range.start.line
      ∧ a.range.start.character ≤ b.range.start.character)

theorem Node.inOrder_iff {a b : Node} : a.inOrder b = true ↔ a.item.NotAfter b.item := by
  rw [inOrder, order, Item.order, Position.order, Ordering.isLE_then_iff_or,
    Ordering.isLE_then_iff_or, compare_lt_iff_lt, compare_eq_iff_eq, Std.compare_eq_lt,
    Std.compare_eq_iff_eq, Std.isLE_compare]
  rfl

/-- Looking back from the node over those that lie no higher, one comes to no sibling that should
stand behind it. -/
def KeepsOrder (before : List Node) (n : Node) : Prop :=
  ∀ m, m.depth = n.depth → Since (· = m) (·.depth < n.depth) before → m.inOrder n = true

/-- Siblings that follow a node and all that lies below it keep the order, if they keep it among
themselves. -/
theorem keepsOrder_behind {k : Nat} (hn : n.depth = k) (hlevel : ∀ m ∈ rest, m.depth = k)
    (below : List Node) (hbelow : ∀ m ∈ below, n.depth < m.depth)
    (horder : ∀ m ∈ rest, n.inOrder m = true) (hbehind : Listed d limit rest behind asked)
    (h : AtEach KeepsOrder behind) :
    AtEach (fun before m => KeepsOrder (n :: below ++ before) m) behind := by
  intro before m after hparts other hdepth hsince
  rcases since_append.1 hsince with hsince | ⟨hhigher, hsince⟩
  · exact h before m after hparts other hdepth hsince
  · -- one looks back further than the first of these siblings, so the node is one of them
    rcases hbehind.foundBehind before m after hparts with hm | hm
    · obtain ⟨_, hmem, rfl⟩ := hsince.exists_mem
      rcases List.mem_cons.1 hmem with rfl | hmem
      · exact horder m hm
      · have := hbelow _ hmem
        have := hlevel m hm
        omega
    · obtain ⟨parent, hparent, hchild⟩ := hm.depth_eq
      have := hhigher parent hparent
      omega

/-- Siblings in order are shown in order, and so are all others. -/
theorem Listed.keepsOrder {k : Nat} (h : Listed d limit siblings shown asked)
    (hlevel : ∀ n ∈ siblings, n.depth = k) (hsorted : siblings.Pairwise (Node.inOrder · ·)) :
    AtEach KeepsOrder shown := by
  induction h generalizing k with
  | nil => exact atEach_nil
  | @leaf n rest behind asked hdepth hbehind ih =>
      rw [List.forall_mem_cons] at hlevel
      rw [List.pairwise_cons] at hsorted
      rw [atEach_cons]
      refine ⟨fun m _ hsince => absurd hsince not_since_nil, ?_⟩
      exact keepsOrder_behind hlevel.1 hlevel.2 [] (by simp) hsorted.1 hbehind
        (ih hlevel.2 hsorted.2)
  | @inner n links rest below behind asked askedBehind hdepth hbelow hbehind ihBelow ihBehind =>
      rw [List.forall_mem_cons] at hlevel
      rw [List.pairwise_cons] at hsorted
      rw [atEach_cons, atEach_append]
      refine ⟨fun m _ hsince => absurd hsince not_since_nil, ?_, ?_⟩
      · have hkids : ∀ c ∈ Node.sorted (n.children d links), c.depth = n.depth + 1 :=
          fun c hc => Node.depth_of_mem_children (Node.mem_sorted.1 hc)
        intro before m after hparts other hother hsince
        rw [← List.singleton_append, since_append] at hsince
        rcases hsince with hsince | ⟨-, hsince⟩
        · exact ihBelow hkids (Node.pairwise_sorted _) before m after hparts other hother hsince
        · -- the node itself lies higher than all that is below it
          obtain rfl := since_singleton.1 hsince
          have := hbelow.lt_depth m (by rw [hparts]; simp)
          omega
      · exact keepsOrder_behind hlevel.1 hlevel.2 below hbelow.lt_depth hsorted.1 hbehind
          (ihBehind hlevel.2 hsorted.2)

-- ============================================ rows

/-- Rows in preorder, and the nodes that they show. There are call sites exactly if a row does not
lie at depth 0. Below that, the identity of a row is its own level and then the identity of the
nearest row before it that lies one level higher. Siblings do not come after those that follow
them. -/
structure InPreorder (d : Direction) (limit : Nat) (shown : List Node) (rows : List Row) :
    Prop where
  rows_eq : rows = shown.map (Row.ofNode d)
  starts : ∀ r ∈ rows.head?, r.depth = 0
  steps : rows.IsChain fun r next => next.depth ≤ r.depth + 1
  limited : ∀ r ∈ rows, r.depth ≤ limit
  sites : ∀ r ∈ rows, r.locations = none ↔ r.depth = 0
  identities : AtEach (fun before n => 0 < n.depth → ∃ parent, parent.depth + 1 = n.depth
    ∧ Since (· = parent) (·.depth ≤ parent.depth) before
    ∧ (Row.ofNode d n).id = n.item.mark d ++ "/" ++ (Row.ofNode d parent).id) shown
  siblings : AtEach (fun before n => ∀ m, m.depth = n.depth →
    Since (· = m) (·.depth < n.depth) before → m.item.NotAfter n.item) shown

section Nested

variable (h : AtEach (fun before n => n.depth = 0 ∨ FoundBehind d asked before n) shown)
include h

/-- Nobody is found behind nobody. -/
theorem depth_head (n : Node) (hn : n ∈ shown.head?) : n.depth = 0 := by
  obtain ⟨others, rfl⟩ := List.head?_eq_some_iff.1 hn
  rcases h [] n others rfl with hroot | hfound
  · exact hroot
  · obtain ⟨parent, hmem, -⟩ := hfound.depth_eq
    cases hmem

/-- A node that follows another is found behind it or behind one that is no deeper. -/
theorem isChain_depth : shown.IsChain fun n next => next.depth ≤ n.depth + 1 := by
  rw [List.isChain_iff_forall_rel_of_append_cons_cons]
  intro n next before after hparts
  have hnext := h (before ++ [n]) next after (by rw [hparts, List.append_assoc]; rfl)
  rcases hnext with hroot | ⟨parent, links, hsince, -, hchild⟩
  · omega
  · have := Node.depth_of_mem_children hchild
    rcases since_concat.1 hsince with rfl | ⟨hdeeper, -⟩ <;> omega

end Nested

/-- Whatever the provider is and whatever it keeps between questions, a listing that succeeds is in
preorder. The nodes it shows are no others than they should be: at depth 0 there are roots that the
provider names, and below that each node is an entry of what the provider answered about the node it
stands below. -/
theorem rows_in_preorder {p : Provider σ} {s : σ} {rows : List Row}
    (h : (p.rows d limit s).result = .ok rows) :
    ∃ shown, InPreorder d limit shown rows
      ∧ (∀ n ∈ shown, n.depth = 0 → ∃ i ∈ p.roots, n = .root i)
      ∧ AtEach (fun before n => 0 < n.depth →
          FoundBehind d (p.recorded.rows d limit (s, [])).state.2 before n) shown := by
  obtain ⟨shown, hlisted, rfl⟩ := listed_of_rows h
  have hlevel : ∀ n ∈ Node.sorted (p.roots.map .root), n.depth = 0 := by
    intro n hn
    obtain ⟨i, -, rfl⟩ := Node.exists_root hn
    rfl
  have hfound := hlisted.foundBehind
  have hnested := hfound.imp fun before n => Or.imp_left (hlevel n)
  have hbelow := hnested.imp fun before n hn (hdepth : 0 < n.depth) => hn.resolve_left hdepth.ne'
  refine ⟨shown, ?_, ?_, hbelow⟩
  · constructor
    case rows_eq => rfl
    case starts =>
      intro r hr
      rw [List.head?_map, Option.mem_map] at hr
      obtain ⟨n, hn, rfl⟩ := hr
      exact depth_head hnested n hn
    case steps =>
      rw [List.isChain_map]
      exact isChain_depth hnested
    case limited =>
      rw [List.forall_mem_map]
      exact hlisted.depth_le fun n hn => by rw [hlevel n hn]; omega
    case sites =>
      rw [List.forall_mem_map]
      intro n _
      exact Node.locations_eq_none_iff.trans Node.depth_eq_zero_iff.symm
    case identities =>
      refine hbelow.imp fun before n hn hdepth => ?_
      obtain ⟨parent, links, hsince, -, hchild⟩ := hn hdepth
      exact ⟨parent, (Node.depth_of_mem_children hchild).symm, hsince,
        Node.identity_of_parent (Node.parent_of_mem_children hchild) d⟩
    case siblings =>
      have horder := hlisted.keepsOrder hlevel (Node.pairwise_sorted _)
      exact horder.imp fun before n hn m hm hsince => Node.inOrder_iff.1 (hn m hm hsince)
  · intro n hn hdepth
    obtain ⟨before, after, hparts⟩ := List.append_of_mem hn
    rcases hfound before n after hparts with hroot | hchild
    · exact Node.exists_root hroot
    · obtain ⟨parent, -, hparent⟩ := hchild.depth_eq
      omega

/-- The callers of a function that calls itself in two places. -/
theorem preorder_of_recursive : ∃ g rows, Sample.recursive.graph = .ok g
    ∧ (g.provider.rows .incoming 2 ()).result = .ok rows
    ∧ rows.map (·.depth) = [0, 1, 2, 2, 1, 2, 2]
    ∧ ∃ shown, InPreorder .incoming 2 shown rows
      ∧ (∀ n ∈ shown, n.depth = 0 → ∃ i ∈ g.roots, n = .root i)
      ∧ AtEach (fun before n => 0 < n.depth →
          FoundBehind .incoming (g.provider.recorded.rows .incoming 2 ((), [])).state.2 before n)
          shown := by
  obtain ⟨g, hg⟩ : ∃ g, Sample.recursive.graph = .ok g := ⟨⟨_, _⟩, rfl⟩
  have hdepths : (g.provider.rows .incoming 2 ()).result.map (·.map (·.depth))
      = .ok [0, 1, 2, 2, 1, 2, 2] := by
    injection hg with hg
    rw [← hg]
    cbv
  obtain ⟨rows, hrows, hmap⟩ := ok_of_map hdepths
  exact ⟨g, rows, hg, hrows, hmap, rows_in_preorder hrows⟩

end CallExplorer
