/-
Blocks of rows.

The rows strictly below a row follow it without a gap, up to the next row that lies as high. In a
listing of a call graph they hang on two things only: the symbol that the row stands for, and the
levels that are left down to the limit. Where the row lies, what it was found from and which of
several names its item goes by does not show in them, except that their depths count from that of
the row and their identities end in its identity.

# Rows told from another row

So a block can be told without the row above it (`CallGraph.block`), with depths that count from
there and identities that stop short of it, and `Row.under` puts it in place. It is made from the
ways on from the symbol. That a node shows its block is `shown_eq_block`.

# Where a block ends

What is shown of a node is a derivation of its own, inside that of the whole listing, and what
follows it lies no deeper than the node (`Listed.cut`). That is an induction on the derivation,
and it makes the rows of the one derivation the block of the row.

# What this closes

`blocks_of_same_symbol`, for any two rows of one or two listings of a call graph in one direction,
to any two limits.
-/
import CallExplorer.Proofs.Graph.Converse
import CallExplorer.Proofs.Tree.Limits

namespace CallExplorer

open Call (Entry Leads goal)

variable {σ τ : Type} {calls : List Call} {d : Direction} {limit : Nat} {n : Node} {i j : Item}

-- ============================================ blocks

namespace Row

/-- The rows strictly below a row, of those that follow it. -/
def block (top : Row) (behind : List Row) : List Row := behind.takeWhile (top.depth < ·.depth)

/-- A row that was told from another one, in its place below that. -/
def under (top r : Row) : Row := { r with depth := top.depth + r.depth, id := r.id ++ top.id }

/-- A block ends where a row lies as high. -/
theorem block_append {top : Row} {below rest : List Row} (hbelow : ∀ r ∈ below, top.depth < r.depth)
    (hrest : ∀ r ∈ rest.head?, r.depth ≤ top.depth) : top.block (below ++ rest) = below := by
  have hdeeper : ∀ r ∈ below, decide (top.depth < r.depth) = true :=
    fun r hr => decide_eq_true (hbelow r hr)
  unfold block
  rw [List.takeWhile_append_of_pos hdeeper]
  cases rest with
  | nil => rw [List.takeWhile_nil, List.append_nil]
  | cons r rest =>
      have hhigh : ¬ top.depth < r.depth := Nat.not_lt.2 (hrest r rfl)
      rw [List.takeWhile_cons_of_neg (by simpa using hhigh), List.append_nil]

end Row

-- ============================================ ways on, told from where they begin

namespace CallGraph

section Beyond

variable (calls : List Call) (d : Direction)

/-- The identity of where calls lead to, as far as the node that they lead on from. -/
def idBeyond : List (Entry calls) → String
  | [] => ""
  | c :: cs => idBeyond cs ++ (((calls.get c).far d).mark d ++ "/")

/-- What there is to show of a call and others that lead on from it, told from the row that they
begin at. -/
def rowBeyond (c : Entry calls) (cs : List (Entry calls)) : Row :=
  let last := goal calls d ((calls.get c).far d) cs
  { depth := cs.length + 1
    id := idBeyond calls d (c :: cs)
    label := last.label
    spoken := last.spokenLabel d
    locations := (c :: cs).getLast?.map fun b => (calls.get b).places }

/-- What there is to show below a row of an item, so many levels at most. -/
def block : (levels : Nat) → Item → List Row
  | 0, _ => []
  | levels + 1, i =>
    (onward calls d i).flatMap fun c =>
      (below calls d levels ((calls.get c).far d)).map (rowBeyond calls d c)

end Beyond

/-- The same calls lead on from items of one symbol. -/
theorem onward_congr (h : i.sameSymbol j) : onward calls d i = onward calls d j := by
  have hsame : ∀ k : Item, k.sameSymbol i = k.sameSymbol j := by
    intro k
    rw [Item.sameSymbol_iff] at h
    rw [Item.sameSymbol, Item.sameSymbol, h.1, h.2]
  unfold onward
  simp only [hsame]

/-- So the same is shown below them. -/
theorem block_congr (h : i.sameSymbol j) (levels : Nat) :
    block calls d levels i = block calls d levels j := by
  cases levels with
  | zero => rfl
  | succ levels => rw [block, block, onward_congr h]

theorem identity_along (n : Node) (cs : List (Entry calls)) :
    (n.along calls d cs).identity d = idBeyond calls d cs ++ n.identity d := by
  induction cs generalizing n with
  | nil => exact (String.empty_append).symm
  | cons c cs ih =>
      have hparent : (n.via d (calls.get c)).parent = some n := rfl
      rw [Node.along, ih, Node.identity_of_parent hparent, idBeyond]
      simp only [String.append_assoc]
      rfl

theorem locations_along {cs : List (Entry calls)} (hleads : Leads calls d n.item cs)
    (hcs : cs ≠ []) :
    (n.along calls d cs).locations = cs.getLast?.map fun c => (calls.get c).places := by
  rcases List.eq_nil_or_concat cs with rfl | ⟨cs, c, rfl⟩
  · exact absurd rfl hcs
  · rw [List.concat_eq_append] at hleads ⊢
    have hnear := (Call.leads_concat.1 hleads).2
    rw [Node.along_concat, Node.locations_via (by rw [Node.item_along]; exact hnear)]
    simp

/-- What a chain of calls leads to is shown as told, in its place. -/
theorem row_beyond {c : Entry calls} {cs : List (Entry calls)}
    (hleads : Leads calls d n.item (c :: cs)) :
    Row.ofNode d (n.along calls d (c :: cs)) = (Row.ofNode d n).under (rowBeyond calls d c cs) := by
  have hitem : (n.along calls d (c :: cs)).item = goal calls d ((calls.get c).far d) cs :=
    Node.item_along n (c :: cs)
  rw [Row.ofNode, Node.depth_along, identity_along, hitem,
    locations_along hleads (List.cons_ne_nil c cs)]
  rfl

/-- A node shows its row, and then the block of its symbol. -/
theorem shown_eq_block (g : CallGraph) (limit : Nat) (n : Node) :
    shown g.answer d limit n.depth n
      = Row.ofNode d n :: (block g.calls d (limit - n.depth) n.item).map (Row.ofNode d n).under := by
  rw [shown_eq_below]
  cases limit - n.depth with
  | zero => rfl
  | succ levels =>
      rw [below, block, List.map_cons, List.map_flatMap, List.map_flatMap]
      refine congrArg _ (List.flatMap_congr fun c hc => ?_)
      rw [List.map_map, List.map_map]
      refine List.map_congr_left fun cs hcs => ?_
      exact row_beyond ⟨mem_onward.1 hc, (mem_below.1 hcs).1⟩

end CallGraph

-- ============================================ derivations inside others

section Cutting

variable {siblings shown before behind : List Node} {asked : List Exchange}

/-- Something in a list made of two stands in the one or in the other. -/
theorem append_eq_append_cons {α : Type} {xs ys before behind : List α} {x : α}
    (h : xs ++ ys = before ++ x :: behind) :
    (∃ more, xs = before ++ x :: more ∧ behind = more ++ ys)
      ∨ ∃ more, before = xs ++ more ∧ ys = more ++ x :: behind := by
  rcases List.append_eq_append_iff.1 h with hsecond | ⟨more, hxs, hrest⟩
  · exact .inr hsecond
  · cases more with
    | nil => exact .inr ⟨[], by rw [hxs, List.append_nil, List.append_nil], hrest.symm⟩
    | cons y more =>
        obtain ⟨rfl, hbehind⟩ := List.cons.inj hrest
        exact .inl ⟨more, hxs, hbehind⟩

theorem Listed.head?_eq (h : Listed d limit siblings shown asked) : shown.head? = siblings.head? := by
  cases h with
  | nil => rfl
  | leaf hdepth hbehind => rfl
  | inner hdepth hbelow hbehind => rfl

/-- Each node that is shown is followed by what is shown below it, and then by nodes that lie no
deeper, if by any. -/
theorem Listed.cut {k : Nat} (h : Listed d limit siblings shown asked)
    (hlevel : ∀ m ∈ siblings, m.depth = k) (hparts : shown = before ++ n :: behind) :
    ∃ below rest fewer, behind = below ++ rest ∧ Listed d limit [n] (n :: below) fewer
      ∧ fewer ⊆ asked ∧ (∀ m ∈ below, n.depth < m.depth) ∧ ∀ m ∈ rest.head?, m.depth ≤ n.depth := by
  induction h generalizing k before n behind with
  | nil => simp at hparts
  | @leaf first others shown asked hdepth hbehind ih =>
      rw [List.forall_mem_cons] at hlevel
      cases before with
      | nil =>
          obtain ⟨rfl, rfl⟩ := List.cons.inj hparts
          refine ⟨[], shown, [], rfl, .leaf hdepth .nil, List.nil_subset _, by simp, ?_⟩
          intro m hm
          rw [hbehind.head?_eq] at hm
          have := hlevel.2 m (List.mem_of_mem_head? hm)
          omega
      | cons m before => exact ih hlevel.2 (List.cons.inj hparts).2
  | @inner first links others below shown asked askedBehind hdepth hbelow hbehind ihBelow ihBehind =>
      rw [List.forall_mem_cons] at hlevel
      have hkids : ∀ m ∈ Node.sorted (first.children d links), m.depth = first.depth + 1 :=
        fun m hm => Node.depth_of_mem_kids hm
      have hhead : ∀ m ∈ shown.head?, m.depth = k := by
        intro m hm
        rw [hbehind.head?_eq] at hm
        exact hlevel.2 m (List.mem_of_mem_head? hm)
      cases before with
      | nil =>
          obtain ⟨rfl, rfl⟩ := List.cons.inj hparts
          have hlisted := Listed.inner hdepth hbelow .nil
          rw [List.append_nil, List.append_nil] at hlisted
          refine ⟨below, shown, _, rfl, hlisted, ?_, hbelow.lt_depth, ?_⟩
          · exact List.cons_subset_cons _ (List.subset_append_left _ _)
          · intro m hm
            have := hhead m hm
            omega
      | cons m before =>
          rcases append_eq_append_cons (List.cons.inj hparts).2 with
            ⟨more, hinside, rfl⟩ | ⟨more, -, hbehind'⟩
          · -- below the first one, where what follows ends at the latest with the next sibling
            obtain ⟨inside, rest, fewer, rfl, hlisted, hfewer, hlt, hle⟩ := ihBelow hkids hinside
            refine ⟨inside, rest ++ shown, fewer, List.append_assoc _ _ _, hlisted, ?_, hlt, ?_⟩
            · exact fun x hx => List.mem_cons_of_mem _ (List.mem_append_left _ (hfewer hx))
            · intro m hm
              cases rest with
              | cons m' rest => exact hle m hm
              | nil =>
                  have := hhead m hm
                  have := hbelow.lt_depth n (by rw [hinside]; simp)
                  omega
          · obtain ⟨inside, rest, fewer, hparts', hlisted, hfewer, hlt, hle⟩ :=
              ihBehind hlevel.2 hbehind'
            refine ⟨inside, rest, fewer, hparts', hlisted, fun x hx => ?_, hlt, hle⟩
            exact List.mem_cons_of_mem _ (List.mem_append_right _ (hfewer hx))

end Cutting

-- ============================================ listings of call graphs

namespace CallGraph

/-- What is shown below a node, by a derivation that has the answers of a call graph, is the block
of its symbol. -/
theorem below_eq_block (g : CallGraph) {below : List Node} {asked : List Exchange}
    (h : Listed d limit [n] (n :: below) asked) (hasked : Truthful g.answer asked) :
    below.map (Row.ofNode d)
      = (block g.calls d (limit - n.depth) n.item).map (Row.ofNode d n).under := by
  have hlevel : ∀ m ∈ [n], m.depth = n.depth := fun m hm => by rw [List.mem_singleton.1 hm]
  have hgiven := exchanges_of_truthful g.provider_answers hasked ()
  have hderived := (Provider.visitAll_of_listed h hlevel hgiven).1
  have hvisit : ∀ m (t : Unit), (g.provider.visit d limit n.depth m t).result
      = .ok (shown g.answer d limit n.depth m) :=
    visit_eq_shown g.provider_answers (fun m => ⟨_, g.answer_question d m⟩) n.depth
  have hall := visitAll_eq_flatMap hvisit [n] ()
  rw [hderived, List.flatMap_singleton, shown_eq_block] at hall
  exact (List.cons.inj (Except.ok.inj hall)).2

/-- In a listing the rows below a row are the block of its symbol, in its place. -/
theorem block_of_rows (g : CallGraph) {s : σ} {rows before behind : List Row}
    (h : (g.provider.rows d limit s).result = .ok rows)
    (hparts : rows = before ++ Row.ofNode d n :: behind) :
    (Row.ofNode d n).block behind
      = (block g.calls d (limit - n.depth) n.item).map (Row.ofNode d n).under := by
  rw [(g.provider.rows_eq d limit s).1] at h
  obtain ⟨shown, hlisted, rfl⟩ := listed_unfolding h
  obtain ⟨nodesBefore, _, hshown, -, hrest⟩ := List.map_eq_append_iff.1 hparts
  obtain ⟨m, nodesBehind, rfl, hrow, rfl⟩ := List.map_eq_cons_iff.1 hrest
  -- the row tells the depth of the node that is shown, and its symbol
  have hdepth : m.depth = n.depth := congrArg Row.depth hrow
  have hsymbol : m.item.sameSymbol n.item := by
    rw [← standsFor_ofNode d m, hrow, standsFor_ofNode, Item.sameSymbol_iff]
    exact ⟨rfl, rfl⟩
  obtain ⟨below, rest, fewer, rfl, hinside, hfewer, hlt, hle⟩ :=
    hlisted.cut (fun _ => Node.depth_of_mem_roots) hshown
  have hasked : Truthful g.answer fewer := fun x hx =>
    truthful_unfolding g.provider_answers d limit s x (hfewer hx)
  rw [← hrow, ← hdepth, ← block_congr hsymbol, ← g.below_eq_block hinside hasked, List.map_append]
  apply Row.block_append
  · exact List.forall_mem_map.2 hlt
  · rw [List.head?_map]
    intro r hr
    obtain ⟨m', hm', rfl⟩ := Option.mem_map.1 hr
    exact hle m' hm'

end CallGraph

/-- What is shown below a row of a call graph hangs on its symbol and on the levels left, and on
nothing else. Take two listings in one direction, to any limits and from any states, the same one
or not. Let a row of the one and a row of the other be those of nodes whose items agree in document
and range, with as many levels left below them. The rows strictly below the one are those strictly
below the other, in the same order: both are one block, with depths counted from the row and with
the identity of the row at the end of each identity. -/
theorem blocks_of_same_symbol (g : CallGraph) (d : Direction) (limit limit' : Nat) (s : σ) (t : τ) :
    ∃ rows rows', (g.provider.rows d limit s).result = .ok rows
      ∧ (g.provider.rows d limit' t).result = .ok rows'
      ∧ ∀ before n behind before' n' behind',
        rows = before ++ Row.ofNode d n :: behind →
        rows' = before' ++ Row.ofNode d n' :: behind' →
        n.item.uri = n'.item.uri → n.item.range = n'.item.range →
        limit - n.depth = limit' - n'.depth →
        ∃ block : List Row,
          (Row.ofNode d n).block behind = block.map (Row.ofNode d n).under
            ∧ (Row.ofNode d n').block behind' = block.map (Row.ofNode d n').under := by
  refine ⟨_, _, g.rows_eq d limit s, g.rows_eq d limit' t, ?_⟩
  intro before n behind before' n' behind' hparts hparts' huri hrange hlevels
  have hsymbol : n.item.sameSymbol n'.item := Item.sameSymbol_iff.2 ⟨huri, hrange⟩
  refine ⟨CallGraph.block g.calls d (limit - n.depth) n.item, ?_, ?_⟩
  · exact g.block_of_rows (g.rows_eq d limit s) hparts
  · rw [hlevels, CallGraph.block_congr hsymbol]
    exact g.block_of_rows (g.rows_eq d limit' t) hparts'

end CallExplorer
