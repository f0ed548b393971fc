/-
Rows with one identity.

A symbol is shown as often as there are ways to it, so the same item may stand in many rows. The
identity of a row holds the whole way, level by level, and two ways that part do so at two
siblings. So identities can only clash where two siblings stand for one symbol, that is, where
two roots or two links of one answer agree in document and range.

# Both directions

Siblings of one symbol are both shown (`Listed.siblings_sublist`), and each of them is one step
away from the same parent, so their places agree.

The other way round, what is shown below a sibling has the places of the sibling for its last ones
(`Listed.exists_suffix`). Siblings lie at one depth, so places that agree below two siblings agree
in the siblings as well (`Listed.ne_places`); and what lies below a node has more places than the
node.

# What this closes

`nodup_ids_iff`, for every provider and every limit.
-/
import Mathlib.Data.List.Permutation
import CallExplorer.Proofs.Graph.Converse
import CallExplorer.Proofs.Tree.Listed

namespace CallExplorer

variable {σ : Type} {d : Direction} {limit : Nat} {siblings rest shown behind : List Node}
  {asked askedBehind : List Exchange} {n : Node}

-- ============================================ places

namespace Node

/-- In one direction identities are as good as places. -/
theorem identity_inj {a b : Node} : a.identity d = b.identity d ↔ a.places = b.places := by
  rw [identity_eq, identity_eq]
  constructor
  · intro h
    have hbytes := congrArg Text.bytes h
    obtain ⟨p, ps, ha⟩ := List.exists_cons_of_ne_nil a.places_ne_nil
    obtain ⟨q, qs, hb⟩ := List.exists_cons_of_ne_nil b.places_ne_nil
    rw [ha, hb, Place.bytes_levels, Place.bytes_levels] at hbytes
    rw [ha, hb]
    exact (Place.levels_cancel hbytes).2
  · intro h
    rw [h]

theorem length_places (n : Node) : n.places.length = n.depth + 1 := by
  have := List.length_pos_iff.2 n.ancestors_ne_nil
  rw [places, List.length_map, depth]
  omega

theorem places_of_mem_children {c : Node} {links : List Link} (h : c ∈ n.children d links) :
    c.places = .ofItem c.item :: n.places := by
  obtain ⟨l, -, rfl⟩ := List.mem_map.1 h
  rfl

/-- No two of the nodes have the same places. -/
def Distinct (ns : List Node) : Prop := ns.Pairwise fun a b => a.places ≠ b.places

theorem distinct_sorted {ns : List Node} : Distinct (sorted ns) ↔ Distinct ns :=
  (sorted_perm ns).pairwise_iff fun h => h.symm

/-- Children are distinct if no two links lead to one symbol. -/
theorem distinct_children {links : List Link} :
    Distinct (n.children d links) ↔ links.Pairwise fun l m => ¬ l.item.sameSymbol m.item := by
  rw [Distinct, children, List.pairwise_map]
  refine List.Pairwise.iff fun l m => not_congr ?_
  rw [Item.sameSymbol_iff_place]
  exact List.cons_eq_cons.trans (and_iff_left rfl)

/-- Roots are distinct if no two of them are one symbol. -/
theorem distinct_roots {roots : List Item} :
    Distinct (roots.map root) ↔ roots.Pairwise fun i j => ¬ i.sameSymbol j := by
  rw [Distinct, List.pairwise_map]
  refine List.Pairwise.iff fun i j => not_congr ?_
  rw [Item.sameSymbol_iff_place]
  exact List.cons_eq_cons.trans (and_iff_left rfl)

end Node

-- ============================================ answers

/-- In none of the answers there are two links to one symbol. -/
def TellApart (asked : List Exchange) : Prop :=
  ∀ x ∈ asked, ∀ links, x.answer = .ok links →
    links.Pairwise fun l m => ¬ l.item.sameSymbol m.item

theorem tellApart_nil : TellApart [] := by
  intro x hx
  cases hx

theorem tellApart_cons {links : List Link} {q : Query} :
    TellApart (⟨q, .ok links⟩ :: asked)
      ↔ (links.Pairwise fun l m => ¬ l.item.sameSymbol m.item) ∧ TellApart asked := by
  rw [TellApart, List.forall_mem_cons]
  refine and_congr_left fun _ => ?_
  constructor
  · exact fun h => h links rfl
  · rintro h links' hlinks
    injection hlinks with hlinks
    rwa [← hlinks]

theorem tellApart_append :
    TellApart (asked ++ askedBehind) ↔ TellApart asked ∧ TellApart askedBehind :=
  List.forall_mem_append

-- ============================================ all siblings are shown

/-- Siblings are shown in their order, with other nodes in between. -/
theorem Listed.siblings_sublist (h : Listed d limit siblings shown asked) :
    siblings.Sublist shown := by
  induction h with
  | nil => exact .slnil
  | leaf hdepth hbehind ih => exact ih.cons_cons _
  | inner hdepth hbelow hbehind ihBelow ihBehind =>
      exact (ihBehind.trans (List.sublist_append_right _ _)).cons_cons _

/-- If all that is shown is distinct, so are the siblings everywhere. -/
theorem Listed.tellApart (h : Listed d limit siblings shown asked) (hshown : Node.Distinct shown) :
    TellApart asked := by
  induction h with
  | nil => exact tellApart_nil
  | leaf hdepth hbehind ih => exact ih (List.pairwise_cons.1 hshown).2
  | @inner n links rest below behind asked askedBehind hdepth hbelow hbehind ihBelow ihBehind =>
      obtain ⟨hdistinctBelow, hdistinctBehind, -⟩ :=
        List.pairwise_append.1 (List.pairwise_cons.1 hshown).2
      rw [tellApart_cons, tellApart_append]
      refine ⟨?_, ihBelow hdistinctBelow, ihBehind hdistinctBehind⟩
      have hkids : Node.Distinct (Node.sorted (n.children d links)) :=
        hdistinctBelow.sublist hbelow.siblings_sublist
      exact Node.distinct_children.1 (Node.distinct_sorted.1 hkids)

-- ============================================ ways part at siblings

/-- Whatever is shown ends, on its way up, with the places of a sibling. -/
theorem Listed.exists_suffix (h : Listed d limit siblings shown asked) :
    ∀ m ∈ shown, ∃ n ∈ siblings, n.places <:+ m.places := by
  refine h.all (fun m c links hm _ hc => ?_) fun n hn => ⟨n, hn, List.suffix_refl _⟩
  obtain ⟨n, hn, hsuffix⟩ := hm
  rw [Node.places_of_mem_children hc]
  exact ⟨n, hn, hsuffix.trans (List.suffix_cons _ _)⟩

/-- What stands below a sibling, or is one, differs from all that is shown of the others. -/
theorem Listed.ne_places {k : Nat} (hbehind : Listed d limit rest behind asked)
    (hlevel : ∀ m ∈ n :: rest, m.depth = k) (hdistinct : Node.Distinct (n :: rest))
    {m m' : Node} (hm : n.places <:+ m.places) (hm' : m' ∈ behind) : m.places ≠ m'.places := by
  rw [List.forall_mem_cons] at hlevel
  obtain ⟨r, hr, hsuffix⟩ := hbehind.exists_suffix m' hm'
  have hlength : n.places.length = r.places.length := by
    rw [n.length_places, r.length_places, hlevel.1, hlevel.2 r hr]
  intro heq
  rw [heq] at hm
  -- a list has only one end of a given length
  have hends := List.suffix_of_suffix_length_le hm hsuffix hlength.le
  exact (List.pairwise_cons.1 hdistinct).1 r hr (hends.eq_of_length hlength)

/-- If siblings are distinct everywhere, so is all that is shown. -/
theorem Listed.distinct {k : Nat} (h : Listed d limit siblings shown asked)
    (hlevel : ∀ n ∈ siblings, n.depth = k) (hsiblings : Node.Distinct siblings)
    (hasked : TellApart asked) : Node.Distinct shown := by
  induction h generalizing k with
  | nil => exact .nil
  | @leaf n rest behind asked hdepth hbehind ih =>
      have hlater : ∀ m ∈ behind, n.places ≠ m.places := fun m hm =>
        hbehind.ne_places hlevel hsiblings (List.suffix_refl _) hm
      rw [List.forall_mem_cons] at hlevel
      exact .cons hlater (ih hlevel.2 (List.pairwise_cons.1 hsiblings).2 hasked)
  | @inner n links rest below behind asked askedBehind hdepth hbelow hbehind ihBelow ihBehind =>
      rw [tellApart_cons, tellApart_append] at hasked
      obtain ⟨hlinks, haskedBelow, haskedBehind⟩ := hasked
      have hkids : Node.Distinct (Node.sorted (n.children d links)) :=
        Node.distinct_sorted.2 (Node.distinct_children.2 hlinks)
      have hkidsLevel : ∀ c ∈ Node.sorted (n.children d links), c.depth = n.depth + 1 :=
        fun c hc => Node.depth_of_mem_kids hc
      -- all that is shown below the node ends with its places
      have hends : ∀ m ∈ below, n.places <:+ m.places := by
        intro m hm
        obtain ⟨c, hc, hsuffix⟩ := hbelow.exists_suffix m hm
        rw [Node.places_of_mem_children (Node.mem_sorted.1 hc)] at hsuffix
        exact (List.suffix_cons _ _).trans hsuffix
      have hlater : ∀ m : Node, n.places <:+ m.places → ∀ m' ∈ behind, m.places ≠ m'.places :=
        fun m hm m' hm' => hbehind.ne_places hlevel hsiblings hm hm'
      have hdeeper : ∀ m ∈ below, n.places ≠ m.places := by
        intro m hm heq
        have hlength := congrArg List.length heq
        have := hbelow.lt_depth m hm
        rw [n.length_places, m.length_places] at hlength
        omega
      rw [List.forall_mem_cons] at hlevel
      refine .cons (List.forall_mem_append.2 ⟨hdeeper, hlater n (List.suffix_refl _)⟩) ?_
      refine List.pairwise_append.2 ⟨ihBelow hkidsLevel hkids haskedBelow, ?_, ?_⟩
      · exact ihBehind hlevel.2 (List.pairwise_cons.1 hsiblings).2 haskedBehind
      · exact fun m hm => hlater m (hends m hm)

-- ============================================ identities

/-- Whatever the provider is and whatever it keeps between questions, in a listing that succeeds
no two rows have one identity exactly if no two roots are one symbol, and no two links in any one
of the answers that were received lead to one symbol. -/
theorem nodup_ids_iff {p : Provider σ} {s : σ} {rows : List Row}
    (h : (p.rows d limit s).result = .ok rows) :
    (rows.map (·.id)).Nodup ↔
      (p.roots.Pairwise fun i j => ¬ i.sameSymbol j)
        ∧ ∀ x ∈ (p.recorded.rows d limit (s, [])).state.2, ∀ links, x.answer = .ok links →
            links.Pairwise fun l m => ¬ l.item.sameSymbol m.item := by
  obtain ⟨shown, hlisted, rfl⟩ := listed_of_rows h
  have hlevel : ∀ n ∈ Node.sorted (p.roots.map .root), n.depth = 0 :=
    fun n hn => Node.depth_of_mem_roots hn
  have hids : ((shown.map (Row.ofNode d)).map (·.id)).Nodup ↔ Node.Distinct shown := by
    rw [List.map_map, List.Nodup, List.pairwise_map]
    exact List.Pairwise.iff fun a b => not_congr Node.identity_inj
  rw [hids, ← Node.distinct_roots]
  constructor
  · intro hshown
    have hroots : Node.Distinct (Node.sorted (p.roots.map .root)) :=
      hshown.sublist hlisted.siblings_sublist
    exact ⟨Node.distinct_sorted.1 hroots, hlisted.tellApart hshown⟩
  · rintro ⟨hroots, hasked⟩
    exact hlisted.distinct hlevel (Node.distinct_sorted.2 hroots) hasked

/-- A function that calls itself in two places is shown twice below itself, under one identity. -/
theorem ids_of_recursive : ∃ g rows, Sample.recursive.graph = .ok g
    ∧ (g.provider.rows .outgoing 1 ()).result = .ok rows
    ∧ ¬ (rows.map (·.id)).Nodup
    ∧ ((rows.map (·.id)).Nodup ↔
        (g.roots.Pairwise fun i j => ¬ i.sameSymbol j)
          ∧ ∀ x ∈ (g.provider.recorded.rows .outgoing 1 ((), [])).state.2, ∀ links,
              x.answer = .ok links → links.Pairwise fun l m => ¬ l.item.sameSymbol m.item) := by
  obtain ⟨g, hg⟩ : ∃ g, Sample.recursive.graph = .ok g := ⟨⟨_, _⟩, rfl⟩
  have hclash : (g.provider.rows .outgoing 1 ()).result.map
      (fun rows => decide (rows.map (·.id)).Nodup) = .ok false := by
    injection hg with hg
    rw [← hg]
    cbv
  obtain ⟨rows, hrows, hnodup⟩ := ok_of_map hclash
  exact ⟨g, rows, hg, hrows, of_decide_eq_false hnodup, nodup_ids_iff hrows⟩

end CallExplorer
