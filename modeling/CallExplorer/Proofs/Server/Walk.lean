/-
Walking through a server over what it has from a call graph.

The client of a walk never sees the call graph: every symbol is written and read on its way
there and back, every answer has to be found in the stream, and which answer comes next hangs on
all that was asked before. Still the walk shows what the call graph shows.

# How the walk is followed

The provider of the walk is a shared client. `Ready` is what holds of it between two questions:
it is not lost, its session is open, and it is on track. Each question keeps that and brings the
links of the graph (`resolve_ready`). So a visit of a node received shows what the graph shows
for the node (`visit_received`), by induction on the levels left. All this rests on what is said
being part of what will be said, and a visit is part of the whole because nothing that was said
is ever taken back (`saidBefore_visit`).
-/
import CallExplorer.Proofs.Graph.Listing
import CallExplorer.Proofs.Server.Session
import CallExplorer.Proofs.Tree.Received

namespace CallExplorer

open Provider (question)

namespace Server

namespace Client

variable {reads : Decoder Introduction} {g : CallGraph} {final : List Transmission}
  {roots : List Item}

-- ============================================ one question

/-- What holds of a shared client between two questions. -/
structure Ready (reads : Decoder Introduction) (g : CallGraph) (final : List Transmission)
    (s : Shared Client) : Prop where
  held : s.lost = false
  opened : s.client.initialised = true
  track : OnTrack reads g final s.client

/-- The client of a later state said all that the client of an earlier one did. -/
def SaidBefore (s t : Shared Client) : Prop := s.client.sent <:+ t.client.sent

theorem saidBefore_refl (s : Shared Client) : SaidBefore s s := List.suffix_refl s.client.sent

theorem saidBefore_trans (s t u : Shared Client) (hst : SaidBefore s t) (htu : SaidBefore t u) :
    SaidBefore s u :=
  List.IsSuffix.trans hst htu

/-- A question only adds to what was sent. -/
theorem saidBefore_resolve (q : Query) (s : Shared Client) :
    SaidBefore s (Shared.resolve access q s).state := by
  obtain ⟨d, i, cancelled⟩ := q
  obtain ⟨client, lost⟩ := s
  cases cancelled with
  | true => exact saidBefore_refl _
  | false =>
      cases lost with
      | true => exact saidBefore_refl _
      | false =>
          rw [(Shared.resolve_of_held rfl rfl).state]
          exact grows_links d i client

/-- A client as the provider of a walk, whatever roots it received. -/
def walker (roots : List Item) : Provider (Shared Client) := Shared.provider access roots

/-- The question about a node received is answered with the links that the call graph has for
the node, and the client is ready for the next one. -/
theorem resolve_ready (roots : List Item) (d : Direction) {n : Node} (hn : n.item.Whole)
    {s : Shared Client} (hs : Ready reads g final s)
    (hsaid : ((walker roots).resolve (question d n.received) s).state.client.sent <:+ final) :
    ((walker roots).resolve (question d n.received) s).result
        = .ok ((g.links d n.item).map Link.received)
      ∧ Ready reads g final ((walker roots).resolve (question d n.received) s).state := by
  obtain ⟨hresult, hstate⟩ :=
    Shared.resolve_of_held (q := question d n.received) rfl hs.held
  have hresolve : (walker roots).resolve (question d n.received)
      = Shared.resolve access (question d n.received) := rfl
  rw [hresolve, hstate] at hsaid ⊢
  have hitem : (question d n.received).item = n.item.received := n.item_received
  rw [hresult, hitem]
  rw [hitem] at hsaid
  obtain ⟨answer, hanswer, ⟨hlinks, hopened⟩, htrack⟩ :=
    (succeeds_links d hn.received).mapError CallExplorer.Failure.ofServer s.client hs.track
      hs.opened hsaid
  have hgiven : (access.links d n.item.received s.client).result = .ok answer := hanswer
  refine ⟨?_, ?_, hopened, htrack⟩
  · show (access.links d n.item.received s.client).result.map _ = _
    rw [hgiven, ← g.links_received, ← hlinks]
    rfl
  · show (s.lost || _) = false
    rw [hs.held]
    simp only [question, hgiven, Bool.or_self]

/-- A question with the answer that comes next. -/
theorem resolve_answered {c : Client} (h : c.obstacle = none) (hopen : c.initialised = true)
    (roots : List Item) (d : Direction) (n : Node) {result : Json} {said : List UInt8}
    {stream : List Arrival} {answer : Option (List Link)}
    (hincoming : c.incoming = arrivals said ++ stream) (hanswered : Answered c.nextId result said)
    (hdecode : decodeValue (.option (.list (Link.decoder d))) result.normal = .ok answer) :
    ((walker roots).resolve (question d n) { client := c }).result = .ok (answer.getD [])
      ∧ ((walker roots).resolve (question d n) { client := c }).state
        = { client := c.answered (linksMethod d) (some (linksParams n.item)) stream } := by
  obtain ⟨hresult, hstate⟩ :=
    Shared.resolve_of_held (q := question d n) (s := { client := c }) rfl rfl
  obtain ⟨events, hlinks⟩ := request_in_session h hopen (linksMethod d)
    (some (linksParams n.item)) hincoming hanswered hdecode
  have haccess : access.links d n.item c
      = ⟨.ok answer, events, c.answered (linksMethod d) (some (linksParams n.item)) stream⟩ :=
    Action.mapError_of_ok hlinks _
  have hasked : access.links (question d n).direction (question d n).item c = _ := haccess
  have hresolve : (walker roots).resolve (question d n)
      = Shared.resolve access (question d n) := rfl
  rw [hresolve, hresult, hstate, Shared.ask, hasked]
  exact ⟨rfl, rfl⟩

-- ============================================ the walk

/-- A visit only adds to what was sent. -/
theorem saidBefore_visit (roots : List Item) (d : Direction) (limit depth : Nat) (n : Node)
    (s : Shared Client) : SaidBefore s ((walker roots).visit d limit depth n s).state :=
  Provider.visit_keeps saidBefore_refl saidBefore_trans saidBefore_resolve depth n s

theorem saidBefore_visitAll (roots : List Item) (d : Direction) (limit depth : Nat)
    (ns : List Node) (s : Shared Client) :
    SaidBefore s (visitAll ((walker roots).visit d limit depth) ns s).state :=
  visitAll_keeps saidBefore_refl saidBefore_trans (saidBefore_visit roots d limit depth) ns s

/-- A visit of the node received shows what the call graph shows for the node, and leaves the
client ready. -/
def Follows (reads : Decoder Introduction) (g : CallGraph) (final : List Transmission)
    (roots : List Item) (d : Direction) (limit depth : Nat) (n : Node) : Prop :=
  ∀ s, Ready reads g final s →
    ((walker roots).visit d limit depth n.received s).state.client.sent <:+ final →
    ((walker roots).visit d limit depth n.received s).result = .ok (shown g.answer d limit depth n)
      ∧ Ready reads g final ((walker roots).visit d limit depth n.received s).state

/-- Then visits in a row show what the nodes show. -/
theorem visitAll_received {d : Direction} {limit depth : Nat} {ns : List Node}
    (hvisit : ∀ n ∈ ns, Follows reads g final roots d limit depth n) {s : Shared Client}
    (hs : Ready reads g final s)
    (hsaid :
      (visitAll ((walker roots).visit d limit depth) (ns.map Node.received) s).state.client.sent
        <:+ final) :
    (visitAll ((walker roots).visit d limit depth) (ns.map Node.received) s).result
        = .ok (ns.flatMap (shown g.answer d limit depth))
      ∧ Ready reads g final
        (visitAll ((walker roots).visit d limit depth) (ns.map Node.received) s).state := by
  induction ns generalizing s with
  | nil => exact ⟨rfl, hs⟩
  | cons n rest ih =>
      have hn := hvisit n List.mem_cons_self s hs
      have hmore := saidBefore_visitAll roots d limit depth (rest.map Node.received)
        ((walker roots).visit d limit depth n.received s).state
      rw [List.map_cons, visitAll] at hsaid ⊢
      cases hr : ((walker roots).visit d limit depth n.received s).result with
      | error f =>
          simp only [hr] at hsaid
          have hfirst := (hn hsaid).1
          rw [hr] at hfirst
          cases hfirst
      | ok rows =>
          simp only [hr] at hsaid ⊢
          obtain ⟨hfirst, hready⟩ := hn (hmore.trans hsaid)
          obtain ⟨hrest, hready'⟩ :=
            ih (fun m hm => hvisit m (List.mem_cons_of_mem n hm)) hready hsaid
          rw [hr] at hfirst
          injection hfirst with hfirst
          refine ⟨?_, hready'⟩
          rw [hrest, hfirst, List.flatMap_cons]
          rfl

/-- Every node is followed if the numbers in its data can be written. -/
theorem visit_received (hg : g.Whole) (d : Direction) (limit depth : Nat) {n : Node}
    (hn : n.item.Whole) : Follows reads g final roots d limit depth n := by
  intro s hs hsaid
  induction hleft : limit - depth generalizing depth n s with
  | zero =>
      rw [Provider.visit_at_limit (by omega), shown_at_limit (by omega), Node.row_received]
      exact ⟨rfl, hs⟩
  | succ left ih =>
      have hdepth : depth < limit := by omega
      have hasked := resolve_ready roots d hn hs
      cases hr : ((walker roots).resolve (question d n.received) s).result with
      | error f =>
          rw [Provider.visit_of_error hdepth hr] at hsaid
          obtain ⟨hlinks, -⟩ := hasked hsaid
          cases hr.symm.trans hlinks
      | ok links =>
          rw [Provider.visit_of_ok hdepth hr] at hsaid ⊢
          have hmore := saidBefore_visitAll roots d limit (depth + 1)
            (Node.sorted (n.received.children d links))
            ((walker roots).resolve (question d n.received) s).state
          obtain ⟨hlinks, hready⟩ := hasked (hmore.trans hsaid)
          obtain rfl : links = (g.links d n.item).map Link.received := by
            injection hr.symm.trans hlinks
          have hkids : Node.sorted (n.received.children d ((g.links d n.item).map Link.received))
              = (Node.sorted (n.children d (g.links d n.item))).map Node.received := by
            rw [Node.children_received, Node.sorted_received]
          rw [hkids] at hsaid ⊢
          have hfollows : ∀ m ∈ Node.sorted (n.children d (g.links d n.item)),
              Follows reads g final roots d limit (depth + 1) m := by
            intro m hm t ht hsaid'
            obtain ⟨l, hl, rfl⟩ := List.mem_map.1 (Node.mem_sorted.1 hm)
            have hitem : (Node.child l.item (l.locations d n.item) n).item.Whole := hg.links hl
            exact ih (depth + 1) hitem t ht hsaid' (by omega)
          obtain ⟨hbelow, hready'⟩ := visitAll_received hfollows hready hsaid
          refine ⟨?_, hready'⟩
          rw [shown_of_ok hdepth (g.answer_question d n), Node.row_received]
          simp only [hbelow]
          rfl

/-- A listing succeeds with the rows of the call graph. -/
theorem succeeds_rows (hg : g.Whole) (d : Direction) (limit : Nat) :
    Succeeds reads g final (fun c => c.initialised = true)
      (Shared.during ((walker (g.roots.map Item.received)).rows d limit))
      fun rows _ =>
        rows = (Node.sorted (g.roots.map .root)).flatMap (shown g.answer d limit 0) := by
  intro c htrack hopened hsaid
  have hready : Ready reads g final { client := c } := ⟨rfl, hopened, htrack⟩
  obtain ⟨hresult, hstate⟩ :=
    (walker (g.roots.map Item.received)).rows_eq d limit { client := c }
  rw [Shared.during, hstate, Provider.unfolding] at hsaid
  have hroots : Node.sorted ((walker (g.roots.map Item.received)).roots.map .root)
      = (Node.sorted (g.roots.map .root)).map Node.received := by
    rw [← Node.sorted_received]
    show Node.sorted ((g.roots.map Item.received).map .root) = _
    rw [List.map_map, List.map_map]
    rfl
  rw [hroots] at hsaid
  have hfollows : ∀ n ∈ Node.sorted (g.roots.map .root),
      Follows reads g final (g.roots.map Item.received) d limit 0 n := by
    intro n hn
    obtain ⟨i, hi, rfl⟩ := List.mem_map.1 (Node.mem_sorted.1 hn)
    have hitem : (Node.root i).item.Whole := hg.roots i hi
    exact visit_received hg d limit 0 hitem
  obtain ⟨hrows, hready'⟩ := visitAll_received hfollows hready hsaid
  refine ⟨_, ?_, rfl, ?_⟩
  · show ((walker (g.roots.map Item.received)).rows d limit { client := c }).result = _
    rw [hresult, Provider.unfolding, hroots, hrows]
  · show OnTrack reads g final ((walker _).rows d limit { client := c }).state.client
    rw [hstate, Provider.unfolding, hroots]
    exact hready'.track

theorem grows_rows (d : Direction) (limit : Nat) :
    Grows (Shared.during ((walker roots).rows d limit)) := by
  intro c
  show c.sent <:+ ((walker roots).rows d limit { client := c }).state.client.sent
  rw [((walker roots).rows_eq d limit { client := c }).2]
  exact saidBefore_visitAll roots d limit 0 _ { client := c }

end Client

end Server

end CallExplorer
