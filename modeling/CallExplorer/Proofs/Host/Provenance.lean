/-
Where held nodes come from.

A host asks for the roots, for the children of nodes it holds, as often as it likes, and turns
around in between. What it is given it keeps. So nodes that were found in different directions come
to hang below each other, and a node does not say in which direction it was found; neither does the
host, which only remembers which node it was found from.

The history of the host knows. `history` has every request along with the host as it was when the
request was made, and with it the direction of the session and the state the provider was in. For
every held node there is a moment in the history when the host gained it (`gained_of_held`), and
that settles where its item and its call sites are from.

# How the invariant goes

A request adds nodes behind the others, and says how each of them was gained (`nodes_run`). All
else follows from that one step by induction over the requests: that held nodes were gained, and
that all of them stand on a root (`grounded_afterAll`). A request also puts one question to the
provider at most (`state_run`), so what every question keeps holds at every moment of the history
(`holds_history`).

# What this closes

`held_nodes_traced`, for every provider and every list of requests.
-/
import Mathlib.Data.List.Forall2
import CallExplorer.Host

namespace CallExplorer

-- ============================================ where nodes stand and what they show

namespace Node

/-- The chain of ancestors ends in a root that shows one of the items. -/
def StandsOn (items : List Item) (n : Node) : Prop :=
  ∃ top, n.ancestors.getLast? = some top ∧ top.isRoot = true ∧ top.item ∈ items

theorem standsOn_root {items : List Item} {i : Item} (h : i ∈ items) : (root i).StandsOn items :=
  ⟨root i, rfl, rfl, h⟩

theorem StandsOn.child {items : List Item} {parent : Node} (h : parent.StandsOn items) (i : Item)
    (locations : List Location) : (child i locations parent).StandsOn items := by
  obtain ⟨top, hlast, htop⟩ := h
  refine ⟨top, ?_, htop⟩
  rw [ancestors, List.getLast?_cons, hlast]
  rfl

/-- The node shows an entry of what was answered about its parent in a direction: its item is the
other end, and there is a call site for each range, in the same order. Call sites lie in the
document of the caller, which is the parent or the node. -/
structure Shows (n : Node) (d : Direction) (origin : Node) (l : Link) : Prop where
  parent : n.parent = some origin
  item : n.item = l.item
  outgoing : d = .outgoing →
    n.locations = some (l.sites.map fun range => ⟨origin.item.uri, range⟩)
  incoming : d = .incoming → n.locations = some (l.sites.map fun range => ⟨n.item.uri, range⟩)

theorem shows_child (d : Direction) (origin : Node) (l : Link) :
    (child l.item (l.locations d origin.item) origin).Shows d origin l := by
  refine ⟨rfl, rfl, ?_, ?_⟩
  · rintro rfl
    rfl
  · rintro rfl
    rfl

/-- Children show the entries of the answer, one each and in order. -/
theorem shows_children (d : Direction) (origin : Node) (links : List Link) :
    List.Forall₂ (fun l n => n.Shows d origin l) links (origin.children d links) := by
  rw [children, List.forall₂_map_right_iff]
  exact List.forall₂_same.2 fun l _ => shows_child d origin l

end Node

namespace Host

variable {σ : Type}

-- ============================================ requests

/-- What a host can ask for. -/
inductive Request where
  | roots
  | children (number : Nat)
  | turn (d : Direction)

/-- The request is made. Under a number that the host does not know there is nothing to ask for. -/
def Request.run (p : Provider σ) : Request → Action (Host σ) Failure (List Node)
  | .roots => Host.roots p
  | .children number => do
    match (← Action.get).node? number with
    | some held => Host.children p number held.node
    | none => pure []
  | .turn d => do
    Host.turn d
    pure []

/-- A request, and the host as it was when it made it. -/
structure Moment (σ : Type) where
  request : Request
  before : Host σ

/-- All requests of a host, each with the host at that moment. -/
def history (p : Provider σ) : List Request → Host σ → List (Moment σ)
  | [], _ => []
  | r :: rs, h => ⟨r, h⟩ :: history p rs (r.run p h).state

/-- The host after its requests. -/
def afterAll (p : Provider σ) : List Request → Host σ → Host σ
  | [], h => h
  | r :: rs, h => afterAll p rs (r.run p h).state

namespace Moment

/-- What comes of the request. -/
def outcome (p : Provider σ) (t : Moment σ) : Outcome (Host σ) Failure (List Node) :=
  t.request.run p t.before

/-- The direction that the session looks in. -/
def direction (t : Moment σ) : Direction := t.before.session.direction

/-- What the provider has to say about an item at that moment, in the direction of the session. -/
def answer (p : Provider σ) (t : Moment σ) (i : Item) : Outcome σ Failure (List Link) :=
  p.resolve ⟨t.direction, i, false⟩ t.before.session.state

/-- How a host comes by a node: it is a root, or it is found from a node that the host holds. -/
inductive Gains (p : Provider σ) (t : Moment σ) : HeldNode → Prop
  | root {i : Item} (hrequest : t.request = .roots) (hi : i ∈ p.roots) : Gains p t ⟨.root i, none⟩
  | child {number : Nat} {parent : HeldNode} {links : List Link} {l : Link}
      (hrequest : t.request = .children number) (hparent : t.before.node? number = some parent)
      (hanswer : (t.answer p parent.node.item).result = .ok links) (hl : l ∈ links) :
      Gains p t ⟨.child l.item (l.locations t.direction parent.node.item) parent.node, some number⟩

end Moment

-- ============================================ one request

section Children

variable {p : Provider σ} {t : Moment σ} {number : Nat} {parent : HeldNode}

/-- The host with the provider in the state that an answer leaves it in. -/
def answered (h : Host σ) (s : σ) : Host σ := { h with session := { h.session with state := s } }

theorem run_children (hrequest : t.request = .children number)
    (hparent : t.before.node? number = some parent) :
    t.outcome p = Host.children p number parent.node t.before := by
  obtain ⟨request, h⟩ := t
  obtain rfl : request = .children number := hrequest
  have hget : (Action.get : Action (Host σ) Failure (Host σ)) h = ⟨.ok h, [], h⟩ := rfl
  have hfound : h.node? number = some parent := hparent
  show (Request.children number).run p h = _
  rw [Request.run, Action.bind_of_ok hget, hfound]
  rfl

/-- The question that the request comes down to. -/
theorem resolve_answer (n : Node) :
    p.explorer.resolve t.direction n.item t.before.session
      = ⟨(t.answer p n.item).result, (t.answer p n.item).events,
          (t.before.answered (t.answer p n.item).state).session⟩ := rfl

/-- If the provider fails, that is all that comes of the request. -/
theorem outcome_of_error (hrequest : t.request = .children number)
    (hparent : t.before.node? number = some parent) {f : Failure}
    (hanswer : (t.answer p parent.node.item).result = .error f) :
    t.outcome p = ⟨.error f, (t.answer p parent.node.item).events,
      t.before.answered (t.answer p parent.node.item).state⟩ := by
  have hresolve := resolve_answer (p := p) (t := t) parent.node
  rw [hanswer] at hresolve
  have hask := Explorer.ask_of_error hresolve
  have hkids : p.explorer.children parent.node t.before.session = _ := Action.bind_of_error hask
  have hsession : inSession (p.explorer.children parent.node) t.before
      = ⟨.error f, (t.answer p parent.node.item).events,
          t.before.answered (t.answer p parent.node.item).state⟩ := by
    rw [inSession, Action.zoom, hkids]
    rfl
  rw [run_children hrequest hparent]
  exact Action.bind_of_error hsession

/-- If the provider answers, a node is found for each link, and it is held. -/
theorem outcome_of_ok (hrequest : t.request = .children number)
    (hparent : t.before.node? number = some parent) {links : List Link}
    (hanswer : (t.answer p parent.node.item).result = .ok links) :
    t.outcome p = ⟨.ok (parent.node.children t.direction links),
      (t.answer p parent.node.item).events
        ++ [.expandedCall t.direction parent.node.item.name links.length],
      (t.before.answered (t.answer p parent.node.item).state).hold
        (parent.node.children t.direction links) (some number)⟩ := by
  have hresolve := resolve_answer (p := p) (t := t) parent.node
  rw [hanswer] at hresolve
  have hask := Explorer.ask_of_ok hresolve
  have hkids : inSession (p.explorer.children parent.node) t.before
      = ⟨.ok (parent.node.children t.direction links), (t.answer p parent.node.item).events
          ++ [.expandedCall t.direction parent.node.item.name links.length],
          t.before.answered (t.answer p parent.node.item).state⟩ := by
    rw [inSession, Action.zoom, Explorer.children, Action.bind_of_ok hask]
    simp only [Action.pure_apply, List.append_nil]
    rfl
  rw [run_children hrequest hparent, Host.children, Action.bind_of_ok hkids]
  exact congrArg (Outcome.mk _ · _) (List.append_nil _)

/-- Either way one question is put. -/
theorem state_children (hrequest : t.request = .children number)
    (hparent : t.before.node? number = some parent) :
    (t.outcome p).state.session.state = (t.answer p parent.node.item).state := by
  cases hanswer : (t.answer p parent.node.item).result with
  | error f =>
      rw [outcome_of_error hrequest hparent hanswer]
      rfl
  | ok links =>
      rw [outcome_of_ok hrequest hparent hanswer]
      rfl

end Children

/-- Nothing comes of a number that the host does not know. -/
theorem run_unknown {p : Provider σ} {h : Host σ} {number : Nat} (hnone : h.node? number = none) :
    (Request.children number).run p h = ⟨.ok [], [], h⟩ := by
  have hget : (Action.get : Action (Host σ) Failure (Host σ)) h = ⟨.ok h, [], h⟩ := rfl
  rw [Request.run, Action.bind_of_ok hget, hnone]
  rfl

/-- A request adds nodes behind those that are held, and each of them is gained. -/
theorem nodes_run (p : Provider σ) (r : Request) (h : Host σ) :
    ∃ gained, (r.run p h).state.nodes = h.nodes ++ gained
      ∧ ∀ held ∈ gained, Moment.Gains p ⟨r, h⟩ held := by
  cases r with
  | roots =>
      refine ⟨(p.roots.map .root).map fun n => ⟨n, none⟩, rfl, fun held hheld => ?_⟩
      rw [List.map_map] at hheld
      obtain ⟨i, hi, rfl⟩ := List.mem_map.1 hheld
      exact .root rfl hi
  | turn d => exact ⟨[], (List.append_nil _).symm, by simp⟩
  | children number =>
      cases hparent : h.node? number with
      | none =>
          refine ⟨[], ?_, by simp⟩
          rw [run_unknown hparent, List.append_nil]
      | some parent =>
          cases hanswer : ((Moment.mk (.children number) h).answer p parent.node.item).result with
          | error f =>
              refine ⟨[], ?_, by simp⟩
              have hrun := outcome_of_error (t := ⟨.children number, h⟩) rfl hparent hanswer
              show ((Moment.mk (.children number) h).outcome p).state.nodes = _
              rw [hrun, List.append_nil]
              rfl
          | ok links =>
              have hrun := outcome_of_ok (t := ⟨.children number, h⟩) rfl hparent hanswer
              refine ⟨(parent.node.children h.session.direction links).map
                fun n => ⟨n, some number⟩, ?_, fun held hheld => ?_⟩
              · show ((Moment.mk (.children number) h).outcome p).state.nodes = _
                rw [hrun]
                rfl
              · rw [Node.children, List.map_map] at hheld
                obtain ⟨l, hl, rfl⟩ := List.mem_map.1 hheld
                exact .child rfl hparent hanswer hl

/-- No request puts more than one. -/
theorem state_run (p : Provider σ) (r : Request) (h : Host σ) :
    (r.run p h).state.session.state = h.session.state
      ∨ ∃ q, (r.run p h).state.session.state = (p.resolve q h.session.state).state := by
  cases r with
  | roots => exact .inl rfl
  | turn d => exact .inl rfl
  | children number =>
      cases hparent : h.node? number with
      | none =>
          rw [run_unknown hparent]
          exact .inl rfl
      | some parent =>
          exact .inr ⟨_, state_children (t := ⟨.children number, h⟩) rfl hparent⟩

-- ============================================ all requests

section Runs

variable {p : Provider σ} {rs : List Request} {h : Host σ}

/-- What is held in the end was held in the beginning or was gained in between. -/
theorem gained_of_held {held : HeldNode} (hheld : held ∈ (h.afterAll p rs).nodes) :
    held ∈ h.nodes ∨ ∃ t ∈ history p rs h, t.Gains p held := by
  induction rs generalizing h with
  | nil => exact .inl hheld
  | cons r rs ih =>
      obtain ⟨gained, hnodes, hgained⟩ := nodes_run p r h
      rcases ih hheld with hfirst | ⟨t, ht, hgains⟩
      · rw [hnodes] at hfirst
        rcases List.mem_append.1 hfirst with hbefore | hnew
        · exact .inl hbefore
        · exact .inr ⟨⟨r, h⟩, List.mem_cons_self, hgained held hnew⟩
      · exact .inr ⟨t, List.mem_cons_of_mem _ ht, hgains⟩

/-- What every request keeps holds whenever a request is made. -/
theorem holds_history {P : Host σ → Prop} (hstep : ∀ r h, P h → P (Request.run p r h).state)
    (hstart : P h) : ∀ t ∈ history p rs h, P t.before := by
  induction rs generalizing h with
  | nil =>
      intro t ht
      cases ht
  | cons r rs ih =>
      intro t ht
      rcases List.mem_cons.1 ht with rfl | ht
      · exact hstart
      · exact ih (hstep r h hstart) t ht

/-- All held nodes show items with a property that roots and answers have. -/
theorem held_run {T : Item → Prop} (hroots : ∀ i ∈ p.roots, T i)
    (hanswers : ∀ q s links, (p.resolve q s).result = .ok links → ∀ l ∈ links, T l.item)
    (r : Request) (hheld : ∀ held ∈ h.nodes, T held.node.item) :
    ∀ held ∈ (r.run p h).state.nodes, T held.node.item := by
  obtain ⟨gained, hnodes, hgained⟩ := nodes_run p r h
  intro held hmem
  rw [hnodes] at hmem
  rcases List.mem_append.1 hmem with hbefore | hnew
  · exact hheld held hbefore
  · cases hgained held hnew with
    | root hrequest hi => exact hroots _ hi
    | child hrequest hparent hanswer hl => exact hanswers _ _ _ hanswer _ hl

/-- All held nodes stand on roots of the provider. -/
def Grounded (p : Provider σ) (h : Host σ) : Prop := ∀ held ∈ h.nodes, held.node.StandsOn p.roots

theorem grounded_run (hground : Grounded p h) (r : Request) : Grounded p (r.run p h).state := by
  obtain ⟨gained, hnodes, hgained⟩ := nodes_run p r h
  intro held hheld
  rw [hnodes] at hheld
  rcases List.mem_append.1 hheld with hbefore | hnew
  · exact hground held hbefore
  · cases hgained held hnew with
    | root hrequest hi => exact Node.standsOn_root hi
    | child hrequest hparent hanswer hl =>
        exact (hground _ (List.mem_of_getElem? hparent)).child _ _

theorem grounded_afterAll (hground : Grounded p h) : Grounded p (h.afterAll p rs) := by
  induction rs generalizing h with
  | nil => exact hground
  | cons r rs ih => exact ih (grounded_run hground r)

end Runs

/-- At that moment the host asked for the children of a node it held, and what it holds now shows
an entry of the answer. -/
def Moment.Finds (p : Provider σ) (t : Moment σ) (parent : Node) (held : HeldNode) : Prop :=
  ∃ number source links l, t.request = .children number
    ∧ t.before.node? number = some ⟨parent, source⟩ ∧ held.source = some number
    ∧ (t.answer p parent.item).result = .ok links ∧ l ∈ links
    ∧ held.node.Shows t.direction parent l

/-- A node without a source is a root, and the other way round. -/
theorem Moment.Gains.source_eq_none_iff {p : Provider σ} {t : Moment σ} {held : HeldNode}
    (h : t.Gains p held) : held.source = none ↔ held.node.isRoot = true := by
  cases h with
  | root hrequest hi => simp [Node.isRoot]
  | child hrequest hparent hanswer hl => simp [Node.isRoot]

theorem Moment.Gains.finds {p : Provider σ} {t : Moment σ} {held : HeldNode} (h : t.Gains p held)
    {parent : Node} (hparent : held.node.parent = some parent) : t.Finds p parent held := by
  cases h with
  | root hrequest hi => cases hparent
  | @child number origin links l hrequest horigin hanswer hl =>
      injection hparent with hparent
      subst hparent
      exact ⟨number, origin.source, links, l, hrequest, horigin, rfl, hanswer, hl,
        Node.shows_child _ _ l⟩

end Host

/-- Whatever a host asks for, in any order and of any provider, with the session turned around in
between or not. A held node is a root exactly if it was given as one, and exactly if it has no
parent, exactly if it has no call sites to speak of, and exactly if it lies at depth 0. Its chain of
ancestors ends in a root that the provider names. Any other node lies one level below its parent,
with the ancestors of that behind it, and at some moment it was found from there: it shows an entry
of what the provider answered about the parent, in the direction that the session looked in then.
To ask for children gives a node for each entry of the answer, in order, and holds them; or it gives
the failure of the provider as it is, and then there is no node and no event but those of the
provider. -/
theorem held_nodes_traced {σ : Type} (p : Provider σ) (d : Direction) (s : σ)
    (rs : List Host.Request) :
    let start : Host σ := { session := ⟨d, s⟩ }
    (∀ held ∈ (start.afterAll p rs).nodes,
        ((held.source = none ↔ held.node.isRoot = true)
          ∧ (held.node.parent = none ↔ held.node.isRoot = true)
          ∧ (held.node.locations = none ↔ held.node.isRoot = true)
          ∧ (held.node.depth = 0 ↔ held.node.isRoot = true))
        ∧ held.node.StandsOn p.roots
        ∧ ∀ parent, held.node.parent = some parent →
            held.node.depth = parent.depth + 1
              ∧ held.node.ancestors = held.node :: parent.ancestors
              ∧ ∃ t ∈ Host.history p rs start, t.Finds p parent held)
      ∧ ∀ t ∈ Host.history p rs start, ∀ number parent, t.request = .children number →
          t.before.node? number = some parent →
          match (t.answer p parent.node.item).result with
          | .ok links => ∃ found, (t.outcome p).result = .ok found
              ∧ List.Forall₂ (fun l n => n.Shows t.direction parent.node l) links found
              ∧ (t.outcome p).state.nodes
                = t.before.nodes ++ found.map (fun n => ⟨n, some number⟩)
          | .error f => t.outcome p = ⟨.error f, (t.answer p parent.node.item).events,
              t.before.answered (t.answer p parent.node.item).state⟩ := by
  intro start
  constructor
  · intro held hheld
    have hgained : ∃ t ∈ Host.history p rs start, t.Gains p held := by
      rcases Host.gained_of_held hheld with hbefore | hgained
      · cases hbefore
      · exact hgained
    obtain ⟨t, ht, hgains⟩ := hgained
    refine ⟨⟨hgains.source_eq_none_iff, Node.parent_eq_none_iff, Node.locations_eq_none_iff,
      Node.depth_eq_zero_iff⟩, ?_, fun parent hparent => ?_⟩
    · have hstart : Host.Grounded p start := fun held hbefore => by cases hbefore
      exact Host.grounded_afterAll hstart held hheld
    · exact ⟨Node.depth_of_parent hparent, Node.ancestors_of_parent hparent, t, ht,
        hgains.finds hparent⟩
  · intro t _ number parent hrequest hparent
    cases hanswer : (t.answer p parent.node.item).result with
    | error f => exact Host.outcome_of_error hrequest hparent hanswer
    | ok links =>
        have hrun := Host.outcome_of_ok hrequest hparent hanswer
        refine ⟨_, congrArg Outcome.result hrun, ?_, ?_⟩
        · exact Node.shows_children _ _ links
        · rw [hrun]
          rfl

end CallExplorer
