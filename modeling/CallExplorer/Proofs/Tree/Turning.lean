/-
Listings in a session that turns.

While an answer is pending the session may be turned around, and around again. A listing reads the
direction in two places: for a row, where the identity and what is read out both depend on it, and
for the question about the item of the row. Nothing can turn the session between the two, so they
agree. The children of an answer are a third place, and they stand in the direction of the
question, which may no longer be the one of the session.

# Resolutions

An explorer can write down what it asks, along with the states before and after (`recorded`). The
log says how the session went: each resolution starts in the state that the one before it left
(`leftBy`), and so does each row. A listing is told by `Unrolls`, which works off pending nodes as
the listing does. It says which nodes are shown, in which direction, and which resolution belongs
to each. That listings are of this kind is an induction on the pending nodes (`unrolls_list`), and
everything about directions is an induction on the derivation (`Unrolls.shown_at`).

# What this closes

`rows_of_turning_session`, for every explorer. Its states are any at all, and asking may change the
direction along with them; this is what a session does that is turned by others meanwhile
(`Provider.turned`).
-/
import CallExplorer.Proofs.Graph.Listing
import CallExplorer.Proofs.Host.Provenance

namespace CallExplorer

variable {σ : Type} {e : Explorer σ} {limit : Nat} {n : Node} {pending rest : List Node} {s t u : σ}
  {links : List Link} {f : Failure} {events more : List Event} {result : Except Failure (List Row)}

/-- A question about an item that was put to the source of calls, with the state it was put in,
the answer, and the state that this left. -/
structure Resolution (σ : Type) where
  direction : Direction
  item : Item
  before : σ
  answer : Except Failure (List Link)
  after : σ

/-- A node that was shown: the direction it was shown in, and the resolution of its item, if there
was any. -/
structure Showing (σ : Type) where
  node : Node
  direction : Direction
  resolution : Option (Resolution σ)

def Showing.row (v : Showing σ) : Row := .ofNode v.direction v.node

/-- The node shows an entry of what was answered about another one, in the direction of that
resolution. -/
def Showing.Names (u : Showing σ) (n : Node) : Prop :=
  ∃ r links l, u.resolution = some r ∧ r.answer = .ok links ∧ l ∈ links
    ∧ n.Shows r.direction u.node l

/-- If its item was resolved there is an answer, and every entry of it is shown in the direction of
that resolution. -/
def Showing.AnsweredIn (u : Showing σ) (shown : List (Showing σ)) : Prop :=
  ∀ r, u.resolution = some r → ∃ links, r.answer = .ok links
    ∧ ∀ l ∈ links, ∃ v ∈ shown, v.node.Shows r.direction u.node l

/-- The resolutions of the nodes that were shown. -/
def resolutions (shown : List (Showing σ)) : List (Resolution σ) :=
  shown.filterMap Showing.resolution

/-- The state that resolutions in a row leave. -/
def leftBy (s : σ) : List (Resolution σ) → σ
  | [] => s
  | r :: rs => leftBy r.after rs

namespace Explorer

/-- An explorer that writes down its resolutions. -/
def recorded (e : Explorer σ) : Explorer (σ × List (Resolution σ)) where
  roots := e.roots
  direction s := e.direction s.1
  resolve d i := fun (s, past) =>
    let o := e.resolve d i s
    ⟨o.result, o.events, (o.state, past ++ [⟨d, i, s, o.result, o.state⟩])⟩

/-- The resolution of the item of a node, in the direction of the session. -/
def resolution (e : Explorer σ) (n : Node) (s : σ) : Resolution σ :=
  let o := e.resolve (e.direction s) n.item s
  ⟨e.direction s, n.item, s, o.result, o.state⟩

-- ============================================ one step of a listing

theorem resolve_item (n : Node) (s : σ) :
    e.resolve (e.direction s) n.item s
      = ⟨(e.resolution n s).answer, (e.resolve (e.direction s) n.item s).events,
          (e.resolution n s).after⟩ := rfl

theorem resolve_recorded (n : Node) (s : σ) (past : List (Resolution σ)) :
    e.recorded.resolve (e.recorded.direction (s, past)) n.item (s, past)
      = ⟨(e.resolution n s).answer, (e.resolve (e.direction s) n.item s).events,
          ((e.resolution n s).after, past ++ [e.resolution n s])⟩ := rfl

theorem list_nil (s : σ) : e.list limit [] s = ⟨.ok [], [], s⟩ := by
  rw [list]
  rfl

/-- A row goes in front of the others, if these come to anything. -/
theorem row_before {x : Action σ Failure (List Row)} (hx : x s = ⟨result, events, t⟩) (r : Row) :
    (do let rows ← x; pure (r :: rows)) s = ⟨result.map (r :: ·), events, t⟩ := by
  cases result with
  | error f => exact Action.bind_of_error hx
  | ok rows =>
      rw [Action.bind_of_ok hx]
      exact congrArg (Outcome.mk _ · _) (List.append_nil events)

/-- A node at the limit is shown, and the others follow. -/
theorem list_at_limit (h : ¬ n.depth < limit) (hrest : e.list limit rest s = ⟨result, events, t⟩) :
    e.list limit (n :: rest) s
      = ⟨result.map (Row.ofNode (e.direction s) n :: ·), events, t⟩ := by
  have hrow : e.row n s = ⟨.ok (.ofNode (e.direction s) n), [], s⟩ := rfl
  rw [list, Action.bind_of_ok hrow, dif_neg h, row_before hrest]
  rfl

/-- A listing ends with a question that fails. -/
theorem list_of_error (h : n.depth < limit) (rest : List Node)
    (hask : e.resolve (e.direction s) n.item s = ⟨.error f, events, t⟩) :
    e.list limit (n :: rest) s = ⟨.error f, events, t⟩ := by
  have hrow : e.row n s = ⟨.ok (.ofNode (e.direction s) n), [], s⟩ := rfl
  rw [list, Action.bind_of_ok hrow, dif_pos h, Action.bind_of_error (ask_of_error hask)]
  rfl

/-- The children of an answer go in front of the others, in the direction of the question. -/
theorem list_of_ok (h : n.depth < limit)
    (hask : e.resolve (e.direction s) n.item s = ⟨.ok links, events, t⟩)
    (hrest : e.list limit (Node.sorted (n.children (e.direction s) links) ++ rest) t
      = ⟨result, more, u⟩) :
    e.list limit (n :: rest) s
      = ⟨result.map (Row.ofNode (e.direction s) n :: ·),
          events ++ [.expandedCall (e.direction s) n.item.name links.length] ++ more, u⟩ := by
  have hrow : e.row n s = ⟨.ok (.ofNode (e.direction s) n), [], s⟩ := rfl
  have hmore := row_before hrest (.ofNode (e.direction s) n)
  rw [list, Action.bind_of_ok hrow, dif_pos h, Action.bind_of_ok (ask_of_ok hask)]
  exact congrArg (fun o : Outcome σ Failure (List Row) =>
    Outcome.mk o.result (_ ++ o.events) o.state) hmore

end Explorer

-- ============================================ working off pending nodes

/-- What is shown of pending nodes and all that lies below them, from a state on, and the failure
that this stops with, if any. -/
inductive Unrolls (e : Explorer σ) (limit : Nat) :
    (s : σ) → (pending : List Node) → (shown : List (Showing σ)) → (stop : Option Failure) → Prop
  | done {s : σ} : Unrolls e limit s [] [] none
  | leaf {s : σ} {n : Node} {rest : List Node} {behind : List (Showing σ)} {stop : Option Failure}
      (hdepth : ¬ n.depth < limit) (hbehind : Unrolls e limit s rest behind stop) :
      Unrolls e limit s (n :: rest) (⟨n, e.direction s, none⟩ :: behind) stop
  | stops {s : σ} {n : Node} {rest : List Node} {f : Failure} (hdepth : n.depth < limit)
      (hanswer : (e.resolution n s).answer = .error f) :
      Unrolls e limit s (n :: rest) [⟨n, e.direction s, some (e.resolution n s)⟩] (some f)
  | inner {s : σ} {n : Node} {links : List Link} {rest : List Node} {behind : List (Showing σ)}
      {stop : Option Failure} (hdepth : n.depth < limit)
      (hanswer : (e.resolution n s).answer = .ok links)
      (hbehind : Unrolls e limit (e.resolution n s).after
        (Node.sorted (n.children (e.direction s) links) ++ rest) behind stop) :
      Unrolls e limit s (n :: rest) (⟨n, e.direction s, some (e.resolution n s)⟩ :: behind) stop

/-- The rows of what was shown, unless it stopped. -/
def rowsUnless (stop : Option Failure) (shown : List (Showing σ)) : Except Failure (List Row) :=
  match stop with
  | some f => .error f
  | none => .ok (shown.map Showing.row)

theorem rowsUnless_cons (stop : Option Failure) (v : Showing σ) (shown : List (Showing σ)) :
    rowsUnless stop (v :: shown) = (rowsUnless stop shown).map (v.row :: ·) := by
  cases stop <;> rfl

/-- A listing works off its pending nodes, whether it is recorded or not. -/
theorem unrolls_list (e : Explorer σ) (limit : Nat) (pending : List Node) (s : σ)
    (past : List (Resolution σ)) :
    ∃ shown stop events, Unrolls e limit s pending shown stop
      ∧ e.list limit pending s
        = ⟨rowsUnless stop shown, events, leftBy s (resolutions shown)⟩
      ∧ e.recorded.list limit pending (s, past)
        = ⟨rowsUnless stop shown, events,
            (leftBy s (resolutions shown), past ++ resolutions shown)⟩ := by
  induction pending using Explorer.list.induct limit generalizing s past with
  | case1 =>
      refine ⟨[], none, [], .done, Explorer.list_nil s, ?_⟩
      rw [Explorer.list_nil, resolutions, List.filterMap_nil, List.append_nil]
      rfl
  | case2 n rest ihKids ihRest =>
      by_cases hdepth : n.depth < limit
      · have hask := Explorer.resolve_item (e := e) n s
        have hrecorded := Explorer.resolve_recorded (e := e) n s past
        cases hr : (e.resolution n s).answer with
        | error f =>
            rw [hr] at hask hrecorded
            exact ⟨_, _, _, .stops hdepth hr, Explorer.list_of_error hdepth rest hask,
              Explorer.list_of_error hdepth rest hrecorded⟩
        | ok links =>
            rw [hr] at hask hrecorded
            obtain ⟨behind, stop, more, hbehind, hlist, hlistRecorded⟩ :=
              ihKids hdepth (e.direction s) links (e.resolution n s).after
                (past ++ [e.resolution n s])
            have hbare := Explorer.list_of_ok hdepth hask hlist
            have hwritten := Explorer.list_of_ok hdepth hrecorded hlistRecorded
            rw [List.append_assoc past] at hwritten
            exact ⟨⟨n, e.direction s, some (e.resolution n s)⟩ :: behind, stop, _,
              .inner hdepth hr hbehind,
              by rw [rowsUnless_cons]; exact hbare, by rw [rowsUnless_cons]; exact hwritten⟩
      · obtain ⟨behind, stop, events, hbehind, hlist, hlistRecorded⟩ := ihRest s past
        refine ⟨⟨n, e.direction s, none⟩ :: behind, stop, events, .leaf hdepth hbehind, ?_⟩
        rw [rowsUnless_cons]
        exact ⟨Explorer.list_at_limit hdepth hlist, Explorer.list_at_limit hdepth hlistRecorded⟩

-- ============================================ what a derivation says

namespace Unrolls

variable {shown before behind : List (Showing σ)} {stop : Option Failure} {v : Showing σ}

/-- Behind nodes that were shown it goes on in the state that their resolutions left, with nodes
that were pending or that one of them names. -/
theorem unrolls_behind (h : Unrolls e limit s pending (before ++ behind) stop)
    (hbehind : behind ≠ []) :
    ∃ later, Unrolls e limit (leftBy s (resolutions before)) later behind stop
      ∧ ∀ m ∈ later, m ∈ pending ∨ ∃ u ∈ before, u.Names m := by
  induction before generalizing s pending with
  | nil => exact ⟨pending, h, fun m hm => .inl hm⟩
  | cons u before ih =>
      generalize hshown : u :: before ++ behind = shown at h
      cases h with
      | done => cases hshown
      | @leaf _ n rest _ _ hdepth hmore =>
          obtain ⟨rfl, rfl⟩ := List.cons.inj hshown
          obtain ⟨later, hlater, hfrom⟩ := ih hmore
          refine ⟨later, hlater, fun m hm => ?_⟩
          rcases hfrom m hm with hrest | ⟨v, hv, hnames⟩
          · exact .inl (List.mem_cons_of_mem n hrest)
          · exact .inr ⟨v, List.mem_cons_of_mem _ hv, hnames⟩
      | stops hdepth hanswer =>
          obtain ⟨-, hnone⟩ := List.cons.inj hshown
          exact absurd (List.append_eq_nil_iff.1 hnone).2 hbehind
      | @inner _ n links rest _ _ hdepth hanswer hmore =>
          obtain ⟨rfl, rfl⟩ := List.cons.inj hshown
          obtain ⟨later, hlater, hfrom⟩ := ih hmore
          refine ⟨later, hlater, fun m hm => ?_⟩
          rcases hfrom m hm with hfresh | ⟨v, hv, hnames⟩
          · rcases List.mem_append.1 hfresh with hchild | hrest
            · obtain ⟨l, hl, hnode⟩ := List.mem_map.1 (Node.mem_sorted.1 hchild)
              refine .inr ⟨_, List.mem_cons_self, e.resolution n s, links, l, rfl, hanswer, hl, ?_⟩
              rw [← hnode]
              exact Node.shows_child _ _ l
            · exact .inl (List.mem_cons_of_mem n hrest)
          · exact .inr ⟨v, List.mem_cons_of_mem _ hv, hnames⟩

/-- The first node that is shown is pending. It is shown in the direction of the session, and unless
it lies at the limit, its item is resolved. -/
theorem first (h : Unrolls e limit s pending (v :: behind) stop) :
    v.node ∈ pending ∧ v.direction = e.direction s
      ∧ v.resolution = if v.node.depth < limit then some (e.resolution v.node s) else none := by
  cases h with
  | leaf hdepth hbehind => exact ⟨List.mem_cons_self, rfl, (if_neg hdepth).symm⟩
  | stops hdepth hanswer => exact ⟨List.mem_cons_self, rfl, (if_pos hdepth).symm⟩
  | inner hdepth hanswer hbehind => exact ⟨List.mem_cons_self, rfl, (if_pos hdepth).symm⟩

theorem answeredIn_cons {u : Showing σ} (h : u.AnsweredIn shown) (v : Showing σ) :
    u.AnsweredIn (v :: shown) := by
  intro r hr
  obtain ⟨links, hlinks, hall⟩ := h r hr
  refine ⟨links, hlinks, fun l hl => ?_⟩
  obtain ⟨w, hw, hshows⟩ := hall l hl
  exact ⟨w, List.mem_cons_of_mem v hw, hshows⟩

/-- Unless it stops, all pending nodes are shown, and so is every entry of every answer. -/
theorem complete (h : Unrolls e limit s pending shown none) :
    (∀ n ∈ pending, ∃ v ∈ shown, v.node = n) ∧ ∀ u ∈ shown, u.AnsweredIn shown := by
  generalize hstop : (none : Option Failure) = stop at h
  induction h with
  | done => simp
  | @leaf s n rest behind stop hdepth hbehind ih =>
      obtain ⟨hpending, hanswers⟩ := ih hstop
      refine ⟨fun m hm => ?_, List.forall_mem_cons.2 ⟨fun r hr => ?_, fun u hu => ?_⟩⟩
      · rcases List.mem_cons.1 hm with rfl | hm
        · exact ⟨_, List.mem_cons_self, rfl⟩
        · obtain ⟨v, hv, hnode⟩ := hpending m hm
          exact ⟨v, List.mem_cons_of_mem _ hv, hnode⟩
      · cases hr
      · exact answeredIn_cons (hanswers u hu) _
  | stops hdepth hanswer => cases hstop
  | @inner s n links rest behind stop hdepth hanswer hbehind ih =>
      obtain ⟨hpending, hanswers⟩ := ih hstop
      refine ⟨fun m hm => ?_, List.forall_mem_cons.2 ⟨fun r hr => ?_, fun u hu => ?_⟩⟩
      · rcases List.mem_cons.1 hm with rfl | hm
        · exact ⟨_, List.mem_cons_self, rfl⟩
        · obtain ⟨v, hv, hnode⟩ := hpending m (List.mem_append_right _ hm)
          exact ⟨v, List.mem_cons_of_mem _ hv, hnode⟩
      · injection hr with hr
        subst hr
        refine ⟨links, hanswer, fun l hl => ?_⟩
        obtain ⟨v, hv, hnode⟩ := hpending (.child l.item (l.locations (e.direction s) n.item) n)
          (List.mem_append_left _ (Node.mem_sorted.2 (List.mem_map_of_mem hl)))
        refine ⟨v, List.mem_cons_of_mem _ hv, ?_⟩
        rw [hnode]
        exact Node.shows_child _ _ l
      · exact answeredIn_cons (hanswers u hu) _

/-- If it stops, then at the last resolution, and the others were answered. -/
theorem last_fails (h : Unrolls e limit s pending shown (some f)) :
    ∃ earlier r, resolutions shown = earlier ++ [r] ∧ r.answer = .error f
      ∧ ∀ x ∈ earlier, ∃ links, x.answer = .ok links := by
  generalize hstop : some f = stop at h
  induction h with
  | done => cases hstop
  | leaf hdepth hbehind ih => exact ih hstop
  | @stops s n rest f' hdepth hanswer =>
      injection hstop with hstop
      subst hstop
      exact ⟨[], e.resolution n s, rfl, hanswer, fun x hx => by cases hx⟩
  | @inner s n links rest behind stop hdepth hanswer hbehind ih =>
      obtain ⟨earlier, r, hlog, hr, hearlier⟩ := ih hstop
      have hanswered := List.forall_mem_cons.2 ⟨⟨links, hanswer⟩, hearlier⟩
      exact ⟨e.resolution n s :: earlier, r, congrArg (e.resolution n s :: ·) hlog, hr, hanswered⟩

end Unrolls

-- ============================================ whole listings

/-- The event that ends a listing of the tree changes nothing. -/
theorem Explorer.expand_eq
    (hlist : e.list limit (Node.sorted e.rootNodes) s = ⟨result, events, t⟩) :
    ∃ more, e.expand limit s = ⟨result, more, t⟩ := by
  unfold Explorer.expand
  cases result with
  | error f =>
      rw [Action.bind_of_error hlist]
      exact ⟨_, rfl⟩
  | ok rows =>
      rw [Action.bind_of_ok hlist]
      exact ⟨_, rfl⟩

/-- A tree is listed, and asking may turn the session, in any way that hangs on the state. To write
down the resolutions changes nothing. They are those of the nodes that are shown, in the order in
which these are shown, and each starts in the state that the one before it left. A row is made in
that state as well. So with `d` for the direction that the session held when the resolution before
it was over, or at the start: the tag of `d` stands at all levels of the identity, what is read out
is what is said in `d`, and the item is resolved in `d`, unless the node lies at the limit. A node
that is no root shows an entry of what was answered about a node shown before it, with the call
sites of the direction in which that resolution was put, whatever the session was turned to
meanwhile. A listing that succeeds has the rows of the nodes shown, and shows every entry of every
answer in this way. One that fails does so with its last resolution. -/
theorem rows_of_turning_session (e : Explorer σ) (limit : Nat) (s : σ) :
    let o := e.expand limit s
    let recorded := e.recorded.expand limit (s, [])
    recorded.result = o.result ∧ recorded.state.1 = o.state
      ∧ ∃ shown : List (Showing σ), recorded.state.2 = resolutions shown
        ∧ o.state = leftBy s (resolutions shown)
        ∧ (∀ rows, o.result = .ok rows →
            rows = shown.map Showing.row ∧ ∀ u ∈ shown, u.AnsweredIn shown)
        ∧ (∀ f, o.result = .error f → ∃ earlier r, resolutions shown = earlier ++ [r]
            ∧ r.answer = .error f ∧ ∀ x ∈ earlier, ∃ links, x.answer = .ok links)
        ∧ ∀ before v behind, shown = before ++ v :: behind →
            let now := leftBy s (resolutions before)
            let d := e.direction now
            v.row.id = "/".intercalate (v.node.ancestors.map fun a =>
                d.tag ++ "|" ++ Json.escaped a.item.uri.text ++ "|" ++ a.item.range.mark)
              ∧ v.row.spoken = v.node.item.spokenLabel d
              ∧ (v.resolution = none ↔ limit ≤ v.node.depth)
              ∧ (∀ r, v.resolution = some r →
                  r.direction = d ∧ r.item = v.node.item ∧ r.before = now
                    ∧ r.answer = (e.resolve d v.node.item now).result
                    ∧ r.after = (e.resolve d v.node.item now).state)
              ∧ ((∃ i ∈ e.roots, v.node = .root i) ∨ ∃ u ∈ before, u.Names v.node) := by
  intro o recorded
  obtain ⟨shown, stop, events, hunrolls, hlist, hlistRecorded⟩ :=
    unrolls_list e limit (Node.sorted e.rootNodes) s []
  obtain ⟨_, hexpand⟩ := Explorer.expand_eq hlist
  obtain ⟨_, hexpandRecorded⟩ := Explorer.expand_eq hlistRecorded
  have ho : o = _ := hexpand
  have hrecorded : recorded = _ := hexpandRecorded
  rw [hrecorded, ho]
  refine ⟨rfl, rfl, shown, rfl, rfl, fun rows hrows => ?_, fun f hf => ?_, ?_⟩
  · cases stop with
    | some f => cases hrows
    | none =>
        injection hrows with hrows
        exact ⟨hrows.symm, hunrolls.complete.2⟩
  · cases stop with
    | none => cases hf
    | some f' =>
        injection hf with hf
        subst hf
        exact hunrolls.last_fails
  · intro before v behind hshown now d
    rw [hshown] at hunrolls
    obtain ⟨later, hlater, hfrom⟩ := hunrolls.unrolls_behind (List.cons_ne_nil v behind)
    obtain ⟨hmem, hdirection, hresolution⟩ := hlater.first
    refine ⟨?_, ?_, ?_, fun r hr => ?_, ?_⟩
    · show v.node.identity v.direction = _
      rw [hdirection]
      rfl
    · show v.node.item.spokenLabel v.direction = _
      rw [hdirection]
    · rw [hresolution, ← Nat.not_lt]
      by_cases hdepth : v.node.depth < limit <;> simp [hdepth]
    · rw [hresolution] at hr
      by_cases hdepth : v.node.depth < limit
      · rw [if_pos hdepth] at hr
        injection hr with hr
        subst hr
        exact ⟨rfl, rfl, rfl, rfl, rfl⟩
      · rw [if_neg hdepth] at hr
        cases hr
    · rcases hfrom v.node hmem with hroot | hnamed
      · obtain ⟨i, hi, hnode⟩ := List.mem_map.1 (Node.mem_sorted.1 hroot)
        exact .inl ⟨i, hi, hnode.symm⟩
      · exact .inr hnamed

/-- A provider in a session that is turned while answers are pending. The schedule has, for each
question to come, the directions that are set one after the other until the answer is there. -/
def Provider.turned (p : Provider σ) : Explorer (Session σ × List (List Direction)) where
  roots := p.roots
  direction s := s.1.direction
  resolve d i := fun (session, schedule) =>
    let o := p.explorer.resolve d i session
    ⟨o.result, o.events,
      ({ o.state with direction := (schedule.headD []).getLastD session.direction },
        schedule.tail)⟩

/-- Turned to and fro while the first answer is pending, and once more with the second. -/
example :
    let p : Provider Unit :=
      ⟨[Sample.function "main" 0], fun _ => pure [⟨Sample.function "scan" 1, []⟩]⟩
    let schedule : List (List Direction) := [[.incoming, .outgoing, .incoming], [.outgoing]]
    (p.turned.expand 2 (⟨.outgoing, ()⟩, schedule)).result.map (·.map Row.spoken)
      = .ok ["calls from main", "callers of scan", "calls from scan"] := by
  cbv

end CallExplorer
