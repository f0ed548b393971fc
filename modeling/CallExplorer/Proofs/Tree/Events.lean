/-
What a listing leaves in the log.

While a tree is listed, the provider leaves what events it likes. Two kinds of events come from the
listing itself. Each answer is noted as soon as it is there, with the direction, the name of the
item and the number of children; and the end of a listing is noted, with the number of rows. What
fails is not noted at all.

# Questions and their notes

A listing puts questions one after the other, and `Provider.logged` says what these leave in the
log: the events of the provider, and behind them the note of the answer. That the log of a listing
is that of its questions is an induction on the pending nodes (`list_logged`). Nothing is left in
between, neither for a row nor for a node at the limit.

Which questions these are is known from the derivation of the listing: those about the nodes shown
above the limit, in the order in which they are shown.

# Counting rows by notes

Every node that is shown is a sibling that the derivation began with, or one of the children of a
node that was asked about. No note is without its children and no child is shown twice, so the
numbers of children add up to the number of rows (`Listed.length_shown`).

# Quiet providers

A provider of its own could leave events that look like those of a listing. Call graphs and clients
of language servers do not (`Provider.Quiet`), and of their logs the notes of the listing can be told
by the part of the program they name.

# What this closes

`events_account_for_rows`, for every provider and every limit.
-/
import CallExplorer.Graph.Basic
import CallExplorer.Remote
import CallExplorer.Proofs.Tree.Questions
import CallExplorer.Proofs.Tree.SiblingOrder
import CallExplorer.Proofs.Tree.Turning
import CallExplorer.Proofs.Tree.Unfinished

namespace CallExplorer

open Provider (question)

variable {σ : Type} {p : Provider σ} {d : Direction} {limit : Nat} {s : σ} {n : Node}
  {siblings shown : List Node} {asked : List Exchange} {result : Except Failure (List Row)}

-- ============================================ notes

/-- What is noted of an exchange: the number of children, if there was an answer. -/
def Exchange.note (x : Exchange) : List Event :=
  match x.answer with
  | .ok links => [.expandedCall x.query.direction x.query.item.name links.length]
  | .error _ => []

/-- What is noted of the end of a listing: the number of rows, if there are any to count. -/
def endNote (limit : Nat) : Except Failure (List Row) → List Event
  | .ok rows => [.expandedTree rows.length limit]
  | .error _ => []

/-- The number of children that an event tells. -/
def Event.children : Event → Nat
  | .expandedCall _ _ children => children
  | _ => 0

/-- Whether an event names one of the two parts of the program that list trees. -/
def Event.ofListing (e : Event) : Bool :=
  e.target = "callscope::data_source" || e.target = "callscope::tree"

/-- A node was asked about, and there was an answer. -/
def Exchange.Expands (d : Direction) (n : Node) (x : Exchange) : Prop :=
  ∃ links, x = ⟨question d n, .ok links⟩

/-- All notes are in the name of the listing. -/
theorem ofListing_note (x : Exchange) : ∀ e ∈ x.note, e.ofListing = true := by
  intro e he
  unfold Exchange.note at he
  split at he
  · rw [List.mem_singleton.1 he]
    rfl
  · cases he

theorem ofListing_endNote (limit : Nat) (result : Except Failure (List Row)) :
    ∀ e ∈ endNote limit result, e.ofListing = true := by
  intro e he
  cases result with
  | error f => cases he
  | ok rows =>
      rw [List.mem_singleton.1 he]
      rfl

-- ============================================ the log of questions

namespace Provider

/-- What questions leave in the log that are put one after the other. -/
def logged (p : Provider σ) : List Query → σ → List Event
  | [], _ => []
  | q :: qs, s =>
    (p.resolve q s).events ++ Exchange.note ⟨q, (p.resolve q s).result⟩
      ++ p.logged qs (p.resolve q s).state

/-- Of what a provider leaves nothing is in the name of the listing. -/
def Quiet (p : Provider σ) : Prop := ∀ q s, ∀ e ∈ (p.resolve q s).events, e.ofListing = false

theorem queries_exchanges (p : Provider σ) (qs : List Query) (s : σ) :
    (p.exchanges qs s).map (·.query) = qs := by
  induction qs generalizing s with
  | nil => rfl
  | cons q qs ih => exact congrArg (q :: ·) (ih _)

theorem exchanges_cons {q : Query} {answer : Except Failure (List Link)}
    (hr : (p.resolve q s).result = answer) (qs : List Query) :
    p.exchanges (q :: qs) s = ⟨q, answer⟩ :: p.exchanges qs (p.resolve q s).state :=
  congrArg (fun a => (⟨q, a⟩ : Exchange) :: _) hr

/-- An answered question leaves its note, and the others follow. -/
theorem logged_of_ok {q : Query} {links : List Link} (hr : (p.resolve q s).result = .ok links)
    (qs : List Query) :
    p.logged (q :: qs) s
      = (p.resolve q s).events ++ [.expandedCall q.direction q.item.name links.length]
          ++ p.logged qs (p.resolve q s).state := by
  rw [logged, hr]
  rfl

/-- A question that fails leaves no note. -/
theorem logged_of_error {q : Query} {f : Failure} (hr : (p.resolve q s).result = .error f) :
    p.logged [q] s = (p.resolve q s).events := by
  rw [logged, hr]
  simp [Exchange.note, logged]

/-- Of a quiet provider the notes are all that is left in the name of the listing. -/
theorem Quiet.filter_logged (h : p.Quiet) (qs : List Query) (s : σ) :
    (p.logged qs s).filter Event.ofListing = (p.exchanges qs s).flatMap Exchange.note := by
  induction qs generalizing s with
  | nil => rfl
  | cons q qs ih =>
      have hown : (p.resolve q s).events.filter Event.ofListing = [] :=
        List.filter_eq_nil_iff.2 fun e he => by simp [h q s e he]
      have hnote := List.filter_eq_self.2 (ofListing_note ⟨q, (p.resolve q s).result⟩)
      rw [logged, List.filter_append, List.filter_append, hown, hnote, ih, List.nil_append]
      rfl

end Provider

-- ============================================ the log of a listing

/-- A listing works off its pending nodes by questions, and leaves what these leave. The direction
stays what it is, and so does all of this for a provider that writes down its exchanges. -/
theorem list_logged (p : Provider σ) (d : Direction) (limit : Nat) (pending : List Node) (s : σ)
    (past : List Exchange) :
    ∃ qs result,
      p.explorer.list limit pending ⟨d, s⟩ = ⟨result, p.logged qs s, ⟨d, p.afterAll qs s⟩⟩
        ∧ p.recorded.explorer.list limit pending ⟨d, (s, past)⟩
          = ⟨result, p.logged qs s, ⟨d, (p.afterAll qs s, past ++ p.exchanges qs s)⟩⟩ := by
  induction pending using Explorer.list.induct limit generalizing s past with
  | case1 =>
      refine ⟨[], .ok [], Explorer.list_nil _, ?_⟩
      rw [Explorer.list_nil, Provider.exchanges, List.append_nil]
      rfl
  | case2 n rest ihKids ihRest =>
      by_cases hdepth : n.depth < limit
      · have hask : p.explorer.resolve d n.item ⟨d, s⟩
            = ⟨(p.resolve (question d n) s).result, (p.resolve (question d n) s).events,
                ⟨d, (p.resolve (question d n) s).state⟩⟩ := rfl
        have hwriting : p.recorded.explorer.resolve d n.item ⟨d, (s, past)⟩
            = ⟨(p.resolve (question d n) s).result, (p.resolve (question d n) s).events,
                ⟨d, ((p.resolve (question d n) s).state,
                  past ++ [⟨question d n, (p.resolve (question d n) s).result⟩])⟩⟩ := rfl
        cases hr : (p.resolve (question d n) s).result with
        | error f =>
            rw [hr] at hask hwriting
            have hbare :=
              Explorer.list_of_error (e := p.explorer) (s := ⟨d, s⟩) hdepth rest hask
            have hwritten := Explorer.list_of_error (e := p.recorded.explorer)
              (s := ⟨d, (s, past)⟩) hdepth rest hwriting
            refine ⟨[question d n], .error f, ?_, ?_⟩
            · rw [Provider.logged_of_error hr]
              exact hbare
            · rw [Provider.logged_of_error hr, Provider.exchanges_cons hr]
              exact hwritten
        | ok links =>
            rw [hr] at hask hwriting
            obtain ⟨qs, result, hlist, hlistRecorded⟩ :=
              ihKids hdepth d links (p.resolve (question d n) s).state
                (past ++ [⟨question d n, .ok links⟩])
            have hbare :=
              Explorer.list_of_ok (e := p.explorer) (s := ⟨d, s⟩) hdepth hask hlist
            have hwritten := Explorer.list_of_ok (e := p.recorded.explorer)
              (s := ⟨d, (s, past)⟩) hdepth hwriting hlistRecorded
            rw [List.append_assoc past] at hwritten
            refine ⟨question d n :: qs, result.map (Row.ofNode d n :: ·), ?_, ?_⟩
            · rw [Provider.logged_of_ok hr]
              exact hbare
            · rw [Provider.logged_of_ok hr, Provider.exchanges_cons hr]
              exact hwritten
      · obtain ⟨qs, result, hlist, hlistRecorded⟩ := ihRest s past
        exact ⟨qs, _, Explorer.list_at_limit hdepth hlist,
          Explorer.list_at_limit hdepth hlistRecorded⟩

/-- The end of a listing is noted behind all else, if it succeeds. -/
theorem Explorer.expand_of_list {e : Explorer σ} {t : σ} {events : List Event}
    (hlist : e.list limit (Node.sorted e.rootNodes) s = ⟨result, events, t⟩) :
    e.expand limit s = ⟨result, events ++ endNote limit result, t⟩ := by
  unfold Explorer.expand
  cases result with
  | error f =>
      rw [Action.bind_of_error hlist, endNote, List.append_nil]
  | ok rows =>
      rw [Action.bind_of_ok hlist]
      rfl

/-- The log of a listing of the tree is that of its questions, and the note of its end. -/
theorem rows_logged (p : Provider σ) (d : Direction) (limit : Nat) (s : σ) :
    ∃ qs, (p.recorded.rows d limit (s, [])).state.2 = p.exchanges qs s
      ∧ (p.rows d limit s).events
        = p.logged qs s ++ endNote limit (p.rows d limit s).result := by
  obtain ⟨qs, result, hlist, hlistRecorded⟩ :=
    list_logged p d limit (Node.sorted p.explorer.rootNodes) s []
  have hbare := Explorer.expand_of_list (e := p.explorer) hlist
  have hwritten := Explorer.expand_of_list (e := p.recorded.explorer) hlistRecorded
  refine ⟨qs, ?_, ?_⟩
  · unfold Provider.rows
    rw [hwritten]
    exact List.nil_append _
  · unfold Provider.rows
    rw [hbare]

-- ============================================ notes and nodes

/-- The questions of a listing are about the nodes above the limit, one by one and in order. -/
theorem Listed.expands (h : Listed d limit siblings shown asked) :
    List.Forall₂ (Exchange.Expands d) (expanded limit shown) asked := by
  induction h with
  | nil => exact .nil
  | @leaf n rest behind asked hdepth hbehind ih =>
      have hnone : ¬ n.depth < limit := Nat.not_lt.2 hdepth
      rw [expanded, List.filter_cons_of_neg (by simpa using hnone)]
      exact ih
  | @inner n links rest below behind asked askedBehind hdepth hbelow hbehind ihBelow ihBehind =>
      rw [expanded_cons hdepth, expanded_append]
      exact .cons ⟨links, rfl⟩ (List.rel_append ihBelow ihBehind)

/-- So are those of a listing that breaks off, the last of which is about the last such node. -/
theorem Unfinished.expands {f : Failure} (h : Unfinished d limit f siblings shown asked) :
    ∃ nodes n answered, expanded limit shown = nodes ++ [n]
      ∧ asked = answered ++ [⟨question d n, .error f⟩]
      ∧ List.Forall₂ (Exchange.Expands d) nodes answered := by
  induction h with
  | @here n rest hdepth =>
      refine ⟨[], n, [], ?_, rfl, .nil⟩
      rw [expanded_cons hdepth]
      rfl
  | @inside n links rest below asked hdepth hbelow ih =>
      obtain ⟨nodes, m, answered, hnodes, rfl, hexpands⟩ := ih
      refine ⟨n :: nodes, m, _ :: answered, ?_, rfl, .cons ⟨links, rfl⟩ hexpands⟩
      rw [expanded_cons hdepth, hnodes]
      rfl
  | @after n rest shown behind asked askedBehind hfirst hbehind ih =>
      obtain ⟨nodes, m, answered, hnodes, rfl, hexpands⟩ := ih
      refine ⟨expanded limit shown ++ nodes, m, asked ++ answered, ?_, ?_,
        List.rel_append hfirst.expands hexpands⟩
      · rw [expanded_append, hnodes, List.append_assoc]
      · rw [List.append_assoc]

/-- The numbers of children that notes tell, all together. -/
def childrenNoted : List Event → Nat
  | [] => 0
  | e :: rest => e.children + childrenNoted rest

theorem childrenNoted_append (notes more : List Event) :
    childrenNoted (notes ++ more) = childrenNoted notes + childrenNoted more := by
  induction notes with
  | nil => exact (Nat.zero_add _).symm
  | cons e rest ih => rw [List.cons_append, childrenNoted, childrenNoted, ih, Nat.add_assoc]

/-- What is shown of siblings are these and the children that the notes tell of. -/
theorem Listed.length_shown (h : Listed d limit siblings shown asked) :
    shown.length = siblings.length + childrenNoted (asked.flatMap Exchange.note) := by
  induction h with
  | nil => rfl
  | leaf hdepth hbehind ih =>
      rw [List.length_cons, List.length_cons, ih]
      omega
  | @inner n links rest below behind asked askedBehind hdepth hbelow hbehind ihBelow ihBehind =>
      have hkids : (Node.sorted (n.children d links)).length = links.length := by
        rw [Node.length_sorted, Node.children, List.length_map]
      have hfirst : childrenNoted (Exchange.note ⟨question d n, .ok links⟩) = links.length :=
        Nat.add_zero _
      rw [List.flatMap_cons, List.flatMap_append, childrenNoted_append, childrenNoted_append,
        hfirst, List.length_cons, List.length_cons, List.length_append, ihBelow, ihBehind, hkids]
      omega

-- ============================================ quiet providers

/-- A call graph leaves nothing at all. -/
theorem CallGraph.quiet_provider (g : CallGraph) : (g.provider (σ := σ)).Quiet := by
  rintro ⟨d, i, cancelled⟩ s e he
  cases cancelled with
  | true => cases he
  | false => cases he

section Leaving

variable {τ ε α β : Type} {x : Action τ ε α} {f : α → Action τ ε β}

/-- Nothing that an action leaves is in the name of the listing. -/
def Action.LeavesOther (x : Action τ ε α) : Prop := ∀ s, ∀ e ∈ (x s).events, e.ofListing = false

theorem Action.LeavesOther.bind (hx : x.LeavesOther) (hf : ∀ a, (f a).LeavesOther) :
    (x >>= f).LeavesOther := by
  intro s
  have hfirst := hx s
  cases ho : x s with
  | mk result events t =>
      rw [ho] at hfirst
      cases result with
      | error e =>
          rw [Action.bind_of_error ho]
          exact hfirst
      | ok a =>
          rw [Action.bind_of_ok ho]
          exact List.forall_mem_append.2 ⟨hfirst, hf a t⟩

theorem Action.leavesOther_of_nil (h : ∀ s, (x s).events = []) : x.LeavesOther := by
  intro s
  rw [h s]
  exact List.forall_mem_nil _

theorem Action.leavesOther_note {event : Event} (h : event.ofListing = false) :
    (Action.note event : Action τ ε Unit).LeavesOther :=
  fun _ => List.forall_mem_singleton.2 h

end Leaving

namespace Server

/-- A client speaks of its requests, in its own name. -/
theorem Client.leavesOther_request {α : Type} (decode : Decoder α) (method : String)
    (params : Option Json) : (Client.request decode method params).LeavesOther := by
  unfold Client.request
  apply Action.LeavesOther.bind (Action.leavesOther_of_nil fun _ => rfl)
  intro id
  apply Action.LeavesOther.bind (Action.leavesOther_note rfl)
  intro _
  apply Action.LeavesOther.bind (Action.leavesOther_of_nil fun _ => rfl)
  intro _
  apply Action.LeavesOther.bind (Action.leavesOther_of_nil fun _ => rfl)
  intro reply
  cases reply.refusal with
  | none => exact Action.leavesOther_of_nil fun _ => rfl
  | some r =>
      apply Action.LeavesOther.bind (Action.leavesOther_note rfl)
      intro _
      exact Action.leavesOther_of_nil fun _ => rfl

theorem Client.leavesOther_needSession : Client.needSession.LeavesOther := by
  unfold Client.needSession
  apply Action.LeavesOther.bind (Action.leavesOther_of_nil fun _ => rfl)
  intro c
  cases c.initialised with
  | true => exact Action.leavesOther_of_nil fun _ => rfl
  | false => exact Action.leavesOther_of_nil fun _ => rfl

/-- So a client that queries share is a quiet provider. -/
theorem Client.quiet_provider (roots : List Item) :
    (Shared.provider Client.access roots).Quiet := by
  intro q
  have hlinks : (Client.access.links q.direction q.item).LeavesOther :=
    Client.leavesOther_needSession.bind fun _ => Client.leavesOther_request _ _ _
  have hask : (Shared.ask (Client.access.links q.direction q.item)).LeavesOther :=
    fun shared => hlinks shared.client
  show (Shared.resolve Client.access q).LeavesOther
  unfold Shared.resolve
  cases q.cancelled with
  | true => exact Action.leavesOther_of_nil fun _ => rfl
  | false =>
      apply Action.LeavesOther.bind (Action.leavesOther_of_nil fun _ => rfl)
      intro shared
      cases shared.lost with
      | true => exact Action.leavesOther_of_nil fun _ => rfl
      | false =>
          apply hask.bind
          intro links
          exact Action.leavesOther_of_nil fun _ => rfl

end Server

-- ============================================ whole listings

/-- The log accounts for the rows, whatever the provider is, and from each of its states. A listing
puts some questions one after the other; of each the log has what the provider left, and then, if
there was an answer, the note with the direction, the name and the number of children. Behind them
all the number of rows is noted, if there are any to count. So if the provider is quiet, the notes
are all that is in the name of the listing.

In a listing that succeeds the questions are those about the nodes shown above the limit, in the
order of their rows, each of them with its answer, and the rows are as many as the roots and the
children noted together. If a question fails, that one is the last, and all the notes are of the
questions before it. -/
theorem events_account_for_rows (p : Provider σ) (d : Direction) (limit : Nat) (s : σ) :
    let o := p.rows d limit s
    let asked := (p.recorded.rows d limit (s, [])).state.2
    let notes := asked.flatMap Exchange.note
    o.events = p.logged (asked.map (·.query)) s ++ endNote limit o.result
      ∧ asked = p.exchanges (asked.map (·.query)) s
      ∧ (p.Quiet → o.events.filter Event.ofListing = notes ++ endNote limit o.result)
      ∧ (∀ rows, o.result = .ok rows → ∃ shown,
          Listed d limit (Node.sorted (p.roots.map .root)) shown asked
            ∧ rows = shown.map (Row.ofNode d)
            ∧ List.Forall₂ (Exchange.Expands d) (shown.filter (·.depth < limit)) asked
            ∧ rows.length = p.roots.length + childrenNoted notes)
      ∧ ∀ f, o.result = .error f → ∃ shown nodes n answered,
          Unfinished d limit f (Node.sorted (p.roots.map .root)) shown asked
            ∧ shown.filter (·.depth < limit) = nodes ++ [n]
            ∧ asked = answered ++ [⟨question d n, .error f⟩]
            ∧ List.Forall₂ (Exchange.Expands d) nodes answered
            ∧ notes = answered.flatMap Exchange.note := by
  intro o asked notes
  obtain ⟨qs, hasked, hevents⟩ := rows_logged p d limit s
  have hqueries : asked.map (·.query) = qs := by
    rw [show asked = p.exchanges qs s from hasked, p.queries_exchanges]
  rw [hqueries]
  refine ⟨hevents, hasked, fun hquiet => ?_, fun rows hrows => ?_, fun f hf => ?_⟩
  · have hend := List.filter_eq_self.2 (ofListing_endNote limit o.result)
    rw [show o.events = _ from hevents, List.filter_append, hquiet.filter_logged, hend]
    exact congrArg (fun xs => List.flatMap Exchange.note xs ++ _) hasked.symm
  · obtain ⟨shown, hlisted, hshown⟩ := listed_of_rows hrows
    refine ⟨shown, hlisted, hshown, hlisted.expands, ?_⟩
    rw [hshown, List.length_map, hlisted.length_shown, Node.length_sorted, List.length_map]
  · have hfails : (p.unfolding d limit s).result = .error f := (p.rows_eq d limit s).1.symm.trans hf
    have hrecorded := (@rows_apply _ _ _ _ _ (follows_recorded p) d limit (s, []) s [] rfl).2
    have hwalk : asked = (p.unfolding d limit s).exchanges := congrArg Prod.snd hrecorded
    obtain ⟨shown, hunfinished⟩ := unfinished_unfolding hfails
    rw [← hwalk] at hunfinished
    obtain ⟨nodes, n, answered, hnodes, hlast, hexpands⟩ := hunfinished.expands
    refine ⟨shown, nodes, n, answered, hunfinished, hnodes, hlast, hexpands, ?_⟩
    show asked.flatMap Exchange.note = _
    rw [hlast, List.flatMap_append]
    exact List.append_nil _

/-- Two roots, one of which has two children, make four rows. -/
example :
    (Sample.program.provider.rows .outgoing 1 ()).events
      = [.expandedCall .outgoing "main" 2, .expandedCall .outgoing "scan" 0, .expandedTree 4 1] := by
  cbv

end CallExplorer
