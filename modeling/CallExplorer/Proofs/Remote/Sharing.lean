/-
A client that queries share.

A query may be cancelled, the client may be lost, or the query gets through to the client
(`resolve_of_cancelled`, `resolve_of_lost`, `resolve_of_held`). Which of the three it is hangs on
the query first, so cancelled queries are turned away as before when the client is lost.

Whom the client was reached by can be told from the client if it writes that down (`recorded`). A
client is lost exactly if it broke down over one of the queries that reached it (`Accounted`). Every
query keeps that, so it holds after any queries.

# What this closes

`queries_of_shared`: for every client, what comes of a query after any other queries; when the
client can be had back; and from which symbols an exploration starts.
-/
import CallExplorer.Proofs.Action
import CallExplorer.Proofs.Tree.Questions
import CallExplorer.Remote

namespace CallExplorer

variable {γ : Type} {access : HierarchyClient γ} {q : Query}

-- ============================================ what reaches a client

/-- A query that reached a client, and what the client gave. -/
structure Contact where
  direction : Direction
  item : Item
  reply : Except Failure (Option (List Link))

/-- The client broke down over the query. -/
def Contact.Broke (x : Contact) : Prop := x.reply = .error .crashed

/-- A client that writes down what reaches it. -/
def HierarchyClient.recorded (access : HierarchyClient γ) :
    HierarchyClient (γ × List Contact) where
  prepare uri p := Action.zoom Prod.fst (fun c s => (c, s.2)) (access.prepare uri p)
  links d i := fun s =>
    let o := access.links d i s.1
    ⟨o.result, o.events, (o.state, s.2 ++ [⟨d, i, o.result⟩])⟩

namespace Shared

-- ============================================ one query

/-- A cancelled query touches nothing. -/
theorem resolve_of_cancelled (hq : q.cancelled = true) (s : Shared γ) :
    resolve access q s = ⟨.error .cancelled, [], s⟩ := by
  rw [resolve, if_pos hq]
  rfl

/-- Asking the state first. -/
theorem resolve_of_active (hq : q.cancelled = false) (s : Shared γ) :
    resolve access q s
      = if s.lost then ⟨.error .clientLost, [], s⟩
        else (do
          let links ← ask (access.links q.direction q.item)
          pure (links.getD [])) s := by
  have hactive : ¬ q.cancelled = true := by rw [hq]; exact Bool.false_ne_true
  have hget : (Action.get : Action (Shared γ) Failure (Shared γ)) s = ⟨.ok s, [], s⟩ := rfl
  rw [resolve, if_neg hactive, Action.bind_of_ok hget]
  split <;> rfl

/-- A client that is lost is left alone. -/
theorem resolve_of_lost (hq : q.cancelled = false) {s : Shared γ} (hs : s.lost = true) :
    resolve access q s = ⟨.error .clientLost, [], s⟩ := by
  rw [resolve_of_active hq, if_pos hs]

/-- Otherwise the query gets through to the client. -/
theorem resolve_of_held (hq : q.cancelled = false) {s : Shared γ} (hs : s.lost = false) :
    (resolve access q).ComesTo s ((access.links q.direction q.item s.client).result.map (·.getD []))
      (ask (access.links q.direction q.item) s).state := by
  have hheld : ¬ s.lost = true := by rw [hs]; exact Bool.false_ne_true
  have hresolve : resolve access q s
      = (do
          let links ← ask (access.links q.direction q.item)
          pure (links.getD [])) s := by
    rw [resolve_of_active hq, if_neg hheld]
  refine .of_same hresolve ?_
  cases hr : (access.links q.direction q.item s.client).result with
  | error f => exact .fails ⟨hr, rfl⟩
  | ok links => exact .bind ⟨hr, rfl⟩ ⟨rfl, rfl⟩

/-- A client is lost if it was before, or if it breaks down now. -/
theorem lost_ask {α : Type} (x : Action γ Failure α) (s : Shared γ) :
    (ask x s).state.lost = true ↔ s.lost = true ∨ (x s.client).result = .error .crashed := by
  show (s.lost || _) = true ↔ _
  rw [Bool.or_eq_true]
  refine or_congr_right ?_
  split <;> simp_all

/-- Otherwise asking it changes the client alone. -/
theorem ask_comesTo {α : Type} {x : Action γ Failure α} {s : Shared γ} {r : Except Failure α}
    {c : γ} (hx : x.ComesTo s.client r c) (hr : r ≠ .error .crashed) :
    (ask x).ComesTo s r { s with client := c } := by
  refine ⟨hx.result, ?_⟩
  have hlost : (ask x s).state.lost = s.lost := by
    rw [Bool.eq_iff_iff, lost_ask, hx.result]
    exact or_iff_left hr
  have hclient : (ask x s).state.client = c := hx.state
  rw [← hlost, ← hclient]

-- ============================================ many queries

/-- The client is lost exactly if it broke down over one of the queries that reached it. -/
def Accounted (s : Shared (γ × List Contact)) : Prop :=
  s.lost = true ↔ ∃ x ∈ s.client.2, x.Broke

theorem accounted_resolve (q : Query) (s : Shared (γ × List Contact)) (h : Accounted s) :
    Accounted (resolve access.recorded q s).state := by
  cases hq : q.cancelled with
  | true =>
      rw [resolve_of_cancelled hq]
      exact h
  | false =>
      cases hs : s.lost with
      | true =>
          rw [resolve_of_lost hq hs]
          exact h
      | false =>
          rw [(resolve_of_held hq hs).state, Accounted, lost_ask, show s.lost = true ↔ _ from h]
          show _ ↔ ∃ x ∈ s.client.2 ++ [(⟨q.direction, q.item,
            (access.links q.direction q.item s.client.1).result⟩ : Contact)], x.Broke
          simp only [List.mem_append, List.mem_singleton, or_and_right, exists_or,
            exists_eq_left]
          rfl

/-- After any queries the client is lost exactly if it broke down over one of them. -/
theorem accounted_afterAll (access : HierarchyClient γ) (roots : List Item) (c : γ)
    (past : List Query) :
    Accounted ((provider access.recorded roots).afterAll past { client := (c, []) }) := by
  refine Provider.holds_afterAll accounted_resolve ?_ past
  exact iff_of_false Bool.false_ne_true fun ⟨x, hx, _⟩ => by cases hx

end Shared

-- ============================================ where an exploration starts

namespace HierarchyClient

variable {path : String} {p : Position} {uri : Uri} {c : γ} {roots : List Item}

/-- The symbols that were named, of which there must be one at least. -/
def named (path : String) (p : Position) : List Item → Except Failure (List Item)
  | [] => .error (.symbolNotFound path (p.line, p.character))
  | roots => .ok roots

theorem named_eq_ok_iff {items : List Item} :
    named path p items = .ok roots ↔ roots ≠ [] ∧ items = roots := by
  cases items with
  | nil =>
      constructor
      · intro h
        cases h
      · rintro ⟨hne, rfl⟩
        exact absurd rfl hne
  | cons i rest =>
      constructor
      · intro h
        cases h
        exact ⟨List.cons_ne_nil i rest, rfl⟩
      · rintro ⟨-, rfl⟩
        rfl

theorem lift_uri (huri : Uri.ofPath path = .ok uri) :
    Action.lift ((Uri.ofPath path).mapError CallExplorer.Failure.noUri)
      = (pure uri : Action γ CallExplorer.Failure Uri) := by
  rw [huri]
  rfl

/-- Finding out where to start is asking the client once. -/
theorem start_comesTo (huri : Uri.ofPath path = .ok uri) (p : Position) (c : γ) :
    (access.start path p).ComesTo c
      ((access.prepare uri p c).result.bind fun answer => named path p (answer.getD []))
      (access.prepare uri p c).state := by
  rw [start, lift_uri huri, Action.pure_bind]
  cases hr : (access.prepare uri p c).result with
  | error f => exact .fails ⟨hr, rfl⟩
  | ok answer =>
      refine .bind ⟨hr, rfl⟩ ?_
      rcases answer with _ | _ | ⟨i, rest⟩
      all_goals exact ⟨rfl, rfl⟩

/-- An exploration starts from the symbols that the client names, if it names any. -/
theorem start_eq_ok_iff :
    (access.start path p c).result = .ok roots
      ↔ roots ≠ [] ∧ ∃ uri, Uri.ofPath path = .ok uri
        ∧ (access.prepare uri p c).result = .ok (some roots) := by
  cases huri : Uri.ofPath path with
  | error e =>
      have hfails : (access.start path p c).result = .error (.noUri e) := by
        rw [start, huri]
        rfl
      rw [hfails]
      refine iff_of_false (fun h => ?_) fun ⟨_, _, h, _⟩ => ?_
      · cases h
      · cases h
  | ok uri =>
      have hresult : (access.start path p c).result = _ := (start_comesTo huri p c).result
      simp only [hresult, Except.ok.injEq, exists_eq_left']
      cases (access.prepare uri p c).result with
      | error f =>
          refine iff_of_false (fun h => ?_) fun h => ?_
          · cases h
          · cases h.2
      | ok answer =>
          refine named_eq_ok_iff.trans (and_congr_right fun hne => ?_)
          rw [Except.ok.injEq]
          cases answer with
          | none => exact iff_of_false (fun h => hne h.symm) (Option.some_ne_none roots).symm
          | some items => exact (Option.some_inj).symm

end HierarchyClient

/-- For every client, whatever it gives and whenever it breaks down. An exploration starts from the
symbols that the client names, in their order, and there must be one at least. After any queries
whatever, a query that is cancelled is turned away and nothing is touched. Any other reaches the
client once, with its item in its direction, as long as the client did not break down over an
earlier one, and it comes to what the client gives, no list being an empty one. Once the client
broke down it is left alone, and a query that is not cancelled is told that it is lost. And the
client can be had back exactly if it never broke down. -/
theorem queries_of_shared (access : HierarchyClient γ) :
    (∀ path position c roots, (access.start path position c).result = .ok roots
        ↔ roots ≠ [] ∧ ∃ uri, Uri.ofPath path = .ok uri
          ∧ (access.prepare uri position c).result = .ok (some roots))
      ∧ ∀ roots c past q,
        let p := Shared.provider access.recorded roots
        let s := p.afterAll past { client := (c, []) }
        let reply := access.links q.direction q.item s.client.1
        p.roots = roots
          ∧ (q.cancelled = true → p.resolve q s = ⟨.error .cancelled, [], s⟩)
          ∧ (q.cancelled = false → (∀ x ∈ s.client.2, ¬ x.Broke) →
              (p.resolve q s).result = reply.result.map (·.getD [])
                ∧ (p.resolve q s).state.client
                  = (reply.state, s.client.2 ++ [⟨q.direction, q.item, reply.result⟩]))
          ∧ (q.cancelled = false → (∃ x ∈ s.client.2, x.Broke) →
              p.resolve q s = ⟨.error .clientLost, [], s⟩)
          ∧ ((∀ x ∈ s.client.2, ¬ x.Broke) → s.reclaim = .ok s.client)
          ∧ ((∃ x ∈ s.client.2, x.Broke) → s.reclaim = .error .clientLost) := by
  refine ⟨fun path position c roots => HierarchyClient.start_eq_ok_iff, ?_⟩
  intro roots c past q p s reply
  have hlost : s.lost = true ↔ ∃ x ∈ s.client.2, x.Broke :=
    Shared.accounted_afterAll access roots c past
  have hheld : (∀ x ∈ s.client.2, ¬ x.Broke) → s.lost = false := by
    intro hnone
    rw [← Bool.not_eq_true, hlost]
    exact fun ⟨x, hx, hbroke⟩ => hnone x hx hbroke
  refine ⟨rfl, fun hq => Shared.resolve_of_cancelled hq s, fun hq hnone => ?_,
    fun hq hbroke => Shared.resolve_of_lost hq (hlost.2 hbroke), fun hnone => ?_, fun hbroke => ?_⟩
  · have hthrough : (p.resolve q).ComesTo s _ _ := Shared.resolve_of_held hq (hheld hnone)
    refine ⟨hthrough.result, ?_⟩
    rw [hthrough.state]
    rfl
  · rw [Shared.reclaim, hheld hnone]
    rfl
  · rw [Shared.reclaim, hlost.2 hbroke]
    rfl

end CallExplorer
