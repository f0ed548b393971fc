/-
The span of a session.

A session lasts from an introduction that succeeds to a farewell that does. In between the server
may be told about documents and asked about symbols, and at no other time. The client keeps a flag
for it, which it sets and clears in the middle of operations that can fail at any step: at the
request, at the reply, at what the reply says.

Two histories tell the same as the flag does. One is what the user was told, turn by turn, whether
an operation succeeded. The other is what the server was told, message by message: the client says
`initialized` when the session begins and `exit` when it ends. `Opens` and `Closes` are the turns
that matter, `Opening` and `Closing` the messages.

# How the invariant goes

`Orderly` ties the flag to the messages. Whatever an operation writes, it writes one message after
the other, and between two of them the client is orderly as well (`Orderly.says`); so an operation
that breaks off half-way leaves an orderly client behind. The flag and the turns are tied by what
one turn does to the flag (`initialised_after`).

# What this closes

`span_of_session`, for every list of operations and every stream.
-/
import Mathlib.Data.List.Induction
import CallExplorer.Proofs.Past
import CallExplorer.Proofs.Server.Turns

namespace CallExplorer

namespace Server

-- ============================================ messages

namespace Message

variable {m : Message}

/-- The notification that a session begins. -/
def Opening (m : Message) : Prop := m.id = none ∧ m.method = "initialized"

/-- The notification that a session is over. -/
def Closing (m : Message) : Prop := m.id = none ∧ m.method = "exit"

/-- A message about documents or about calls. -/
def OfSession (m : Message) : Prop :=
  "textDocument/".toList <+: m.method.toList ∨ "callHierarchy/".toList <+: m.method.toList

instance : Decidable m.Opening := inferInstanceAs (Decidable (_ ∧ _))

instance : Decidable m.Closing := inferInstanceAs (Decidable (_ ∧ _))

instance : Decidable m.OfSession := inferInstanceAs (Decidable (_ ∨ _))

end Message

open Message (Opening Closing)

namespace Client

variable {c c' : Client} {m : Message}

/-- The messages that were written, the first message first. -/
def messages (c : Client) : List Message := c.sent.reverse.map (·.message)

/-- All the bytes that were written. -/
def written (c : Client) : List UInt8 := c.sent.reverse.flatMap Transmission.bytes

-- ============================================ the flag and the messages

/-- The flag is up as long as the last that was said about the session is that it begins. What
belongs into a session was said when that was so, and nothing was said by halves. -/
structure Orderly (c : Client) : Prop where
  clear : c.obstacle = none
  complete : ∀ t ∈ c.sent, t.complete = true
  flag : c.initialised = true ↔ Since Opening Closing c.messages
  within : AtEach (fun before m => m.OfSession → Since Opening Closing before) c.messages

theorem orderly_fresh (reads : Decoder Introduction) (process : Nat) (stream : List Arrival) :
    Orderly (fresh reads process stream) := by
  constructor
  · rfl
  · intro t ht
    cases ht
  · exact iff_of_false Bool.false_ne_true not_since_nil
  · exact atEach_nil

/-- One message more. It may belong into a session if the flag is up, and it takes the flag with
it if it is about the session. -/
theorem Orderly.says (h : Orderly c) (hclear : c'.obstacle = none)
    (hsent : c'.sent = ⟨m, true⟩ :: c.sent) (hm : m.OfSession → c.initialised = true)
    (hflag : c'.initialised = true ↔ m.Opening ∨ ¬ m.Closing ∧ c.initialised = true) :
    Orderly c' := by
  have hmessages : c'.messages = c.messages ++ [m] := by
    simp [messages, hsent]
  refine ⟨hclear, fun t ht => ?_, ?_, ?_⟩
  · rw [hsent] at ht
    rcases List.mem_cons.1 ht with rfl | ht
    · rfl
    · exact h.complete t ht
  · rw [hmessages, since_concat, hflag, h.flag]
  · rw [hmessages, atEach_concat]
    exact ⟨h.within, fun hsession => h.flag.1 (hm hsession)⟩

/-- A request is not about the session itself, so the flag stays. -/
theorem Orderly.answered (h : Orderly c) {method : String} {params : Option Json}
    (hm : (⟨some c.nextId, method, params⟩ : Message).OfSession → c.initialised = true)
    (stream : List Arrival) : Orderly (c.answered method params stream) := by
  refine h.says (m := ⟨some c.nextId, method, params⟩) h.clear rfl hm ?_
  have hopening : ¬ (⟨some c.nextId, method, params⟩ : Message).Opening := fun hopening => by
    cases hopening.1
  have hclosing : ¬ (⟨some c.nextId, method, params⟩ : Message).Closing := fun hclosing => by
    cases hclosing.1
  simp only [hopening, hclosing, not_false_eq_true, true_and, false_or]
  rfl

/-- The bytes of an orderly client are those of its messages. -/
theorem Orderly.written (h : Orderly c) : c.written = c.messages.flatMap Message.wire := by
  rw [Client.written, messages, List.flatMap_map]
  refine List.flatMap_congr fun t ht => ?_
  rw [Transmission.bytes, if_pos (h.complete t (List.mem_reverse.1 ht)), Message.frame_body]

-- ============================================ operations

theorem orderly_initialise (h : Orderly c) (root : Uri) : Orderly (initialise root c).state := by
  obtain ⟨events, heq⟩ := initialise_eq h.clear root
  have hasked : Orderly
      (c.answered "initialize" (some (introductionParams c.process root)) c.awaited.2) := by
    refine h.answered (fun hsession => ?_) _
    exact absurd hsession (by simp [Message.OfSession])
  rw [heq]
  cases c.awaited.1.bind (Reply.verdict c.introductions) with
  | error e => exact hasked
  | ok i =>
      refine hasked.says (m := ⟨none, "initialized", some (.object [])⟩) h.clear rfl ?_ ?_
      · intro hsession
        exact absurd hsession (by simp [Message.OfSession])
      · have hopen : (c.introduced root c.awaited.2).initialised = true := rfl
        exact iff_of_true hopen (.inl ⟨rfl, rfl⟩)

theorem orderly_shutdown (h : Orderly c) : Orderly (shutdown c).state := by
  obtain ⟨events, heq⟩ := shutdown_eq h.clear
  have hasked : Orderly (c.answered "shutdown" none c.awaited.2) := by
    refine h.answered (fun hsession => ?_) _
    exact absurd hsession (by simp [Message.OfSession])
  rw [heq]
  cases c.awaited.1.bind (Reply.verdict (.option .any)) with
  | error e => exact hasked
  | ok v =>
      refine hasked.says (m := ⟨none, "exit", none⟩) h.clear rfl ?_ ?_
      · intro hsession
        exact absurd hsession (by simp [Message.OfSession])
      · have hclosed : (c.dismissed c.awaited.2).initialised = false := rfl
        rw [hclosed]
        refine iff_of_false Bool.false_ne_true ?_
        simp [Opening, Closing]

/-- What needs a session goes out in one, or not at all. -/
theorem orderly_request (h : Orderly c) {α : Type} (decode : Decoder α) (method : String)
    (params : Option Json) : Orderly ((do needSession; request decode method params) c).state := by
  rw [inSession_eq]
  split
  next hopen =>
    obtain ⟨events, heq⟩ := request_eq h.clear decode method params
    rw [heq]
    exact h.answered (fun _ => hopen) _
  next => exact h

theorem orderly_openDocument (h : Orderly c) (uri : Uri) (language content : String) :
    Orderly (openDocument uri language content c).state := by
  rw [openDocument, inSession_eq]
  split
  next hopen =>
    rw [notify_clear h.clear]
    refine h.says (m := ⟨none, "textDocument/didOpen", _⟩) h.clear rfl (fun _ => hopen) ?_
    have hstays : ∀ params, (c.telling "textDocument/didOpen" params).initialised = true :=
      fun _ => hopen
    refine iff_of_true (hstays _) (.inr ⟨fun hclosing => ?_, hopen⟩)
    exact absurd hclosing.2 (by simp)
  next => exact h

theorem orderly_run (h : Orderly c) (o : Operation) : Orderly (o.run c).state := by
  cases o with
  | initialise root => exact orderly_initialise h root
  | openDocument uri language content => exact orderly_openDocument h uri language content
  | prepare uri p => exact orderly_request h _ _ _
  | links d i => exact orderly_request h _ _ _
  | shutdown => exact orderly_shutdown h

end Client

-- ============================================ the flag and the turns

namespace Operation

variable {o : Operation} {c : Client}

/-- What can only be done in a session. -/
def NeedsSession : Operation → Prop
  | .initialise _ => False
  | .openDocument .. => True
  | .prepare .. => True
  | .links .. => True
  | .shutdown => False

/-- Outside a session it is not done: nothing is written, nothing is read, no id is used up. -/
theorem run_outside (h : c.initialised = false) (ho : o.NeedsSession) :
    o.run c = ⟨.error .notInitialised, [], c⟩ := by
  have hrefused : ∀ {α : Type} (x : Action Client Failure α),
      (do Client.needSession; x) c = ⟨.error .notInitialised, [], c⟩ := by
    intro α x
    rw [Client.inSession_eq, h]
    rfl
  cases o with
  | initialise root => exact ho.elim
  | openDocument uri language content => exact hrefused _
  | prepare uri p => exact hrefused _
  | links d i => exact hrefused _
  | shutdown => exact ho.elim

/-- What becomes of the flag when an operation succeeds. -/
def flagAfter : Operation → Bool → Bool
  | .initialise _, _ => true
  | .shutdown, _ => false
  | _, was => was

theorem flagAfter_of_needsSession (ho : o.NeedsSession) (was : Bool) : o.flagAfter was = was := by
  cases o with
  | initialise root => exact ho.elim
  | openDocument uri language content => rfl
  | prepare uri p => rfl
  | links d i => rfl
  | shutdown => exact ho.elim

/-- Questions leave the flag alone, in a session or not. -/
theorem initialised_request (h : c.obstacle = none) {α : Type} (decode : Decoder α)
    (method : String) (params : Option Json) :
    ((do Client.needSession; Client.request decode method params) c).state.initialised
      = c.initialised := by
  obtain ⟨events, heq⟩ := Client.request_eq h decode method params
  rw [Client.inSession_eq]
  split
  · rw [heq]
    rfl
  · rfl

/-- A failure leaves the flag as it was. -/
theorem initialised_run (h : c.obstacle = none) (o : Operation) :
    (o.run c).state.initialised
      = match (o.run c).result with
        | .ok _ => o.flagAfter c.initialised
        | .error _ => c.initialised := by
  have hsame : ∀ {o : Operation}, o.NeedsSession → (o.run c).state.initialised = c.initialised →
      (o.run c).state.initialised
        = match (o.run c).result with
          | .ok _ => o.flagAfter c.initialised
          | .error _ => c.initialised := by
    intro o ho hflag
    rw [hflag, flagAfter_of_needsSession ho]
    cases (o.run c).result <;> rfl
  cases o with
  | initialise root =>
      obtain ⟨events, heq⟩ := Client.initialise_eq h root
      have hrun : (Operation.initialise root).run c = Client.initialise root c := rfl
      rw [hrun, heq]
      cases c.awaited.1.bind (Reply.verdict c.introductions) <;> rfl
  | openDocument uri language content =>
      refine hsame trivial ?_
      show (Client.openDocument uri language content c).state.initialised = c.initialised
      rw [Client.openDocument, Client.inSession_eq]
      split
      · rw [Client.notify_clear h]
        rfl
      · rfl
  | prepare uri p => exact hsame trivial (initialised_request h _ _ _)
  | links d i => exact hsame trivial (initialised_request h _ _ _)
  | shutdown =>
      obtain ⟨events, heq⟩ := Client.shutdown_eq h
      have hrun : Operation.shutdown.run c = Client.shutdown c := rfl
      rw [hrun, heq]
      cases c.awaited.1.bind (Reply.verdict (.option .any)) <;> rfl

end Operation

namespace Turn

variable {t : Turn}

/-- The operation gives what it was to give. -/
def Succeeds (t : Turn) : Prop := ∃ a, t.outcome.result = .ok a

/-- An introduction that succeeds. -/
def Opens (t : Turn) : Prop := (∃ root, t.operation = .initialise root) ∧ t.Succeeds

/-- A farewell that succeeds. -/
def Closes (t : Turn) : Prop := t.operation = .shutdown ∧ t.Succeeds

theorem initialised_of_error (h : t.before.obstacle = none) {e : Failure}
    (he : t.outcome.result = .error e) : t.after.initialised = t.before.initialised := by
  have hflag := Operation.initialised_run h t.operation
  rw [show (t.operation.run t.before).result = .error e from he] at hflag
  exact hflag

/-- After a turn the flag is up if the turn opened a session, or did not close the one there
was. -/
theorem initialised_after (h : t.before.obstacle = none) :
    t.after.initialised = true ↔ t.Opens ∨ ¬ t.Closes ∧ t.before.initialised = true := by
  cases hresult : t.outcome.result with
  | error e =>
      have hfails : ¬ t.Succeeds := by
        rintro ⟨a, ha⟩
        rw [hresult] at ha
        cases ha
      rw [initialised_of_error h hresult]
      simp [Opens, Closes, hfails]
  | ok a =>
      have hsucceeds : t.Succeeds := ⟨a, hresult⟩
      have hflag := Operation.initialised_run h t.operation
      rw [show (t.operation.run t.before).result = .ok a from hresult] at hflag
      rw [show t.after.initialised = _ from hflag]
      simp only [Opens, Closes, hsucceeds, and_true]
      cases t.operation <;> simp [Operation.flagAfter]

end Turn

-- ============================================ one turn more

theorem afterAll_concat (c : Client) (os : List Operation) (o : Operation) :
    c.afterAll (os ++ [o]) = (o.run (c.afterAll os)).state := by
  induction os generalizing c with
  | nil => rfl
  | cons first os ih => exact ih _

theorem turns_concat (os : List Operation) (o : Operation) (c : Client) :
    turns (os ++ [o]) c = turns os c ++ [⟨o, c.afterAll os⟩] := by
  induction os generalizing c with
  | nil => rfl
  | cons first os ih =>
      rw [List.cons_append, turns, turns, ih, List.cons_append]
      rfl

/-- The flag is up as long as the last that happened to sessions is that one was opened. -/
theorem initialised_afterAll {c : Client} (h : c.obstacle = none) (hclosed : c.initialised = false)
    (os : List Operation) :
    (c.afterAll os).initialised = true ↔ Since Turn.Opens Turn.Closes (turns os c) := by
  induction os using List.reverseRecOn with
  | nil =>
      show c.initialised = true ↔ _
      rw [hclosed]
      exact iff_of_false Bool.false_ne_true not_since_nil
  | append_singleton os o ih =>
      have hclear : (c.afterAll os).obstacle = none :=
        (holds_afterAll (fun _ hlater o => hlater.trans (Client.later_run hlater.clear o))
          (Client.later_refl h)).clear
      have hlast := Turn.initialised_after (t := ⟨o, c.afterAll os⟩) hclear
      rw [turns_concat, since_concat, ← ih, afterAll_concat]
      exact hlast

-- ============================================ the span of a session

/-- Whatever a client is told to do, in any order and with any server, and however it reads the
introduction of a server. It knows of an open session
exactly if an introduction succeeded and no farewell did after it. Without one, documents and
questions are refused, and that is all that happens. A failure never opens or closes a session.
And among the messages that are written, whole and one after the other, nothing about documents or
calls stands before the first `initialized`, nor behind an `exit` that has no `initialized` behind
it. -/
theorem span_of_session (reads : Decoder Introduction) (process : Nat) (stream : List Arrival)
    (os : List Operation) :
    let start := Client.fresh reads process stream
    let final := start.afterAll os
    (final.initialised = true ↔ Since Turn.Opens Turn.Closes (turns os start))
      ∧ (∀ t ∈ turns os start, t.before.initialised = false → t.operation.NeedsSession →
          t.outcome = ⟨.error .notInitialised, [], t.before⟩)
      ∧ (∀ t ∈ turns os start, ∀ e, t.outcome.result = .error e →
          t.after.initialised = t.before.initialised)
      ∧ final.written = final.messages.flatMap Message.wire
      ∧ AtEach (fun before m => m.OfSession → Since Opening Closing before) final.messages := by
  intro start final
  have horderly : final.Orderly :=
    holds_afterAll (fun _ h o => Client.orderly_run h o) (Client.orderly_fresh reads process stream)
  have hclear : ∀ t ∈ turns os start, t.before.obstacle = none := fun t ht =>
    (later_before rfl t ht).clear
  refine ⟨initialised_afterAll rfl rfl os, ?_, ?_, horderly.written, horderly.within⟩
  · intro t _ hclosed hneeds
    exact Operation.run_outside hclosed hneeds
  · intro t ht e he
    exact Turn.initialised_of_error (hclear t ht) he

end Server

end CallExplorer
