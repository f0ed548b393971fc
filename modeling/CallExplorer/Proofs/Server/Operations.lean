/-
What a client does when nothing is in its way.

There are five things that a client can be told to do. Each of them makes one request at most, and
if it makes one, then what comes of waiting for the answer settles the rest (`run_cases`): whether
the wait fails, or the server refuses, or there is a result, which is decoded.
-/
import CallExplorer.Proofs.Server.Reading
import CallExplorer.Proofs.Server.Session

namespace CallExplorer

namespace Server

-- ============================================ operations

/-- What a client can be told to do. -/
inductive Operation where
  | initialise (root : Uri)
  | openDocument (uri : Uri) (language content : String)
  | prepare (uri : Uri) (p : Position)
  | links (d : Direction) (i : Item)
  | shutdown

namespace Operation

/-- What an operation gives when it succeeds. -/
def Answer : Operation → Type
  | .initialise _ => Introduction
  | .openDocument .. => Unit
  | .prepare .. => Option (List Item)
  | .links .. => Option (List Link)
  | .shutdown => Unit

/-- A client does what it is told. -/
def run : (o : Operation) → Action Client Failure o.Answer
  | .initialise root => Client.initialise root
  | .openDocument uri language content => Client.openDocument uri language content
  | .prepare uri p => Client.prepare uri p
  | .links d i => Client.links d i
  | .shutdown => Client.shutdown

/-- What an operation makes of the result that a server sends, where `reads` is how introductions
are read. No result is sent for a document. -/
def decoder (reads : Decoder Introduction) : (o : Operation) → Decoder o.Answer
  | .initialise _ => reads
  | .openDocument .. => fun _ _ => .ok ()
  | .prepare .. => .option (.list Item.decoder)
  | .links d _ => .option (.list (Link.decoder d))
  | .shutdown => (Decoder.option .any).map fun _ => ()

end Operation

theorem bind_verdict_map {α β : Type} (x : Except Failure Reply) (decode : Decoder α) (f : α → β) :
    x.bind (Reply.verdict (decode.map f)) = (x.bind (Reply.verdict decode)).map f := by
  cases x with
  | error e => rfl
  | ok r =>
      show r.verdict (decode.map f) = (r.verdict decode).map f
      unfold Reply.verdict
      cases r.refusal with
      | some refusal => rfl
      | none =>
          show ((decodeValue decode _).map f).mapError _ = ((decodeValue decode _).mapError _).map f
          cases decodeValue decode (.orNull r.result) with
          | error e => rfl
          | ok a => rfl

namespace Client

variable {α : Type} {c : Client}

/-- The ids of the requests that were written, the first request first. -/
def ids (c : Client) : List Int := c.sent.reverse.filterMap fun t => t.message.id

theorem ids_asking (c : Client) (method : String) (params : Option Json) :
    (c.asking method params).ids = c.ids ++ [c.nextId] := by
  simp [ids, asking, record]

theorem ids_telling (c : Client) (method : String) (params : Option Json) :
    (c.telling method params).ids = c.ids := by
  simp [ids, telling, record]

-- ============================================ what an operation does

/-- The client of a session that was just closed. -/
def dismissed (c : Client) (stream : List Arrival) : Client :=
  { (c.answered "shutdown" none stream).telling "exit" none with initialised := false }

/-- A session is closed as soon as the server agrees. -/
theorem shutdown_eq (h : c.obstacle = none) :
    ∃ events, shutdown c
      = ⟨(c.awaited.1.bind (Reply.verdict (.option .any))).map fun _ => (), events,
          match c.awaited.1.bind (Reply.verdict (.option .any)) with
          | .ok _ => c.dismissed c.awaited.2
          | .error _ => c.answered "shutdown" none c.awaited.2⟩ := by
  obtain ⟨events, hrequest⟩ := request_eq h (.option .any) "shutdown" none
  rw [shutdown]
  generalize c.awaited.1.bind (Reply.verdict (.option .any)) = result at hrequest ⊢
  cases result with
  | error e =>
      rw [Action.bind_of_error hrequest]
      exact ⟨_, rfl⟩
  | ok v =>
      have hnotify := notify_clear (c := c.answered "shutdown" none c.awaited.2) h "exit" none
      rw [Action.bind_of_ok hrequest, Action.bind_of_ok hnotify]
      exact ⟨_, rfl⟩

/-- Nothing is asked from the first client to the second, and nothing is read. -/
structure Silent (c c' : Client) : Prop where
  clear : c'.obstacle = none
  ids : c'.ids = c.ids
  nextId : c'.nextId = c.nextId
  incoming : c'.incoming = c.incoming
  introductions : c'.introductions = c.introductions

theorem silent_refl (h : c.obstacle = none) : Silent c c := ⟨h, rfl, rfl, rfl, rfl⟩

theorem silent_telling (h : c.obstacle = none) (method : String) (params : Option Json) :
    Silent c (c.telling method params) := ⟨h, ids_telling c method params, rfl, rfl, rfl⟩

theorem Silent.setSession {c' : Client} (h : Silent c c') (isOpen : Bool) :
    Silent c { c' with initialised := isOpen } :=
  ⟨h.clear, h.ids, h.nextId, h.incoming, h.introductions⟩

theorem silent_introduced (h : c.obstacle = none) (root : Uri) (stream : List Arrival) :
    Silent (c.answered "initialize" (some (introductionParams c.process root)) stream)
      (c.introduced root stream) := by
  have hclear : (c.answered "initialize" (some (introductionParams c.process root)) stream).obstacle
      = none := h
  exact (silent_telling hclear "initialized" (some (.object []))).setSession true

theorem silent_dismissed (h : c.obstacle = none) (stream : List Arrival) :
    Silent (c.answered "shutdown" none stream) (c.dismissed stream) := by
  have hclear : (c.answered "shutdown" none stream).obstacle = none := h
  exact (silent_telling hclear "exit" none).setSession false

/-- The operation makes one request, and what comes of waiting for the answer settles what comes
of the operation. -/
structure Asks (o : Operation) (c : Client) : Prop where
  result : (o.run c).result = c.awaited.1.bind (Reply.verdict (o.decoder c.introductions))
  state : ∃ method params, Silent (c.answered method params c.awaited.2) (o.run c).state

theorem asks_of_request {o : Operation} (h : c.obstacle = none) (method : String)
    (params : Option Json) (heq : o.run c = request (o.decoder c.introductions) method params c) :
    Asks o c := by
  obtain ⟨events, hrequest⟩ := request_eq h (o.decoder c.introductions) method params
  rw [hrequest] at heq
  refine ⟨by rw [heq], method, params, ?_⟩
  rw [heq]
  exact silent_refl h

theorem asks_initialise (h : c.obstacle = none) (root : Uri) : Asks (.initialise root) c := by
  obtain ⟨events, heq⟩ := initialise_eq h root
  have hrun : (Operation.initialise root).run c = initialise root c := rfl
  refine ⟨by rw [hrun, heq]; rfl, "initialize", some (introductionParams c.process root), ?_⟩
  rw [hrun, heq]
  cases c.awaited.1.bind (Reply.verdict c.introductions) with
  | error e => exact silent_refl h
  | ok i => exact silent_introduced h root c.awaited.2

theorem asks_shutdown (h : c.obstacle = none) : Asks .shutdown c := by
  obtain ⟨events, heq⟩ := shutdown_eq h
  have hrun : Operation.shutdown.run c = shutdown c := rfl
  refine ⟨?_, "shutdown", none, ?_⟩
  · rw [hrun, heq]
    exact (bind_verdict_map _ _ _).symm
  · rw [hrun, heq]
    cases c.awaited.1.bind (Reply.verdict (.option .any)) with
    | error e => exact silent_refl h
    | ok v => exact silent_dismissed h c.awaited.2

/-- A request that is made in a session only. -/
theorem asks_in_session {o : Operation} (h : c.obstacle = none) (method : String)
    (params : Option Json)
    (heq : o.run c = (do needSession; request (o.decoder c.introductions) method params) c) :
    Silent c (o.run c).state ∨ Asks o c := by
  rw [inSession_eq] at heq
  by_cases hopen : c.initialised = true
  · rw [if_pos hopen] at heq
    exact .inr (asks_of_request h method params heq)
  · rw [if_neg hopen] at heq
    rw [heq]
    exact .inl (silent_refl h)

theorem silent_openDocument (h : c.obstacle = none) (uri : Uri) (language content : String) :
    Silent c (openDocument uri language content c).state := by
  rw [openDocument, inSession_eq]
  split
  · rw [notify_clear h]
    exact silent_telling h _ _
  · exact silent_refl h

/-- An operation makes a request or does not. -/
theorem run_cases (h : c.obstacle = none) (o : Operation) :
    Silent c (o.run c).state ∨ Asks o c := by
  cases o with
  | initialise root => exact .inr (asks_initialise h root)
  | openDocument uri language content => exact .inl (silent_openDocument h uri language content)
  | prepare uri p => exact asks_in_session h _ _ rfl
  | links d i => exact asks_in_session h _ _ rfl
  | shutdown => exact .inr (asks_shutdown h)

theorem Asks.ids {o : Operation} (h : Asks o c) : (o.run c).state.ids = c.ids ++ [c.nextId] := by
  obtain ⟨method, params, hstate⟩ := h.state
  exact hstate.ids.trans (ids_asking c method params)

theorem Asks.nextId {o : Operation} (h : Asks o c) :
    (o.run c).state.nextId = min (c.nextId + 1) lastId := by
  obtain ⟨method, params, hstate⟩ := h.state
  exact hstate.nextId

theorem Asks.introductions {o : Operation} (h : Asks o c) :
    (o.run c).state.introductions = c.introductions := by
  obtain ⟨method, params, hstate⟩ := h.state
  exact hstate.introductions

theorem Asks.incoming {o : Operation} (h : Asks o c) : (o.run c).state.incoming = c.awaited.2 := by
  obtain ⟨method, params, hstate⟩ := h.state
  exact hstate.incoming

end Client

end Server

end CallExplorer
