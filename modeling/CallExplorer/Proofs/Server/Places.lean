/-
What a server gets to read.

A client writes one message after the other, and reads on in its stream whenever it waits for an
answer. So there is a place in the middle of every conversation (`Stands`): so many requests were
made, this is what was written, and this is what the server has yet to say. A request leads from
one place to the next, with what the stream holds for it (`heard`).

Questions for calls may come in any number. They are numbered on from where the first one stands
(`questions`), and each is answered by what the ones before left of the stream (`Heard`). By
induction on the questions a shared client gets from place to place, and is never lost on the way
(`Stands.asksAll`).
-/
import CallExplorer.Proofs.Server.Span
import CallExplorer.Proofs.Server.Walk

namespace CallExplorer

open Provider (question)

namespace Server

-- ============================================ requests by number

/-- The id of a request, by its number. Ids end somewhere, and the last one is used again. -/
def requestId (number : Nat) : Int := min number Client.lastId

theorem requestId_of_le {number : Nat} (h : (number : Int) ≤ Client.lastId) :
    requestId number = number := by
  unfold requestId
  omega

theorem requestId_succ (number : Nat) :
    requestId (number + 1) = min (requestId number + 1) Client.lastId := by
  unfold requestId
  omega

/-- A request. -/
def Message.request (number : Nat) (method : String) (params : Option Json) : Message :=
  ⟨some (requestId number), method, params⟩

/-- A notification. -/
def Message.notification (method : String) (params : Option Json) : Message :=
  ⟨none, method, params⟩

/-- What a stream holds for a request. -/
def heard {α : Type} (decode : Decoder α) (number : Nat) (stream : List Arrival) :
    Except Failure α :=
  (Client.awaitReply (requestId number) maxReplies stream).1.bind (Reply.verdict decode)

/-- What is left of a stream when the client stops waiting for the answer to a request. -/
def unheard (number : Nat) (stream : List Arrival) : List Arrival :=
  (Client.awaitReply (requestId number) maxReplies stream).2

theorem unheard_suffix (number : Nat) (stream : List Arrival) : unheard number stream <:+ stream :=
  Client.awaitReply_suffix _ _ _

/-- What is heard takes something of the stream. -/
theorem length_unheard_lt {α : Type} {decode : Decoder α} {number : Nat} {stream : List Arrival}
    {a : α} (h : heard decode number stream = .ok a) :
    (unheard number stream).length < stream.length := by
  have hawaited := Client.awaitReply_cases (requestId number) stream maxReplies 0
  rw [heard] at h
  rcases hawaited with ⟨j, -, -, -, -, heq⟩ | ⟨-, heq⟩
  · have hread : Client.awaitReply (requestId number) maxReplies stream = _ := heq
    rw [hread] at h
    cases hmessage : Client.message stream j with
    | error e =>
        rw [hmessage] at h
        cases h
    | ok r =>
        rw [unheard, hread]
        exact Nat.lt_of_lt_of_le (Client.readReply_shorter hmessage)
          (Client.behind_suffix stream (Nat.zero_le j)).length_le
  · have hread : Client.awaitReply (requestId number) maxReplies stream = _ := heq
    rw [hread] at h
    cases h

/-- What is heard is the answer, if that comes next. -/
theorem heard_answered {α : Type} {decode : Decoder α} {number : Nat} {result : Json}
    {said : List UInt8} (hanswered : Answered (requestId number) result said) {a : α}
    (hdecode : decodeValue decode result.normal = .ok a) (rest : List Arrival) :
    heard decode number (arrivals said ++ rest) = .ok a
      ∧ unheard number (arrivals said ++ rest) = rest := by
  let c : Client := { incoming := arrivals said ++ rest, nextId := requestId number }
  exact Client.awaited_answered (c := c) rfl hanswered hdecode

-- ============================================ questions

/-- The calls of an item, as the answer to a request has them. -/
def linksHeard (d : Direction) (number : Nat) (stream : List Arrival) :
    Except CallExplorer.Failure (List Link) :=
  ((heard (.option (.list (Link.decoder d))) number stream).mapError
    CallExplorer.Failure.ofServer).map (·.getD [])

/-- The symbols at a place, as the answer to a request has them. There must be one at least. -/
def rootsHeard (path : String) (p : Position) (number : Nat) (stream : List Arrival) :
    Except CallExplorer.Failure (List Item) :=
  ((heard (.option (.list Item.decoder)) number stream).mapError
    CallExplorer.Failure.ofServer).bind fun answer =>
      HierarchyClient.named path p (answer.getD [])

/-- The questions have the answers that the stream holds for them, one behind the other, the first
of them for the request with the number. -/
inductive Heard (d : Direction) :
    (number : Nat) → (stream : List Arrival) → (asked : List Exchange) → (rest : List Arrival) →
      Prop
  | done {number : Nat} {stream : List Arrival} : Heard d number stream [] stream
  | next {number : Nat} {stream rest : List Arrival} {x : Exchange} {asked : List Exchange}
      (hanswer : x.answer = linksHeard d number stream)
      (hmore : Heard d (number + 1) (unheard number stream) asked rest) :
      Heard d number stream (x :: asked) rest

/-- There are no more answers than there is to hear, and one question more at most. -/
theorem Heard.length_le {d : Direction} {number : Nat} {stream rest : List Arrival}
    {asked : List Exchange} (h : Heard d number stream asked rest)
    (hanswered : ∀ x ∈ asked.dropLast, ∃ links, x.answer = .ok links) :
    asked.length ≤ stream.length + 1 := by
  induction h with
  | done => exact Nat.zero_le _
  | @next number stream rest x asked hanswer hmore ih =>
      cases asked with
      | nil => exact Nat.le_add_left 1 _
      | cons y more =>
          rw [List.dropLast_cons_cons, List.forall_mem_cons] at hanswered
          obtain ⟨⟨links, hlinks⟩, hothers⟩ := hanswered
          obtain ⟨answer, hdecoded, -⟩ := ok_of_map (hanswer.symm.trans hlinks)
          have hshorter : (unheard number stream).length < stream.length := by
            cases hheard : heard (.option (.list (Link.decoder d))) number stream with
            | error f =>
                rw [hheard] at hdecoded
                cases hdecoded
            | ok a => exact length_unheard_lt hheard
          have hmany := ih hothers
          rw [List.length_cons]
          omega

/-- The requests for the calls of nodes, the first of them with the number. -/
def questions (d : Direction) (number : Nat) (ns : List Node) : List Message :=
  (ns.zipIdx number).map fun (n, k) =>
    .request k (callsMethod d) (some (.object [("item", .object n.item.members)]))

/-- This is what a client writes when it is asked for the calls of a node. -/
theorem request_links (d : Direction) (number : Nat) (n : Node) :
    Message.request number (Client.linksMethod d) (some (Client.linksParams n.item))
      = .request number (callsMethod d) (some (.object [("item", .object n.item.members)])) := by
  rw [Client.linksMethod_eq, Client.linksParams, Item.json_eq]

namespace Client

variable {c : Client} {number : Nat} {stream : List Arrival} {said : List Message}

-- ============================================ places in a conversation

/-- Where a client stands: it has yet to make the request with the number, this is what the server
has yet to say, and this is what was written, all of it whole. -/
structure Stands (c : Client) (number : Nat) (stream : List Arrival) (said : List Message) :
    Prop where
  clear : c.obstacle = none
  nextId : c.nextId = requestId number
  incoming : c.incoming = stream
  sent : c.sent.reverse = said.map (⟨·, true⟩)

theorem stands_fresh (reads : Decoder Introduction) (process : Nat) (stream : List Arrival) :
    Stands (.fresh reads process stream) 1 stream [] := by
  refine ⟨rfl, ?_, rfl, rfl⟩
  show (1 : Int) = requestId 1
  decide

theorem Stands.messages (h : Stands c number stream said) : c.messages = said := by
  rw [Client.messages, h.sent, List.map_map]
  exact List.map_id said

theorem Stands.written (h : Stands c number stream said) :
    c.written = said.flatMap Message.wire := by
  rw [Client.written, h.sent, List.flatMap_map]
  exact List.flatMap_congr fun m _ => m.frame_body

theorem Stands.setSession (h : Stands c number stream said) (isOpen : Bool) :
    Stands { c with initialised := isOpen } number stream said :=
  ⟨h.clear, h.nextId, h.incoming, h.sent⟩

theorem Stands.telling (h : Stands c number stream said) (method : String) (params : Option Json) :
    Stands (c.telling method params) number stream (said ++ [.notification method params]) := by
  refine ⟨h.clear, h.nextId, h.incoming, ?_⟩
  show ((⟨_, true⟩ : Transmission) :: c.sent).reverse = _
  rw [List.reverse_cons, h.sent, List.map_append]
  rfl

theorem Stands.answered (h : Stands c number stream said) (method : String) (params : Option Json)
    (rest : List Arrival) :
    Stands (c.answered method params rest) (number + 1) rest
      (said ++ [.request number method params]) := by
  refine ⟨h.clear, ?_, rfl, ?_⟩
  · show min (c.nextId + 1) lastId = _
    rw [h.nextId, requestId_succ]
  · show ((⟨⟨some c.nextId, method, params⟩, true⟩ : Transmission) :: c.sent).reverse = _
    rw [List.reverse_cons, h.sent, h.nextId, List.map_append]
    rfl

/-- What comes of waiting is what the stream holds. -/
theorem Stands.awaited (h : Stands c number stream said) :
    c.awaited = awaitReply (requestId number) maxReplies stream := by
  rw [Client.awaited, h.nextId, h.incoming]

/-- A request is written, and comes to what the stream holds for it. -/
theorem Stands.request (h : Stands c number stream said) {α : Type} (decode : Decoder α)
    (method : String) (params : Option Json) :
    (Client.request decode method params).ComesTo c (heard decode number stream)
      (c.answered method params (unheard number stream)) := by
  obtain ⟨events, heq⟩ := request_eq h.clear decode method params
  rw [h.awaited] at heq
  exact .of_eq heq

/-- So is a request that needs a session, if there is one. -/
theorem Stands.requestInSession (h : Stands c number stream said) (hopen : c.initialised = true)
    {α : Type} (decode : Decoder α) (method : String) (params : Option Json) :
    (do needSession; Client.request decode method params).ComesTo c (heard decode number stream)
      (c.answered method params (unheard number stream)) := by
  refine .of_same ?_ (h.request decode method params)
  rw [inSession_eq, if_pos hopen]

-- ============================================ one question, many questions

/-- A question of a walk is a request, and the client is not lost over it. -/
theorem Stands.asks (h : Stands c number stream said) (hopen : c.initialised = true)
    (roots : List Item) (d : Direction) (n : Node) :
    ((walker roots).resolve (question d n)).ComesTo { client := c } (linksHeard d number stream)
      { client := c.answered (linksMethod d) (some (linksParams n.item)) (unheard number stream) }
      := by
  have hlinks : (access.links d n.item).ComesTo c _ _ :=
    (h.requestInSession hopen (.option (.list (Link.decoder d))) (linksMethod d)
      (some (linksParams n.item))).mapError CallExplorer.Failure.ofServer
  -- what a server says or fails to say never breaks the client down
  have hserved : (heard (.option (.list (Link.decoder d))) number stream).mapError
      CallExplorer.Failure.ofServer ≠ .error .crashed := by
    cases heard (.option (.list (Link.decoder d))) number stream with
    | error f => exact fun h => CallExplorer.Failure.noConfusion (Except.error.inj h)
    | ok answer => exact fun h => by cases h
  have hasked : (Shared.ask (access.links d n.item)).ComesTo { client := c } _ _ :=
    Shared.ask_comesTo hlinks hserved
  have hthrough : ((walker roots).resolve (question d n)).ComesTo { client := c }
      ((access.links d n.item c).result.map (·.getD []))
      (Shared.ask (access.links d n.item) { client := c }).state :=
    Shared.resolve_of_held (q := question d n) (s := { client := c }) rfl rfl
  rw [hlinks.result, hasked.state] at hthrough
  exact hthrough

/-- Questions one after the other take the client from one place to another. -/
theorem Stands.asksAll (h : Stands c number stream said) (hopen : c.initialised = true)
    (roots : List Item) (d : Direction) (ns : List Node) :
    ∃ t rest,
      (walker roots).afterAll (ns.map (question d)) { client := c } = { client := t }
        ∧ Heard d number stream ((walker roots).exchanges (ns.map (question d)) { client := c })
          rest
        ∧ Stands t (number + ns.length) rest (said ++ questions d number ns) := by
  induction ns generalizing c number stream said with
  | nil =>
      refine ⟨c, stream, rfl, .done, ?_⟩
      rw [questions]
      simpa using h
  | cons n ns ih =>
      have hasked := h.asks hopen roots d n
      obtain ⟨t, rest, hafter, hheard, hstands⟩ := ih
        (h.answered (linksMethod d) (some (linksParams n.item)) (unheard number stream)) hopen
      refine ⟨t, rest, ?_, ?_, ?_⟩
      · rw [List.map_cons, Provider.afterAll, hasked.state, hafter]
      · rw [List.map_cons, Provider.exchanges, hasked.state]
        exact .next hasked.result hheard
      · rw [List.append_assoc, request_links] at hstands
        rw [List.length_cons, Nat.add_comm ns.length, ← Nat.add_assoc]
        exact hstands

/-- A walk that asks about some nodes takes the client from one place to another. -/
theorem Stands.walks (h : Stands c number stream said) (hopen : c.initialised = true)
    {roots : List Item} {d : Direction} {limit : Nat} {ns : List Node}
    (hqueries : ((walker roots).unfolding d limit { client := c }).exchanges.map (·.query)
      = ns.map (question d)) :
    ∃ rest,
      Heard d number stream ((walker roots).unfolding d limit { client := c }).exchanges rest
        ∧ Stands ((walker roots).unfolding d limit { client := c }).state.client
          (number + ns.length) rest (said ++ questions d number ns) := by
  have hputs := (walker roots).puts_unfolding d limit { client := c }
  obtain ⟨t, rest, hafter, hheard, hstands⟩ := h.asksAll hopen roots d ns
  refine ⟨rest, ?_, ?_⟩
  · rw [hputs.exchanges, hqueries]
    exact hheard
  · rw [hputs.state, hqueries, hafter]
    exact hstands

-- ============================================ beginning and end

/-- A document, as it is handed over. -/
def documentParams (uri : Uri) (language content : String) : Json :=
  .object [("textDocument", .object
    [("languageId", .text language), ("text", .text content), ("uri", .text uri.text),
     ("version", .int 1)])]

/-- A session is opened if the introduction is understood, and then the client says so. -/
theorem Stands.initialise (h : Stands c number stream said) (root : Uri) :
    (∃ f t, heard c.introductions number stream = .error f
        ∧ (Client.initialise root).ComesTo c (.error f) t
        ∧ Stands t (number + 1) (unheard number stream)
          (said ++ [.request number "initialize" (some (introductionParams c.process root))]))
      ∨ ∃ i t, heard c.introductions number stream = .ok i
        ∧ (Client.initialise root).ComesTo c (.ok i) t
        ∧ t.initialised = true
        ∧ Stands t (number + 1) (unheard number stream)
          (said ++ [.request number "initialize" (some (introductionParams c.process root)),
            .notification "initialized" (some (.object []))]) := by
  obtain ⟨events, heq⟩ := initialise_eq h.clear root
  have hasked := h.answered "initialize" (some (introductionParams c.process root))
    (unheard number stream)
  rw [h.awaited] at heq
  cases hheard : heard c.introductions number stream with
  | error f =>
      rw [show Except.bind _ _ = .error f from hheard] at heq
      exact .inl ⟨f, _, rfl, .of_eq heq, hasked⟩
  | ok i =>
      rw [show Except.bind _ _ = .ok i from hheard] at heq
      have htold := (hasked.telling "initialized" (some (.object []))).setSession true
      rw [List.append_assoc] at htold
      exact .inr ⟨i, _, rfl, .of_eq heq, rfl, htold⟩

/-- In a session a document is handed over. -/
theorem Stands.openDocument (h : Stands c number stream said) (hopen : c.initialised = true)
    (uri : Uri) (language content : String) :
    ∃ t, (Client.openDocument uri language content).ComesTo c (.ok ()) t
      ∧ t.initialised = true
      ∧ Stands t number stream (said ++ [.notification "textDocument/didOpen"
          (some (documentParams uri language content))]) := by
  have heq : Client.openDocument uri language content c
      = ⟨.ok (), [.sendingNotification "textDocument/didOpen"],
          c.telling "textDocument/didOpen" (some (documentParams uri language content))⟩ := by
    rw [Client.openDocument, inSession_eq, if_pos hopen]
    exact notify_clear h.clear _ _
  exact ⟨_, .of_eq heq, hopen, h.telling _ _⟩

/-- In a session the symbols at a place are asked for. -/
theorem Stands.start (h : Stands c number stream said) (hopen : c.initialised = true)
    {path : String} {uri : Uri} (huri : Uri.ofPath path = .ok uri) (p : Position) :
    ∃ t, (access.start path p).ComesTo c (rootsHeard path p number stream) t
      ∧ t.initialised = true
      ∧ Stands t (number + 1) (unheard number stream)
        (said ++ [.request number "textDocument/prepareCallHierarchy"
          (some (prepareParams uri p))]) := by
  have hprepare : (access.prepare uri p).ComesTo c _ _ :=
    (h.requestInSession hopen (.option (.list Item.decoder)) "textDocument/prepareCallHierarchy"
      (some (prepareParams uri p))).mapError CallExplorer.Failure.ofServer
  have hstart : (access.start path p).ComesTo c _ _ := HierarchyClient.start_comesTo huri p c
  rw [hprepare.result, hprepare.state] at hstart
  exact ⟨_, hstart, hopen, h.answered _ _ _⟩

/-- A reply without an error says all that a client wants to hear when it takes leave. -/
theorem verdict_any (r : Reply) :
    (∃ v, r.refusal = none ∧ r.verdict (.option .any) = .ok v)
      ∨ ∃ refusal f, r.refusal = some refusal ∧ r.verdict (.option .any) = .error f := by
  rw [Reply.verdict]
  cases r.refusal with
  | some refusal => exact .inr ⟨refusal, _, rfl, rfl⟩
  | none =>
      left
      have hany : decodeValue (.option .any) (.orNull r.result)
          = .ok (Json.orNull r.result).kept :=
        Decoder.any_option_ofJson (.orNull r.result) trivial
      refine ⟨(Json.orNull r.result).kept, rfl, ?_⟩
      simp only [hany]
      rfl

/-- The farewell of a client: it says `exit` only if it hears an answer, and that without an
error. -/
def farewell (number : Nat) (stream : List Arrival) : List Message :=
  .request number "shutdown" none ::
    match (awaitReply (requestId number) maxReplies stream).1 with
    | .ok r => if r.refusal.isNone then [.notification "exit" none] else []
    | .error _ => []

theorem Stands.shutdown (h : Stands c number stream said) :
    Stands (Client.shutdown c).state (number + 1) (unheard number stream)
      (said ++ farewell number stream) := by
  obtain ⟨events, heq⟩ := shutdown_eq h.clear
  have hasked := h.answered "shutdown" none (unheard number stream)
  have htold := (hasked.telling "exit" none).setSession false
  rw [List.append_assoc] at htold
  have hrest : (awaitReply (requestId number) maxReplies stream).2 = unheard number stream := rfl
  rw [heq, h.awaited, hrest, farewell]
  cases hreply : (awaitReply (requestId number) maxReplies stream).1 with
  | error f => exact hasked
  | ok r =>
      rcases verdict_any r with ⟨v, hrefusal, hverdict⟩ | ⟨refusal, f, hrefusal, hverdict⟩
      · simp only [Except.bind, hverdict, hrefusal]
        exact htold
      · simp only [Except.bind, hverdict, hrefusal]
        exact hasked

end Client

end Server

end CallExplorer
