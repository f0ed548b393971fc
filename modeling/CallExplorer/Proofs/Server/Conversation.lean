/-
Conversations with a server that knows a call graph.

A server is known by what it says in answer to what it hears. It hears bytes, and what they say
is settled by the grammar of frames and texts alone. `Serves` puts it in order: the messages of
the client one after the other, and the stream the server answers them with. A notification gets
nothing. A request gets its reply, which may come behind messages that are no answers, and the
result in the reply is what the call graph has to say about the request.

# How a client follows

The stream is there from the beginning, but it answers what the client says in the end. So a
client is looked at in the middle of its run, with all that it will have said (`final`). It is on
track if the rest of the stream answers the rest of what it will have said (`OnTrack`). Each
thing that a client does keeps it on track and succeeds (`Succeeds`), as long as what it says is
part of `final`; and it is, because nothing that was said is ever taken back (`Grows`).
-/
import CallExplorer.Proofs.Server.Growth
import CallExplorer.Proofs.Server.Replies
import CallExplorer.Proofs.Symbol.Wire

namespace CallExplorer

namespace Server

-- ============================================ the server

/-- The bytes say the message: they are a frame of a text of it. -/
def Says (bytes : List UInt8) (m : Message) : Prop :=
  ∃ body, Framed bytes body ∧ m.json.WrittenAs body

/-- What the protocol calls the question for the calls of an item. -/
def callsMethod : Direction → String
  | .incoming => "callHierarchy/incomingCalls"
  | .outgoing => "callHierarchy/outgoingCalls"

/-- A client asks under this name. -/
theorem Client.linksMethod_eq (d : Direction) : linksMethod d = callsMethod d := by
  cases d <;> rfl

/-- The result that a server gives for a request when it knows a call graph, where `reads` is how
introductions are read. Members may stand in any order, and no calls at all may be given as
`null`. -/
structure Gives (reads : Decoder Introduction) (g : CallGraph) (m : Message) (result : Json) :
    Prop where
  introduction : m.method = "initialize" → ∃ i, decodeValue reads result.normal = .ok i
  roots : m.method = "textDocument/prepareCallHierarchy" →
    result.normal = (Json.array (g.roots.map Item.json)).normal
  links : ∀ d i, m.method = callsMethod d → m.params = some (.object [("item", i.json)]) →
    result.normal = (Json.array ((g.links d i).map (Link.json d))).normal
      ∨ g.links d i = [] ∧ result = .null

/-- What a server says when it hears some bytes. -/
def Responds (reads : Decoder Introduction) (g : CallGraph) (heard said : List UInt8) : Prop :=
  ∀ m, Says heard m →
    match m.id with
    | none => said = []
    | some id => ∃ result, Gives reads g m result ∧ Answered id result said

/-- The stream answers what a server hears, one message after the other. What follows the last
answer does not matter. -/
inductive Serves (reads : Decoder Introduction) (g : CallGraph) :
    (heard : List (List UInt8)) → (stream : List Arrival) → Prop
  | done {stream : List Arrival} : Serves reads g [] stream
  | hears {bytes said : List UInt8} {heard : List (List UInt8)} {stream : List Arrival}
      (h : Responds reads g bytes said) (rest : Serves reads g heard stream) :
      Serves reads g (bytes :: heard) (arrivals said ++ stream)

-- ============================================ bytes that say one thing

/-- The bytes of a message, as the protocol has it: the header tells the length of the body, and
the body is the text of an object, which has an id if an answer is wanted. -/
def Message.wire (m : Message) : List UInt8 :=
  let id := (m.id.map fun n => ("id", Json.int n)).toList
  let params := (m.params.map fun v => ("params", v)).toList
  let text := (Json.object
    ([("jsonrpc", .text "2.0")] ++ id ++ [("method", .text m.method)] ++ params)).compact
  Text.bytes ("Content-Length: " ++ Text.decimal text.utf8ByteSize ++ "\r\n\r\n") ++ Text.bytes text

/-- These are the bytes that a client writes. -/
theorem Message.frame_body (m : Message) : frame m.body = m.wire := by
  obtain ⟨id, method, params⟩ := m
  cases id <;> cases params <;> rfl

/-- Different messages are different values. -/
theorem Message.json_injective {m m' : Message} (h : m.json = m'.json) : m = m' := by
  obtain ⟨id, method, params⟩ := m
  obtain ⟨id', method', params'⟩ := m'
  injection h with h
  cases id <;> cases id' <;> cases params <;> cases params' <;> simp_all [Json.optional]

/-- No bytes of at most 64 MiB say two messages. -/
theorem says_unique {bytes : List UInt8} (hsize : bytes.length ≤ maxMessageBytes) {m m' : Message}
    (h : Says bytes m) (h' : Says bytes m') : m = m' := by
  obtain ⟨body, hframed, hwritten⟩ := h
  obtain ⟨body', hframed', hwritten'⟩ := h'
  obtain rfl := framed_unique hsize hframed hframed'
  exact Message.json_injective (Json.writtenAs_unique hwritten hwritten')

/-- What a client writes says what it wants to say. -/
theorem says_message {m : Message} (h : m.json.isWhole = true) :
    Says (Transmission.bytes ⟨m, true⟩) m :=
  ⟨_, framed_frame m.body, Json.writtenAs_compact h⟩

/-- A server responds to a message of a client if it does as the message asks. -/
theorem responds_to {reads : Decoder Introduction} {g : CallGraph} {m : Message} {said : List UInt8}
    (hwhole : m.json.isWhole = true)
    (hsize : (Transmission.bytes ⟨m, true⟩).length ≤ maxMessageBytes)
    (hsaid : match m.id with
      | none => said = []
      | some id => ∃ result, Gives reads g m result ∧ Answered id result said) :
    Responds reads g (Transmission.bytes ⟨m, true⟩) said := by
  intro m' h
  obtain rfl := says_unique hsize (says_message hwhole) h
  exact hsaid

/-- Responses to all the messages make up a stream that serves. -/
theorem serves_of_responds {reads : Decoder Introduction} {g : CallGraph}
    {turns : List (Message × List UInt8)}
    (h : ∀ t ∈ turns, Responds reads g (Transmission.bytes ⟨t.1, true⟩) t.2) :
    Serves reads g (turns.map fun t => Transmission.bytes ⟨t.1, true⟩)
      (turns.flatMap fun t => arrivals t.2) := by
  induction turns with
  | nil => exact .done
  | cons t turns ih =>
      exact .hears (h t List.mem_cons_self) (ih fun u hu => h u (List.mem_cons_of_mem t hu))

/-- What a reply says to those who asked: it refuses, or it has a result, which is decoded. No
result is as good as `null`. -/
def Reply.verdict {α : Type} (decode : Decoder α) (r : Reply) : Except Failure α :=
  match r.refusal with
  | some refusal => .error (.refused refusal.code refusal.message)
  | none => (decodeValue decode (.orNull r.result)).mapError fun e => .undecodable ⟨e, none⟩

namespace Client

variable {reads : Decoder Introduction} {g : CallGraph} {final : List Transmission} {ε α β : Type}

/-- A client over a stream, before it does anything. -/
def fresh (reads : Decoder Introduction) (process : Nat) (stream : List Arrival) : Client :=
  { incoming := stream, process := process, introductions := reads }

-- ============================================ on track

/-- A client is on track if the stream it has left answers what it will still say. `final` is all
that it will have said, the last message first. -/
structure OnTrack (reads : Decoder Introduction) (g : CallGraph) (final : List Transmission)
    (c : Client) : Prop where
  served : ∃ left : List Transmission, final = left.reverse ++ c.sent
    ∧ Serves reads g (left.map Transmission.bytes) c.incoming
  clear : c.obstacle = none
  low : 1 ≤ c.nextId
  high : c.nextId ≤ lastId

/-- The next message of a client on track is answered by the next part of the stream. -/
theorem OnTrack.answered {c : Client} (h : OnTrack reads g final c) {m : Message}
    (hsaid : (⟨m, true⟩ :: c.sent) <:+ final) :
    ∃ said stream, c.incoming = arrivals said ++ stream
      ∧ Responds reads g (Transmission.bytes ⟨m, true⟩) said
      ∧ ∃ left : List Transmission, final = left.reverse ++ (⟨m, true⟩ :: c.sent)
        ∧ Serves reads g (left.map Transmission.bytes) stream := by
  obtain ⟨left, hleft, hserves⟩ := h.served
  obtain ⟨others, hothers⟩ := hsaid
  have hreverse : left.reverse = others ++ [⟨m, true⟩] := by
    refine (List.append_left_inj c.sent).1 ?_
    rw [← hleft, ← hothers, List.append_assoc, List.singleton_append]
  obtain rfl : left = ⟨m, true⟩ :: others.reverse := by
    rw [← List.reverse_reverse left, hreverse, List.reverse_append, List.reverse_singleton,
      List.singleton_append]
  rw [List.map_cons] at hserves
  generalize hincoming : c.incoming = incoming at hserves
  cases hserves with
  | hears hresponds hrest =>
      refine ⟨_, _, rfl, hresponds, others.reverse, ?_, hrest⟩
      rw [List.reverse_reverse]
      exact hothers.symm

-- ============================================ success

/-- On track and with what `P` asks for, an action succeeds, provided that what it says is part
of what will be said. Then its result and the client have what `Q` asks for, and the client is on
track. -/
def Succeeds (reads : Decoder Introduction) (g : CallGraph) (final : List Transmission)
    (P : Client → Prop) (x : Action Client ε α) (Q : α → Client → Prop) : Prop :=
  ∀ c, OnTrack reads g final c → P c → (x c).state.sent <:+ final →
    ∃ a, (x c).result = .ok a ∧ Q a (x c).state ∧ OnTrack reads g final (x c).state

theorem succeeds_pure {P : Client → Prop} (a : α) :
    Succeeds reads g final P (pure a : Action Client ε α) fun b c => b = a ∧ P c :=
  fun _ htrack hc _ => ⟨a, rfl, ⟨rfl, hc⟩, htrack⟩

theorem succeeds_note {P : Client → Prop} (e : Event) :
    Succeeds reads g final P (Action.note e : Action Client ε Unit) fun _ c => P c :=
  fun _ htrack hc _ => ⟨(), rfl, hc, htrack⟩

/-- Two actions in a row succeed if the first does and the second does after it. -/
theorem Succeeds.bind {P : Client → Prop} {Q : α → Client → Prop} {R : β → Client → Prop}
    {x : Action Client ε α} {f : α → Action Client ε β} (hx : Succeeds reads g final P x Q)
    (hgrows : ∀ a, Grows (f a)) (hf : ∀ a, Succeeds reads g final (Q a) (f a) R) :
    Succeeds reads g final P (x >>= f) R := by
  intro c htrack hc hsaid
  cases hxc : x c with
  | mk result events c₁ =>
    have hfirst := hx c htrack hc
    rw [hxc] at hfirst
    cases result with
    | error e =>
        rw [Action.bind_of_error hxc] at hsaid
        obtain ⟨a, hok, -⟩ := hfirst hsaid
        cases hok
    | ok a =>
        rw [Action.bind_of_ok hxc] at hsaid ⊢
        obtain ⟨b, hok, hq, htrack₁⟩ := hfirst ((hgrows a c₁).trans hsaid)
        injection hok with hok
        subst hok
        exact hf a c₁ htrack₁ hq hsaid

/-- The words of a failure do not matter to a success. -/
theorem Succeeds.mapError {ε' : Type} {P : Client → Prop} {Q : α → Client → Prop}
    {x : Action Client ε α} (hx : Succeeds reads g final P x Q) (f : ε → ε') :
    Succeeds reads g final P (x.mapError f) Q := by
  intro c htrack hc hsaid
  obtain ⟨a, hok, hq, htrack'⟩ := hx c htrack hc hsaid
  refine ⟨a, ?_, hq, htrack'⟩
  show (x c).result.mapError f = .ok a
  rw [hok]
  rfl

theorem Succeeds.weaken {P : Client → Prop} {Q R : α → Client → Prop} {x : Action Client ε α}
    (hx : Succeeds reads g final P x Q) (h : ∀ a c, Q a c → R a c) :
    Succeeds reads g final P x R := by
  intro c htrack hc hsaid
  obtain ⟨a, hok, hq, htrack'⟩ := hx c htrack hc hsaid
  exact ⟨a, hok, h a _ hq, htrack'⟩

theorem Succeeds.strengthen {P P' : Client → Prop} {Q : α → Client → Prop}
    {x : Action Client ε α} (hx : Succeeds reads g final P x Q) (h : ∀ c, P' c → P c) :
    Succeeds reads g final P' x Q :=
  fun c htrack hc hsaid => hx c htrack (h c hc) hsaid

/-- A property of clients that hangs on nothing but whether the session is open. -/
def OfSession (P : Client → Prop) : Prop :=
  ∀ c c' : Client, c'.initialised = c.initialised → P c → P c'

-- ============================================ notifications

theorem isWhole_message {id : Option Int} (method : String) {params : Json}
    (hid : ∀ n, id = some n → 1 ≤ n ∧ n ≤ lastId)
    (hparams : params.isWhole = true) :
    (Message.json ⟨id, method, some params⟩).isWhole = true := by
  refine Json.haveWhole_iff.2 fun m hm => ?_
  obtain ⟨k, v⟩ := m
  simp only [List.mem_append, Json.mem_optional, List.mem_cons, List.not_mem_nil, or_false,
    Prod.mk.injEq, Option.map_eq_some_iff] at hm
  rcases hm with ((⟨-, rfl⟩ | ⟨-, n, hn, rfl⟩) | ⟨-, rfl⟩) | ⟨-, hv⟩
  · rfl
  · have hbounds := hid n hn
    simp only [lastId] at hbounds
    simp only [Json.isWhole, Bool.and_eq_true, decide_eq_true_eq]
    omega
  · rfl
  · injection hv with hv
    rwa [← hv]

/-- With nothing in the way a message is written. -/
theorem write_clear {c : Client} (h : c.obstacle = none) (m : Message) :
    write m c = (.ok (), { c.record m true with delivered := c.delivered + 1 }) := by
  simp only [write, meet, h]

/-- The client behind a notification that went out. -/
def telling (c : Client) (method : String) (params : Option Json) : Client :=
  { c.record ⟨none, method, params⟩ true with delivered := c.delivered + 1 }

/-- A notification goes out, and nothing else happens. -/
theorem notify_clear {c : Client} (h : c.obstacle = none) (method : String) (params : Option Json) :
    notify method params c
      = ⟨.ok (), [.sendingNotification method], c.telling method params⟩ := by
  simp only [notify, Bind.bind, Action.bind, Action.note, Action.step, write_clear h]
  rfl

/-- A notification succeeds. The stream says nothing to it. -/
theorem succeeds_notify {P : Client → Prop} (hP : OfSession P) {method : String}
    {params : Json} (hparams : params.isWhole = true) :
    Succeeds reads g final P (notify method (some params)) fun _ c => P c := by
  intro c htrack hc hsaid
  rw [notify_clear htrack.clear] at hsaid ⊢
  obtain ⟨said, stream, hincoming, hresponds, hleft⟩ := htrack.answered hsaid
  have hid : ∀ n, (none : Option Int) = some n → 1 ≤ n ∧ n ≤ lastId := fun n hn => by cases hn
  have hwhole := isWhole_message method hid hparams
  obtain rfl : said = [] := hresponds _ (says_message hwhole)
  refine ⟨(), rfl, hP c _ rfl hc, ?_, htrack.clear, htrack.low, htrack.high⟩
  obtain ⟨left, hfinal, hserves⟩ := hleft
  refine ⟨left, hfinal, ?_⟩
  show Serves reads g _ c.incoming
  rw [hincoming]
  exact hserves

-- ============================================ requests

/-- The client behind a request that went out: the id is used up, and the stream is as it was. -/
def asking (c : Client) (method : String) (params : Option Json) : Client :=
  { c.record ⟨some c.nextId, method, params⟩ true with
    nextId := min (c.nextId + 1) lastId
    delivered := c.delivered + 1 }

/-- The client behind a request that was answered: the stream is left behind the answer. -/
def answered (c : Client) (method : String) (params : Option Json) (stream : List Arrival) :
    Client :=
  { c.asking method params with incoming := stream }

/-- What is made of the reply to a request. -/
def conclude (decode : Decoder α) (method : String) (id : Int) (reply : Reply) :
    Action Client Failure α :=
  match reply.refusal with
  | some r => do
    Action.note (.serverError id method r.code)
    Action.fail (.refused r.code r.message)
  | none =>
    Action.lift <|
      (decodeValue decode (.orNull reply.result)).mapError fun e => .undecodable ⟨e, none⟩

/-- A request that cannot be written comes to nothing. -/
theorem request_unwritten {c c' : Client} {method : String} {params : Option Json} {e : Failure}
    (h : write ⟨some c.nextId, method, params⟩ { c with nextId := min (c.nextId + 1) lastId }
      = (.error e, c')) (decode : Decoder α) :
    request decode method params c
      = ⟨.error e, [.sendingRequest c.nextId method], c'⟩ := by
  simp only [request, Bind.bind, Action.bind, takeId, Action.step, Action.note, h]
  rfl

/-- When a request is written, the client waits. -/
theorem request_written {c c' : Client} {method : String} {params : Option Json}
    (h : write ⟨some c.nextId, method, params⟩ { c with nextId := min (c.nextId + 1) lastId }
      = (.ok (), c')) (decode : Decoder α) :
    request decode method params c
      = (let o := (receive c.nextId >>= conclude decode method c.nextId) c'
        ⟨o.result, .sendingRequest c.nextId method :: o.events, o.state⟩) := by
  simp only [request, Bind.bind, Action.bind, takeId, Action.step, Action.note, h]
  rfl

/-- All that matters then is what comes of waiting. -/
theorem request_awaited {c c' : Client} {method : String} {params : Option Json}
    (h : write ⟨some c.nextId, method, params⟩ { c with nextId := min (c.nextId + 1) lastId }
      = (.ok (), c')) (decode : Decoder α) :
    ∃ events, request decode method params c
      = ⟨(awaitReply c.nextId maxReplies c'.incoming).1.bind (Reply.verdict decode), events,
          { c' with incoming := (awaitReply c.nextId maxReplies c'.incoming).2 }⟩ := by
  have hreceive : receive c.nextId c'
      = ⟨(awaitReply c.nextId maxReplies c'.incoming).1, [],
          { c' with incoming := (awaitReply c.nextId maxReplies c'.incoming).2 }⟩ := rfl
  rw [request_written h]
  cases hreply : (awaitReply c.nextId maxReplies c'.incoming).1 with
  | error e =>
      rw [hreply] at hreceive
      rw [Action.bind_of_error hreceive]
      exact ⟨_, rfl⟩
  | ok r =>
      rw [hreply] at hreceive
      rw [Action.bind_of_ok hreceive, conclude]
      show ∃ events, _ = Outcome.mk (r.verdict decode) events _
      unfold Reply.verdict
      cases r.refusal with
      | some refusal => exact ⟨_, rfl⟩
      | none => exact ⟨_, rfl⟩

/-- What comes of waiting for the answer to the next request. -/
def awaited (c : Client) : Except Failure Reply × List Arrival :=
  awaitReply c.nextId maxReplies c.incoming

/-- With nothing in the way a request is written. -/
theorem request_eq {c : Client} (h : c.obstacle = none) (decode : Decoder α) (method : String)
    (params : Option Json) :
    ∃ events, request decode method params c
      = ⟨c.awaited.1.bind (Reply.verdict decode), events,
          c.answered method params c.awaited.2⟩ := by
  have hclear : ({ c with nextId := min (c.nextId + 1) lastId } : Client).obstacle = none := h
  exact request_awaited (write_clear hclear _) decode

/-- Nothing else is sent with a request, whatever comes of it. -/
theorem sent_request {c : Client} (h : c.obstacle = none) (decode : Decoder α) (method : String)
    (params : Option Json) :
    (request decode method params c).state.sent
      = ⟨⟨some c.nextId, method, params⟩, true⟩ :: c.sent := by
  obtain ⟨events, hrequest⟩ := request_eq h decode method params
  rw [hrequest]
  rfl

/-- What comes of waiting is the result of the answer, and the stream behind the answer. -/
theorem awaited_answered {c : Client} {decode : Decoder α} {result : Json} {said : List UInt8}
    {stream : List Arrival} {a : α} (hincoming : c.incoming = arrivals said ++ stream)
    (hanswered : Answered c.nextId result said)
    (hdecode : decodeValue decode result.normal = .ok a) :
    c.awaited.1.bind (Reply.verdict decode) = .ok a ∧ c.awaited.2 = stream := by
  obtain ⟨r, hreply, hrefusal, hresult⟩ := awaitReply_answered hanswered stream
  have hawaited : c.awaited = (.ok r, stream) := by
    rw [awaited, hincoming]
    exact hreply
  rw [hawaited]
  refine ⟨?_, rfl⟩
  show r.verdict decode = .ok a
  rw [Reply.verdict, hrefusal, hresult, hdecode]
  rfl

/-- A request that is answered comes to the result of the answer. -/
theorem request_answered {c : Client} (h : c.obstacle = none) {decode : Decoder α}
    (method : String) (params : Option Json) {result : Json} {said : List UInt8}
    {stream : List Arrival} {a : α} (hincoming : c.incoming = arrivals said ++ stream)
    (hanswered : Answered c.nextId result said)
    (hdecode : decodeValue decode result.normal = .ok a) :
    ∃ events, request decode method params c
      = ⟨.ok a, events, c.answered method params stream⟩ := by
  obtain ⟨events, hrequest⟩ := request_eq h decode method params
  obtain ⟨hresult, hrest⟩ := awaited_answered hincoming hanswered hdecode
  rw [hresult, hrest] at hrequest
  exact ⟨events, hrequest⟩

/-- A request succeeds if every result that a server gives for it can be decoded. -/
theorem succeeds_request {P : Client → Prop} (hP : OfSession P) {decode : Decoder α}
    {method : String} {params : Json} (Good : α → Prop) (hparams : params.isWhole = true)
    (hdecode : ∀ id result, Gives reads g ⟨some id, method, some params⟩ result →
      ∃ a, decodeValue decode result.normal = .ok a ∧ Good a) :
    Succeeds reads g final P (request decode method (some params)) fun a c => Good a ∧ P c := by
  intro c htrack hc hsaid
  rw [sent_request htrack.clear] at hsaid
  obtain ⟨said, stream, hincoming, hresponds, left, hfinal, hserves⟩ := htrack.answered hsaid
  have hid : ∀ n, some c.nextId = some n → 1 ≤ n ∧ n ≤ lastId := by
    rintro n hn
    injection hn with hn
    rw [← hn]
    exact ⟨htrack.low, htrack.high⟩
  obtain ⟨result, hgives, hanswered⟩ :=
    hresponds _ (says_message (isWhole_message method hid hparams))
  obtain ⟨a, ha, hgood⟩ := hdecode c.nextId result hgives
  obtain ⟨events, hrequest⟩ :=
    request_answered htrack.clear method (some params) hincoming hanswered ha
  rw [hrequest]
  have hlow := htrack.low
  refine ⟨a, rfl, ⟨hgood, hP c _ rfl hc⟩, ⟨left, hfinal, hserves⟩, htrack.clear, ?_, ?_⟩
  · show 1 ≤ min (c.nextId + 1) lastId
    rw [lastId]
    omega
  · exact Int.min_le_right _ _

end Client

end Server

end CallExplorer
