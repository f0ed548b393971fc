/-
Waiting for an answer.

A client that wrote a request reads one message after the other. A message ends the wait if it
cannot be read, or if it is the answer: it has no method, and its id is the integer of the request
(`EndsWait`). So the first message that ends the wait settles the request, if it is among the first
1000; and if none of these does, the request is given up with just these taken from the stream.

# Messages in between

Servers put notifications, requests of their own and replies to others in front of an answer. A
stream is padded with so many of them (`Padded`) if each stands between two messages that are read
before the answer, or in front of the first. That they change nothing is an induction on the
padding. It takes that a message which was read does not hang on what follows it: the reader takes
a beginning of the stream and looks at nothing behind (`Takes`). A message is a header and a body,
and these are complete without it.

# What this closes

`request_settled`, for every client whose request goes out, and whatever the server sends.
-/
import Mathlib.Data.List.Permutation
import CallExplorer.Proofs.Server.Accepting
import CallExplorer.Proofs.Server.Conversation
import CallExplorer.Proofs.Server.Reading
import CallExplorer.Proofs.Server.Sequence

namespace CallExplorer

namespace Server

variable {ε α : Type} {stream rest : List Arrival}

-- ============================================ what follows a message

/-- A reader takes what stands in front of the rest and comes to `a`, and it would do so with
anything else behind. -/
def Takes (read : List Arrival → Except ε α × List Arrival) (stream : List Arrival) (a : α)
    (rest : List Arrival) : Prop :=
  ∃ ahead, stream = ahead ++ rest ∧ ∀ others, read (ahead ++ others) = (.ok a, others)

namespace Client

/-- A message that is read is followed by whatever follows it. -/
theorem takes_readReply {r : Reply} (h : readReply stream = (.ok r, rest)) :
    Takes readReply stream r rest := by
  obtain ⟨lines, last, body, hheader, hsize, hreply, hstream⟩ := readReply_eq_ok_iff.1 h
  refine ⟨arrivals (headerBytes lines last ++ body), hstream, fun others => ?_⟩
  exact readReply_eq_ok_iff.2 ⟨lines, last, body, hheader, hsize, hreply, rfl⟩

-- ============================================ the end of a wait

/-- A message ends the wait for the answer to a request: it cannot be read, or it is the answer. -/
def EndsWait (id : Int) (stream : List Arrival) (k : Nat) : Prop :=
  (∃ e, message stream k = .error e)
    ∨ ∃ r, message stream k = .ok r ∧ r.method = none ∧ r.id = some (.int id)

variable {id : Int} {n j k : Nat} {padded : List Arrival}

theorem Stops.endsWait (h : Stops id stream k) : EndsWait id stream k := by
  cases hmessage : message stream k with
  | error e => exact .inl ⟨e, hmessage⟩
  | ok r => exact .inr ⟨r, hmessage, answers_iff.1 (h r hmessage)⟩

theorem PassedOver.not_endsWait (h : PassedOver id stream k) : ¬ EndsWait id stream k := by
  obtain ⟨r, hmessage, hother⟩ := h
  intro hends
  rcases hends with ⟨e, herror⟩ | ⟨r', hread, hanswer⟩
  · rw [hmessage] at herror
    cases herror
  · rw [hmessage] at hread
    injection hread with hread
    subst hread
    rw [answers_iff.2 hanswer] at hother
    cases hother

/-- The first message that ends the wait is what comes of waiting, if it is one of those that a
client reads. -/
theorem awaitReply_of_first (hj : j < n) (hends : EndsWait id stream j)
    (hfirst : ∀ i < j, ¬ EndsWait id stream i) :
    awaitReply id n stream = (message stream j, behind stream (j + 1)) := by
  have hcases := awaitReply_cases id stream n 0
  rw [Nat.zero_add] at hcases
  rcases hcases with ⟨i, -, -, hbefore, hstops, heq⟩ | ⟨hbefore, -⟩
  · have hij : i = j := by
      rcases Nat.lt_trichotomy i j with hlt | heq | hlt
      · exact absurd hstops.endsWait (hfirst i hlt)
      · exact heq
      · exact absurd hends (hbefore j (Nat.zero_le j) hlt).not_endsWait
    rw [← hij]
    exact heq
  · exact absurd hends (hbefore j (Nat.zero_le j) hj).not_endsWait

/-- If there is none among them, they are all that is taken. -/
theorem awaitReply_of_none (hnone : ∀ i < n, ¬ EndsWait id stream i) :
    awaitReply id n stream = (.error (.noResponse id), behind stream n) := by
  have hcases := awaitReply_cases id stream n 0
  rw [Nat.zero_add] at hcases
  rcases hcases with ⟨i, -, hi, -, hstops, -⟩ | ⟨-, heq⟩
  · exact absurd hstops.endsWait (hnone i hi)
  · exact heq

-- ============================================ messages in between

/-- The stream with so many messages put in front of the answer that are no answers themselves.
Each of them stands in front of a message that is read before the answer, or of the answer. -/
inductive Padded (id : Int) : Nat → (stream padded : List Arrival) → Prop
  | same {stream : List Arrival} : Padded id 0 stream stream
  | put {k : Nat} {bytes : List UInt8} {stream padded : List Arrival} (hbytes : Unrelated id bytes)
      (hmore : Padded id k stream padded) : Padded id (k + 1) stream (arrivals bytes ++ padded)
  | pass {k : Nat} {r : Reply} {ahead rest padded : List Arrival}
      (hread : readReply (ahead ++ rest) = (.ok r, rest)) (hother : r.answers id = false)
      (hmore : Padded id k rest padded) : Padded id k (ahead ++ rest) (ahead ++ padded)

/-- A message more in front makes the others come one later. -/
theorem behind_succ (stream : List Arrival) (k : Nat) :
    behind stream (k + 1) = behind (readReply stream).2 k := by
  induction k with
  | zero => rfl
  | succ k ih => rw [behind, ih, behind]

theorem endsWait_succ : EndsWait id stream (k + 1) ↔ EndsWait id (readReply stream).2 k := by
  unfold EndsWait message
  rw [behind_succ]

/-- A padded stream comes to the same, as long as the client reads as many messages more. -/
theorem awaitReply_padded (h : Padded id k stream padded) (hj : j < n)
    (hends : EndsWait id stream j) :
    awaitReply id (n + k) padded = awaitReply id n stream := by
  induction h generalizing n j with
  | same => rfl
  | put hbytes hmore ih =>
      obtain ⟨r, hread, hother⟩ := readReply_unrelated hbytes _
      rw [← Nat.add_assoc, awaitReply, hread]
      simp only [hother]
      exact ih hj hends
  | @pass k r ahead rest padded hread hother hmore ih =>
      obtain ⟨ahead', hahead, hothers⟩ := takes_readReply hread
      obtain rfl := List.append_cancel_right hahead
      cases j with
      | zero =>
          have hpassed : PassedOver id (ahead ++ rest) 0 := by
            refine ⟨r, ?_, hother⟩
            show (readReply (ahead ++ rest)).1 = _
            rw [hread]
          exact absurd hends hpassed.not_endsWait
      | succ j =>
          obtain ⟨n, rfl⟩ := Nat.exists_eq_add_one_of_ne_zero (Nat.ne_zero_of_lt hj)
          rw [endsWait_succ, hread] at hends
          rw [Nat.add_right_comm, awaitReply, awaitReply, hread, hothers]
          simp only [hother]
          exact ih (by omega) hends

-- ============================================ requests

/-- Whether something lies in the way does not hang on the stream. -/
theorem meet_incoming (c : Client) (step : Step) (stream : List Arrival) :
    meet { c with incoming := stream } step
      = (c.meet step).map fun (reason, c) => (reason, { c with incoming := stream }) := by
  unfold meet
  cases c.obstacle with
  | none => rfl
  | some o =>
      by_cases hmet : o.message = c.delivered ∧ o.step = step
      · simp [hmet]
      · simp [hmet]

/-- Nor does what is written. -/
theorem write_incoming (m : Message) (c : Client) (stream : List Arrival) :
    write m { c with incoming := stream }
      = ((write m c).1, { (write m c).2 with incoming := stream }) := by
  have hheader := meet_incoming c .header stream
  have hbody := meet_incoming c .body stream
  have hflush := meet_incoming c .flush stream
  unfold write
  rw [hheader, hbody, hflush]
  cases c.meet .header with
  | some met => rfl
  | none =>
      cases c.meet .body with
      | some met => rfl
      | none => cases c.meet .flush <;> rfl

/-- What is left to a request that is written is up to the stream. -/
theorem request_with {c c' : Client} {method : String} {params : Option Json}
    (h : write ⟨some c.nextId, method, params⟩ { c with nextId := min (c.nextId + 1) lastId }
      = (.ok (), c')) (decode : Decoder α) (stream : List Arrival) :
    ∃ events, request decode method params { c with incoming := stream }
      = ⟨(awaitReply c.nextId maxReplies stream).1.bind (Reply.verdict decode), events,
          { c' with incoming := (awaitReply c.nextId maxReplies stream).2 }⟩ := by
  have hwritten := write_incoming ⟨some c.nextId, method, params⟩
    { c with nextId := min (c.nextId + 1) lastId } stream
  rw [h] at hwritten
  exact request_awaited (c := { c with incoming := stream }) hwritten decode

end Client

open Client in
/-- A request that was written, with any decoder for its result, and whatever the server sends. The
first of the next 1000 messages that cannot be read, or that has no method and the integer of the
request for its id, settles the request. The stream is left behind that message, and the outcome is
the failure to read it, or the error that it carries, whatever else it says, or else what is made of
its result, where no result counts as `null`. Without such a message 1000 messages are taken, and
the request is given up. And if messages that are no answers are put in between, so that no more
than 999 stand in front of the one that settles the request, then the request comes to the same. -/
theorem request_settled {c c' : Client} {method : String} {params : Option Json}
    (hwritten : write ⟨some c.nextId, method, params⟩ { c with nextId := min (c.nextId + 1) lastId }
      = (.ok (), c')) (decode : Decoder α) :
    let o := request decode method params c
    (∀ j < 1000, EndsWait c.nextId c.incoming j → (∀ i < j, ¬ EndsWait c.nextId c.incoming i) →
        o.state = { c' with incoming := behind c.incoming (j + 1) }
          ∧ (∀ e, message c.incoming j = .error e → o.result = .error e)
          ∧ (∀ r, message c.incoming j = .ok r →
              (∀ f, r.refusal = some f → o.result = .error (.refused f.code f.message))
              ∧ (r.refusal = none →
                o.result = (decodeValue decode (r.result.getD .null)).mapError
                  (fun e => .undecodable ⟨e, none⟩)))
          ∧ ∀ k padded, j + k < 1000 → Padded c.nextId k c.incoming padded →
              let o' := request decode method params { c with incoming := padded }
              o'.result = o.result ∧ o'.state = o.state)
      ∧ ((∀ i < 1000, ¬ EndsWait c.nextId c.incoming i) →
        o.result = .error (.noResponse c.nextId)
          ∧ o.state = { c' with incoming := behind c.incoming 1000 }) := by
  intro o
  have hmax : maxReplies = 1000 := rfl
  obtain ⟨events, hrequest⟩ := request_with hwritten decode c.incoming
  have ho : o = _ := hrequest
  refine ⟨fun j hj hends hfirst => ?_, fun hnone => ?_⟩
  · have hawaited := awaitReply_of_first hj hends hfirst
    rw [hmax, hawaited] at ho
    refine ⟨by rw [ho], fun e hmessage => ?_, fun r hmessage => ⟨fun f hf => ?_, fun hf => ?_⟩, ?_⟩
    · rw [ho, hmessage]
      rfl
    · rw [ho, hmessage]
      show r.verdict decode = _
      rw [Reply.verdict, hf]
    · rw [ho, hmessage]
      show r.verdict decode = _
      rw [Reply.verdict, hf]
      cases r.result <;> rfl
    · intro k padded hk hpadded
      have hfew : awaitReply c.nextId (1000 - k) c.incoming = _ :=
        awaitReply_of_first (by omega) hends hfirst
      have hmore := awaitReply_padded (n := 1000 - k) hpadded (by omega) hends
      rw [Nat.sub_add_cancel (by omega), hfew] at hmore
      obtain ⟨events', hrequest'⟩ := request_with hwritten decode padded
      rw [hmax, hmore] at hrequest'
      rw [hrequest', ho]
      exact ⟨rfl, rfl⟩
  · have hawaited := awaitReply_of_none hnone
    rw [hmax, hawaited] at ho
    rw [ho]
    exact ⟨rfl, rfl⟩

namespace Lookalikes

/-- What may be taken for an answer to the first request: a request of the server that has the same
id, and a reply whose id is a text. The answer behind them carries an error beside its result. -/
def texts : List String :=
  ["\x7b\"id\": 1, \"method\": \"window/workDoneProgress/create\"\x7d",
    "\x7b\"id\": \"1\", \"result\": null\x7d",
    "\x7b\"id\": 1, \"result\": 7, \"error\": \x7b\"code\": -32601, \"message\": \"no\"\x7d\x7d"]

/-- The beginning of a further message. -/
def tail : List Arrival := arrivals (Text.bytes "Content-Length: 9\r\n")

def client : Client := { incoming := Client.inFrames texts tail }

theorem sizes : ∀ t ∈ texts, t.utf8ByteSize ≤ maxMessageBytes := by decide

/-- The objects that they are. -/
theorem read_texts : texts.map (fun t => Document.read (Text.bytes t)) =
    [⟨.ofJson (.object
        [("id", .int 1), ("method", .text "window/workDoneProgress/create")]), false⟩,
      ⟨.ofJson (.object [("id", .text "1"), ("result", .null)]), false⟩,
      ⟨.ofJson (.object [("id", .int 1), ("result", .int 7),
        ("error", .object [("code", .int (-32601)), ("message", .text "no")])]), false⟩] := by
  decide +kernel

theorem message_of_text {k : Nat} (hk : k < texts.length) :
    Client.message client.incoming k = Client.readText texts[k] :=
  Client.message_frames sizes tail hk

theorem passedOver {k : Nat} (hk : k < 2) : Client.PassedOver 1 client.incoming k := by
  have hlength : k < texts.length := Nat.lt_trans hk (by decide)
  have hread : ∃ r, Client.readText texts[k] = .ok r ∧ r.answers 1 = false := by
    injection read_texts with hcreate hrest
    injection hrest with htext
    match k, hk with
    | 0, _ => exact ⟨_, Client.readText_of_read hcreate (by cbv), rfl⟩
    | 1, _ => exact ⟨_, Client.readText_of_read htext (by cbv), rfl⟩
  obtain ⟨r, htext, hother⟩ := hread
  exact ⟨r, (message_of_text hlength).trans htext, hother⟩

end Lookalikes

/-- The error settles the request, and the beginning of a further message stays where it is. -/
theorem request_settled_among_lookalikes :
    let c := Lookalikes.client
    let o := Client.request Decoder.any "shutdown" none c
    Client.EndsWait c.nextId c.incoming 2
      ∧ (∀ i < 2, ¬ Client.EndsWait c.nextId c.incoming i)
      ∧ o.result = .error (.refused (-32601) "no") ∧ o.state.incoming = Lookalikes.tail := by
  intro c o
  have hwritten := Client.write_clear
    (c := { c with nextId := min (c.nextId + 1) Client.lastId }) rfl
    ⟨some c.nextId, "shutdown", none⟩
  obtain ⟨r, hread, hanswer, hid, hrefusal⟩ : ∃ r, Client.readText Lookalikes.texts[2] = .ok r
      ∧ r.method = none ∧ r.id = some (.int 1) ∧ r.refusal = some ⟨-32601, "no"⟩ := by
    injection Lookalikes.read_texts with _ hrest
    injection hrest with _ hrest
    injection hrest with hanswer
    exact ⟨_, Client.readText_of_read hanswer (by cbv), rfl, rfl, rfl⟩
  have hmessage := (Lookalikes.message_of_text (k := 2) (by decide)).trans hread
  have hends : Client.EndsWait c.nextId c.incoming 2 := .inr ⟨r, hmessage, hanswer, hid⟩
  have hfirst : ∀ i < 2, ¬ Client.EndsWait c.nextId c.incoming i :=
    fun i hi => (Lookalikes.passedOver hi).not_endsWait
  obtain ⟨hstate, -, hreply, -⟩ :=
    (request_settled hwritten Decoder.any).1 2 (by decide) hends hfirst
  refine ⟨hends, hfirst, (hreply r hmessage).1 _ hrefusal, ?_⟩
  rw [hstate]
  exact Client.behind_frames Lookalikes.sizes Lookalikes.tail (Nat.le_refl 3)

end Server

end CallExplorer
