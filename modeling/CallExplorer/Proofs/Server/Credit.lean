/-
No reply is taken for the answer to another request.

The requests of a client are numbered, and it waits for each of them before it makes the next. The
messages of the server are numbered, too, by their order in the stream. A reply is credited to a
request if what comes of the turn in which the request was made is what the reply says
(`Turn.Credited`).

Two things are carried from turn to turn. The ids that were written are the first numbers
(`Numbered`), and the client stands between two messages of the stream (`Placed`). With them
`replies_credited`: a reply is credited to the request whose id it has, it is behind all that was
read in earlier turns, and it is credited to no other request. What was left unread by a request
that failed may well be read later, but it is not credited to anybody then.
-/
import Mathlib.Data.List.Nodup
import CallExplorer.Proofs.Server.Replies
import CallExplorer.Proofs.Server.Turns

namespace CallExplorer

namespace Server

-- ============================================ numbers

/-- So many ids, from 1 on. -/
def firstIds (n : Nat) : List Int := (List.range n).map fun k : Nat => (k : Int) + 1

theorem nodup_firstIds (n : Nat) : (firstIds n).Nodup := by
  refine List.nodup_range.map fun j k h => ?_
  omega

namespace Client

variable {reads : Decoder Introduction} {stream : List Arrival} {c : Client}

/-- The ids that a client wrote and the one that it writes next, if there are that many ids. -/
structure Numbered (c : Client) : Prop where
  clear : c.obstacle = none
  ids : (c.ids.length : Int) < lastId → c.ids = firstIds c.ids.length
  nextId : c.nextId = min ((c.ids.length : Int) + 1) lastId

theorem numbered_run (h : Numbered c) (o : Operation) : Numbered (o.run c).state := by
  have hnext := h.nextId
  rcases run_cases h.clear o with hsilent | hasks
  · refine ⟨hsilent.clear, ?_, ?_⟩
    · rw [hsilent.ids]
      exact h.ids
    · rw [hsilent.ids, hsilent.nextId]
      exact hnext
  · have hlength : (o.run c).state.ids.length = c.ids.length + 1 := by
      rw [hasks.ids, List.length_append]
      rfl
    refine ⟨(later_run h.clear o).clear, fun hfew => ?_, ?_⟩
    · -- while there are ids left, the next one is not the last one over again
      have hid : c.nextId = c.ids.length + 1 := by omega
      rw [hlength, firstIds, List.range_succ, List.map_append, hasks.ids, hid]
      rw [h.ids (by omega)]
      simp [firstIds]
    · rw [hasks.nextId, hlength]
      omega

theorem numbered_fresh (reads : Decoder Introduction) (process : Nat) (stream : List Arrival) :
    Numbered (fresh reads process stream) := by
  refine ⟨rfl, fun _ => rfl, ?_⟩
  show (1 : Int) = min (0 + 1) lastId
  decide

/-- A client that stands between two messages of a stream. -/
structure Placed (reads : Decoder Introduction) (stream : List Arrival) (c : Client) : Prop where
  clear : c.obstacle = none
  place : ∃ k, c.incoming = behind stream k
  introductions : c.introductions = reads

theorem placed_run (h : Placed reads stream c) (o : Operation) :
    Placed reads stream (o.run c).state := by
  obtain ⟨k, hk⟩ := h.place
  rcases run_cases h.clear o with hsilent | hasks
  · exact ⟨hsilent.clear, ⟨k, hsilent.incoming.trans hk⟩,
      hsilent.introductions.trans h.introductions⟩
  · refine ⟨(later_run h.clear o).clear, ?_, hasks.introductions.trans h.introductions⟩
    have hrest : (o.run c).state.incoming = (awaitReply c.nextId maxReplies (behind stream k)).2 := by
      rw [hasks.incoming, awaited, hk]
    rw [hrest]
    rcases awaitReply_cases c.nextId stream maxReplies k with ⟨j, -, -, -, -, heq⟩ | ⟨-, heq⟩
    · exact ⟨j + 1, by rw [heq]⟩
    · exact ⟨k + maxReplies, by rw [heq]⟩

theorem placed_fresh (reads : Decoder Introduction) (process : Nat) (stream : List Arrival) :
    Placed reads stream (fresh reads process stream) :=
  ⟨rfl, ⟨0, rfl⟩, rfl⟩

end Client

-- ============================================ credit

namespace Turn

open Client

variable {reads : Decoder Introduction} {stream : List Arrival} {t u : Turn} {n m : Int} {j k : Nat}

/-- The message with the number is the last that is read in the turn, and it is read in the turn:
what earlier turns left begins before it, and what the turn leaves begins behind it. -/
structure EndsWith (stream : List Arrival) (t : Turn) (k : Nat) : Prop where
  starts : behind stream k <:+ t.before.incoming
  stops : t.after.incoming = behind stream (k + 1)

/-- The message with the number is the reply to the request with the id: it has no method, its id
is the integer of the request, and what it says is what comes of the turn. -/
structure Credited (reads : Decoder Introduction) (stream : List Arrival) (t : Turn) (n : Int)
    (k : Nat) : Prop where
  read : t.EndsWith stream k
  reply : ∃ r, message stream k = .ok r ∧ r.method = none ∧ r.id = some (.int n)
    ∧ t.outcome.result = r.verdict (t.operation.decoder reads)

/-- There is no reply to the request with the id: a message that stands before one cannot be read,
or too many messages stand before it. -/
inductive Unanswered (stream : List Arrival) (t : Turn) (n : Int) : Prop
  | broken (k : Nat) (e : StreamError) (hread : t.EndsWith stream k)
      (hmessage : message stream k = .error (.stream e))
      (hresult : t.outcome.result = .error (.stream e))
  | garbled (k : Nat) (e : JsonError) (hread : t.EndsWith stream k)
      (hmessage : message stream k = .error (.undecodable e))
      (hresult : t.outcome.result = .error (.undecodable e))
  | overdue (hresult : t.outcome.result = .error (.noResponse n))

/-- A request is credited with a reply, or there is none. -/
theorem credited_or_unanswered (hplaced : Placed reads stream t.before)
    (hasks : Asks t.operation t.before) :
    (∃ k, t.Credited reads stream t.before.nextId k) ∨ t.Unanswered stream t.before.nextId := by
  obtain ⟨start, hstart⟩ := hplaced.place
  have hresult := hasks.result
  have hincoming := hasks.incoming
  rw [awaited, hstart] at hresult hincoming
  rw [hplaced.introductions] at hresult
  rcases awaitReply_cases t.before.nextId stream maxReplies start with
    ⟨k, hlow, -, -, hstops, heq⟩ | ⟨-, heq⟩
  · rw [heq] at hresult hincoming
    have hread : t.EndsWith stream k := by
      refine ⟨?_, hincoming⟩
      rw [hstart]
      exact behind_suffix stream hlow
    cases hmessage : message stream k with
    | error e =>
        right
        rw [hmessage] at hresult
        rcases message_error hmessage with ⟨why, rfl⟩ | ⟨why, rfl⟩
        · exact .broken k why hread hmessage hresult
        · exact .garbled k why hread hmessage hresult
    | ok r =>
        left
        rw [hmessage] at hresult
        obtain ⟨hmethod, hid⟩ := answers_iff.1 (hstops r hmessage)
        exact ⟨k, hread, r, hmessage, hmethod, hid, hresult⟩
  · right
    rw [heq] at hresult
    exact .overdue hresult

/-- A reply that is credited in a later turn stands behind one that is credited in an earlier. -/
theorem credited_lt (h : t.before.incoming <:+ u.after.incoming) (hu : u.Credited reads stream n j)
    (ht : t.Credited reads stream m k) : j < k := by
  obtain ⟨r, hmessage, -⟩ := hu.reply
  refine lt_of_behind hmessage ?_
  rw [← hu.read.stops]
  exact ht.read.starts.trans h

/-- A reply to one request is never credited to another. -/
theorem not_credited (hne : n ≠ m) {r : Reply} (hmessage : message stream k = .ok r)
    (hanswers : r.answers n = true) : ¬ t.Credited reads stream m k := by
  rintro ⟨-, r', hmessage', -, hid', -⟩
  have hid := (answers_iff.1 hanswers).2
  rw [hmessage] at hmessage'
  injection hmessage' with hr
  rw [← hr, hid] at hid'
  injection hid' with hjson
  injection hjson with hnm
  exact hne hnm

end Turn

/-- Whatever a client is told to do, in any order and with any server, and however it reads the
introduction of a server, as long as there are ids left: the requests are numbered without gaps,
and in a turn there is one at most. A request is credited with the reply that has its id, or there
is none, and nothing is read without one. The replies that are credited stand one behind the other
in the stream, and what is a reply to one request is never credited to a later one. -/
theorem replies_credited (reads : Decoder Introduction) (process : Nat) (stream : List Arrival)
    (os : List Operation)
    (hfew : (((Client.fresh reads process stream).afterAll os).ids.length : Int) < Client.lastId) :
    ((Client.fresh reads process stream).afterAll os).ids
        = firstIds ((Client.fresh reads process stream).afterAll os).ids.length
      ∧ (turns os (.fresh reads process stream)).flatMap Turn.asked
        = ((Client.fresh reads process stream).afterAll os).ids
      ∧ (∀ t ∈ turns os (.fresh reads process stream),
          (t.asked = [] ∧ t.after.incoming = t.before.incoming)
            ∨ ∃ n, t.asked = [n] ∧ ((∃ k, t.Credited reads stream n k) ∨ t.Unanswered stream n))
      ∧ (turns os (.fresh reads process stream)).Pairwise (fun u t => ∀ n m j k,
          u.Credited reads stream n j → t.Credited reads stream m k → j < k)
      ∧ (turns os (.fresh reads process stream)).Pairwise (fun u t => ∀ n ∈ u.asked, ∀ m ∈ t.asked,
          ∀ k r, Client.message stream k = .ok r → r.answers n = true →
            ¬ t.Credited reads stream m k) := by
  have hnumbered : ((Client.fresh reads process stream).afterAll os).Numbered :=
    holds_afterAll (fun _ h o => Client.numbered_run h o)
      (Client.numbered_fresh reads process stream)
  have hnumbers := hnumbered.ids hfew
  have hasked : ((Client.fresh reads process stream).afterAll os).ids
      = (turns os (.fresh reads process stream)).flatMap Turn.asked :=
    ids_afterAll (c := .fresh reads process stream) rfl
  have hplaced : ∀ t ∈ turns os (.fresh reads process stream),
      Client.Placed reads stream t.before :=
    holds_before (fun _ h o => Client.placed_run h o) (Client.placed_fresh reads process stream)
  -- no id is written twice, so turns that ask at all ask under different ids
  have hnodup : ((turns os (.fresh reads process stream)).flatMap Turn.asked).Nodup := by
    rw [← hasked, hnumbers]
    exact nodup_firstIds _
  refine ⟨hnumbers, hasked.symm, fun t ht => ?_, ?_, ?_⟩
  · rcases Turn.asked_cases (hplaced t ht).clear with hnothing | ⟨hone, hasks⟩
    · exact .inl hnothing
    · exact .inr ⟨_, hone, Turn.credited_or_unanswered (hplaced t ht) hasks⟩
  · refine (pairwise_turns rfl).imp fun h n m j k hu ht => ?_
    exact Turn.credited_lt h hu ht
  · refine (List.nodup_flatMap.1 hnodup).2.imp fun hdisjoint n hn m hm k r hmessage hanswers => ?_
    have hne : n ≠ m := by
      rintro rfl
      exact hdisjoint hn hm
    exact Turn.not_credited hne hmessage hanswers

namespace Late

/-- The reply to a request that asks for nothing in particular. -/
def reply (id : Int) : List UInt8 :=
  frame (Json.object [("id", .int id), ("result", .null)]).compact

/-- A server that answers the first request twice and the second once. -/
def stream : List Arrival := arrivals (reply 1) ++ (arrivals (reply 1 ++ reply 2) ++ [])

/-- The client of the server. -/
def client : Client := .fresh Introduction.decoder 0 stream

/-- Two attempts to close the session, one after the other. -/
def first : Turn := ⟨.shutdown, client⟩

def second : Turn := ⟨.shutdown, first.after⟩

theorem sends_reply {id : Int} (hid : id = 1 ∨ id = 2) :
    Sends (reply id) [("id", .int id), ("result", .null)] := by
  rcases hid with rfl | rfl
  · exact sends_compact (by decide) (by decide) (by decide) (by decide +kernel)
  · exact sends_compact (by decide) (by decide) (by decide) (by decide +kernel)

theorem replies_reply {id : Int} (hid : id = 1 ∨ id = 2) : Replies id .null (reply id) :=
  ⟨_, sends_reply hid, by simp, by simp, by simp, by simp⟩

theorem answered_first : Answered 1 .null (reply 1) :=
  ⟨[], reply 1, rfl, by decide, by simp, replies_reply (.inl rfl)⟩

/-- The late reply is passed over. -/
theorem answered_second : Answered 2 .null (reply 1 ++ reply 2) := by
  refine ⟨[reply 1], reply 2, by simp, by decide, fun m hm => ?_, replies_reply (.inr rfl)⟩
  rw [List.mem_singleton.1 hm]
  exact ⟨_, sends_reply (.inl rfl), by simp, by simp, by simp⟩

/-- With its answer next in the stream a session is closed. -/
theorem shutdown_answered {t : Turn} (hclear : t.before.obstacle = none)
    (hoperation : t.operation = .shutdown) {said : List UInt8} {rest : List Arrival}
    (hincoming : t.before.incoming = arrivals said ++ rest)
    (hanswered : Answered t.before.nextId .null said) :
    t.after.incoming = rest ∧ ∀ n stream, ¬ t.Unanswered stream n := by
  obtain ⟨operation, c⟩ := t
  obtain rfl := hoperation
  have hasks := Client.asks_shutdown hclear
  have hdecode : decodeValue (Operation.shutdown.decoder c.introductions) Json.null.normal
      = .ok () := rfl
  obtain ⟨hverdict, hrest⟩ := Client.awaited_answered hincoming hanswered hdecode
  have hdone : (Operation.shutdown.run c).result = .ok () := hasks.result.trans hverdict
  refine ⟨hasks.incoming.trans hrest, fun n stream h => ?_⟩
  cases h with
  | broken k e hread hmessage hresult => exact absurd (hdone.symm.trans hresult) (by simp)
  | garbled k e hread hmessage hresult => exact absurd (hdone.symm.trans hresult) (by simp)
  | overdue hresult => exact absurd (hdone.symm.trans hresult) (by simp)

/-- The second message is a reply to the first request, and comes too late for it. -/
theorem message_late : ∃ r, Client.message stream 1 = .ok r ∧ r.answers 1 = true := by
  obtain ⟨_, hread, -⟩ :=
    readReply_replies (replies_reply (.inl rfl)) (arrivals (reply 1 ++ reply 2) ++ [])
  obtain ⟨r, hlate, hanswers, -⟩ :=
    readReply_replies (replies_reply (.inl rfl)) (arrivals (reply 2) ++ [])
  have hbehind : Client.behind stream 1 = arrivals (reply 1) ++ (arrivals (reply 2) ++ []) := by
    show (Client.readReply stream).2 = _
    rw [stream, hread, arrivals_append, List.append_assoc]
  refine ⟨r, ?_, hanswers⟩
  rw [Client.message, hbehind, hlate]

theorem ids_first : first.after.ids = [1] := (Client.asks_shutdown rfl).ids

theorem nextId_first : first.after.nextId = 2 := (Client.asks_shutdown rfl).nextId

theorem clear_first : first.after.obstacle = none := (Client.later_run rfl .shutdown).clear

theorem ids_second : second.after.ids = [1, 2] := by
  have hids : second.after.ids = first.after.ids ++ [first.after.nextId] :=
    (Client.asks_shutdown clear_first).ids
  rw [hids, ids_first, nextId_first]
  rfl

theorem asked_first : first.asked = [1] := by
  rw [Turn.asked, ids_first]
  rfl

theorem asked_second : second.asked = [2] := by
  rw [Turn.asked, ids_second, second, ids_first]
  rfl

end Late

/-- So a reply to the first request that comes too late is not taken for the reply to the second,
although it is the next to be read. -/
theorem late_reply_passed_over :
    ((Late.client.afterAll [.shutdown, .shutdown]).ids.length : Int) < Client.lastId
      ∧ (∃ j, Late.first.Credited Introduction.decoder Late.stream 1 j)
      ∧ (∃ k, Late.second.Credited Introduction.decoder Late.stream 2 k)
      ∧ ¬ Late.second.Credited Introduction.decoder Late.stream 2 1 := by
  have hids : (Late.client.afterAll [.shutdown, .shutdown]).ids = [1, 2] := Late.ids_second
  have hfew : ((Late.client.afterAll [.shutdown, .shutdown]).ids.length : Int) < Client.lastId := by
    rw [hids]
    decide
  obtain ⟨-, -, hreply, -, hlate⟩ :=
    replies_credited Introduction.decoder 0 Late.stream [.shutdown, .shutdown] hfew
  have hturns : turns [.shutdown, .shutdown] (.fresh Introduction.decoder 0 Late.stream)
      = [Late.first, Late.second] := rfl
  rw [hturns] at hreply hlate
  obtain ⟨hincoming, hanswered⟩ := Late.shutdown_answered (t := Late.first) rfl rfl rfl
    Late.answered_first
  obtain ⟨-, hanswered'⟩ := Late.shutdown_answered (t := Late.second) Late.clear_first rfl hincoming
    (Late.nextId_first ▸ Late.answered_second)
  obtain ⟨r, hmessage, hr⟩ := Late.message_late
  refine ⟨hfew, ?_, ?_, ?_⟩
  · have hfirst := hreply Late.first List.mem_cons_self
    simpa [Late.asked_first, hanswered] using hfirst
  · have hsecond := hreply Late.second (List.mem_cons_of_mem _ List.mem_cons_self)
    simpa [Late.asked_second, hanswered'] using hsecond
  · have hpair := List.rel_of_pairwise_cons hlate (List.mem_singleton_self Late.second)
    rw [Late.asked_first, Late.asked_second] at hpair
    exact hpair 1 (List.mem_singleton_self 1) 2 (List.mem_singleton_self 2) 1 r hmessage hr

end Server

end CallExplorer
