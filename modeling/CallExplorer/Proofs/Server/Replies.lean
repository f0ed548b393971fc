/-
What a server sends.

A message of a server is a frame of an object. The protocol leaves much open: other header lines,
the spelling of the JSON, the order of the members, and members that nobody asks for. What counts
are four of them. A method makes the message a request or a notification, an id without a method
makes it a reply, and a reply has a result or an error.

A request is answered by one reply with its id. Before it there may be up to 999 messages that
are no answers. `awaitReply_answered`: they are passed over, and the result comes out as it was
sent, with nothing of what follows taken.
-/
import Mathlib.Data.List.Nodup
import CallExplorer.Proofs.Json.Printing
import CallExplorer.Proofs.Json.Reading
import CallExplorer.Proofs.Json.Records
import CallExplorer.Proofs.Server.Framing
import CallExplorer.Server.Client

namespace CallExplorer

namespace Server

-- ============================================ messages

/-- The bytes are a message with the members: a frame of at most 64 MiB of a text of the object,
in which no key is repeated and nothing nests more than 127 levels deep. -/
structure Sends (bytes : List UInt8) (members : List (String × Json)) : Prop where
  framed : ∃ body, Framed bytes body ∧ body.length ≤ maxMessageBytes
    ∧ (Json.object members).WrittenAs body
  keys : (members.map (·.1)).Nodup
  depth : (Json.object members).depth ≤ maxLevels

/-- Members that are written as compactly as can be are a message. -/
theorem sends_compact {members : List (String × Json)}
    (hwhole : (Json.object members).isWhole = true) (hkeys : (members.map (·.1)).Nodup)
    (hdepth : (Json.object members).depth ≤ maxLevels)
    (hsize : (Text.bytes (Json.object members).compact).length ≤ maxMessageBytes) :
    Sends (frame (Json.object members).compact) members :=
  ⟨⟨_, framed_frame _, hsize, Json.writtenAs_compact hwhole⟩, hkeys, hdepth⟩

/-- An error as the protocol has it: an object with a code of 64 bits and a message. -/
def IsError (v : Json) : Prop :=
  ∃ members code message, v = .object members ∧ (members.map (·.1)).Nodup
    ∧ ("code", .int code) ∈ members ∧ -9223372036854775808 ≤ code ∧ code < 9223372036854775808
    ∧ ("message", .text message) ∈ members

/-- A message that does not answer the request with the id: a request or notification of the
server, or a reply with another id. -/
structure Unrelated (id : Int) (bytes : List UInt8) : Prop where
  sends : ∃ members, Sends bytes members
    ∧ (∀ v, ("method", v) ∈ members → v = .null ∨ ∃ s, v = .text s)
    ∧ (∀ v, ("error", v) ∈ members → v = .null ∨ IsError v)
    ∧ ((∃ s, ("method", .text s) ∈ members) ∨ ("id", .int id) ∉ members)

/-- The reply to the request with the id, which gives a result. -/
structure Replies (id : Int) (result : Json) (bytes : List UInt8) : Prop where
  sends : ∃ members, Sends bytes members
    ∧ ("id", .int id) ∈ members ∧ ("result", result) ∈ members
    ∧ (∀ v, ("method", v) ∈ members → v = .null) ∧ (∀ v, ("error", v) ∈ members → v = .null)

/-- All that a server sends in answer to a request: the reply, and at most 999 messages before it
that are no answers. -/
structure Answered (id : Int) (result : Json) (bytes : List UInt8) : Prop where
  parts : ∃ (noise : List (List UInt8)) (reply : List UInt8), bytes = noise.flatten ++ reply
    ∧ noise.length < maxReplies ∧ (∀ m ∈ noise, Unrelated id m) ∧ Replies id result reply

-- ============================================ fields of a message

theorem member_or_not (key : String) (members : List (String × Json)) :
    (∃ v, (key, v) ∈ members) ∨ key ∉ members.map (·.1) := by
  by_cases h : key ∈ members.map (·.1)
  · obtain ⟨⟨k, v⟩, hm, rfl⟩ := List.mem_map.1 h
    exact .inl ⟨v, hm⟩
  · exact .inr h

theorem eq_of_mem_of_mem {members : List (String × Json)} {key : String} {v w : Json}
    (hkeys : (members.map (·.1)).Nodup) (hv : (key, v) ∈ members) (hw : (key, w) ∈ members) :
    v = w := by
  have heq := List.inj_on_of_nodup_map hkeys hv hw rfl
  exact (Prod.mk.inj heq).2

/-- An optional field has what its member is read as, and nothing if there is no such member. -/
theorem exists_finds {α : Type} {members : List (String × Json)} (o : Origin) (key : String)
    (decode : Decoder α) (P : Json → Option α → Prop) (hkeys : (members.map (·.1)).Nodup)
    (hread : ∀ v, (key, v) ∈ members → ∃ x, decode.option o (Doc.ofJson v) = .ok x ∧ P v x) :
    ∃ x, (Field.optional key decode).Finds o members x
      ∧ (∀ v, (key, v) ∈ members → P v x) ∧ (key ∉ members.map (·.1) → x = none) := by
  rcases member_or_not key members with ⟨v, hv⟩ | hnone
  · obtain ⟨x, hx, hmeans⟩ := hread v hv
    refine ⟨x, .inl ⟨v, hv, hx⟩, ?_, ?_⟩
    · intro w hw
      rw [eq_of_mem_of_mem hkeys hw hv]
      exact hmeans
    · intro hnone
      exact absurd (List.mem_map.2 ⟨_, hv, rfl⟩) hnone
  · refine ⟨none, .inr ⟨hnone, rfl⟩, ?_, fun _ => rfl⟩
    intro w hw
    exact absurd (List.mem_map.2 ⟨_, hw, rfl⟩) hnone

/-- An error is read as a refusal. -/
theorem decode_error (levels : Nat) {v : Json} (h : IsError v) :
    ∃ r, Refusal.decoder (.text (levels + 1)) (Doc.ofJson v) = .ok r := by
  obtain ⟨members, code, message, rfl, hkeys, hcode, hlow, hhigh, hmessage⟩ := h
  have hfits : (-9223372036854775808 ≤ code && code < 9223372036854775808) = true := by
    simp only [Bool.and_eq_true, decide_eq_true_eq]
    exact ⟨hlow, hhigh⟩
  have hi64 : Decoder.i64 (.text levels) (Doc.ofJson (.int code)) = .ok code := by
    rw [Doc.ofJson, Decoder.i64, Decoder.integer, if_pos hfits]
    rfl
  have hread := Fields.decode_object Refusal.fields (code, message, ()) (by decide) "ResponseError"
    (rfl : (Origin.text (levels + 1)).enter = .ok (.text levels)) hkeys
    ⟨.inl ⟨_, hcode, hi64⟩, .inl ⟨_, hmessage, rfl⟩, trivial⟩
  exact ⟨_, by rw [Refusal.decoder, Decoder.map, hread]; rfl⟩

/-- What members say of a message, as far as a client looks at them. -/
structure Describes (members : List (String × Json)) (r : Reply) : Prop where
  id : ∀ v, ("id", v) ∈ members → r.id = v.kept
  noId : "id" ∉ members.map (·.1) → r.id = none
  method : ∀ s, ("method", .text s) ∈ members → r.method = some s
  noMethod : (∀ v, ("method", v) ∈ members → v = .null) → r.method = none
  result : ∀ v, ("result", v) ∈ members → r.result = v.kept
  noError : (∀ v, ("error", v) ∈ members → v = .null) → r.refusal = none

/-- The members of a message are read as what they say. -/
theorem decode_reply {members : List (String × Json)} (hkeys : (members.map (·.1)).Nodup)
    (hdepth : (Json.object members).depth ≤ maxLevels)
    (hmethod : ∀ v, ("method", v) ∈ members → v = .null ∨ ∃ s, v = .text s)
    (herror : ∀ v, ("error", v) ∈ members → v = .null ∨ IsError v) :
    ∃ r, Reply.decoder (.text maxLevels) (Doc.ofJson (.object members)) = .ok r
      ∧ Describes members r := by
  have hinner : ∀ {key : String} {v : Json}, (key, v) ∈ members →
      (Origin.text 126).Allows v.depth := fun hm =>
    Nat.le_trans (Json.depth_le_depthMembers hm) (Nat.le_of_succ_le_succ hdepth)
  obtain ⟨id, hid, hidIs, hnoId⟩ := exists_finds (.text 126) "id" .any
    (fun v x => x = v.kept) hkeys fun v hv => ⟨v.kept, Decoder.any_option_ofJson v (hinner hv), rfl⟩
  obtain ⟨method, hmethodIn, hmethodIs, hnoMethod⟩ := exists_finds (.text 126) "method" .text
    (fun v x => (∀ s, v = .text s → x = some s) ∧ (v = .null → x = none)) hkeys
    (by
      intro v hv
      rcases hmethod v hv with rfl | ⟨s, rfl⟩
      · exact ⟨none, rfl, (fun s heq => by cases heq), fun _ => rfl⟩
      · refine ⟨some s, rfl, ?_, fun heq => by cases heq⟩
        rintro s' heq
        injection heq with heq
        rw [heq])
  obtain ⟨result, hresultIn, hresultIs, -⟩ := exists_finds (.text 126) "result" .any
    (fun v x => x = v.kept) hkeys fun v hv => ⟨v.kept, Decoder.any_option_ofJson v (hinner hv), rfl⟩
  obtain ⟨refusal, herrorIn, herrorIs, hnoError⟩ := exists_finds (.text 126) "error"
    Refusal.decoder (fun v x => v = .null → x = none) hkeys
    (by
      intro v hv
      rcases herror v hv with rfl | herror
      · exact ⟨none, rfl, fun _ => rfl⟩
      · have hnull : v ≠ .null := by
          obtain ⟨_, _, _, rfl, -⟩ := herror
          simp
        obtain ⟨r, hr⟩ := decode_error 125 herror
        exact ⟨some r, Decoder.option_ofJson hnull hr, fun heq => absurd heq hnull⟩)
  have hread := Fields.decode_object Reply.fields (id, method, result, refusal, ())
    (by decide) "Response" (rfl : (Origin.text maxLevels).enter = .ok (.text 126)) hkeys
    ⟨hid, hmethodIn, hresultIn, herrorIn, trivial⟩
  refine ⟨⟨id, method, result, refusal⟩, ?_, ?_⟩
  · rw [Reply.decoder, Decoder.map, hread]
    rfl
  · refine ⟨hidIs, hnoId, fun s hs => (hmethodIs _ hs).1 s rfl, fun hnull => ?_, hresultIs,
      fun hnull => ?_⟩
    · rcases member_or_not "method" members with ⟨v, hv⟩ | hnone
      · exact (hmethodIs v hv).2 (hnull v hv)
      · exact hnoMethod hnone
    · rcases member_or_not "error" members with ⟨v, hv⟩ | hnone
      · exact herrorIs v hv (hnull v hv)
      · exact hnoError hnone

/-- A message is read as what its members say, and nothing of what follows is taken. -/
theorem readReply_sends {bytes : List UInt8} {members : List (String × Json)}
    (h : Sends bytes members)
    (hmethod : ∀ v, ("method", v) ∈ members → v = .null ∨ ∃ s, v = .text s)
    (herror : ∀ v, ("error", v) ∈ members → v = .null ∨ IsError v) (rest : List Arrival) :
    ∃ r, Client.readReply (arrivals bytes ++ rest) = (.ok r, rest) ∧ Describes members r := by
  obtain ⟨body, hframed, hsize, hwritten⟩ := h.framed
  obtain ⟨r, hdecode, hdescribes⟩ := decode_reply h.keys h.depth hmethod herror
  refine ⟨r, ?_, hdescribes⟩
  have hbody : Reply.ofBody body = .ok r :=
    decodeDocument_eq_ok.2 (decodeText_written hwritten hdecode)
  rw [Client.readReply, readFrame_framed hframed hsize]
  simp only [hbody]
  rfl

-- ============================================ waiting for an answer

/-- A message that is no answer is read, and is no answer. -/
theorem readReply_unrelated {id : Int} {bytes : List UInt8} (h : Unrelated id bytes)
    (rest : List Arrival) :
    ∃ r, Client.readReply (arrivals bytes ++ rest) = (.ok r, rest) ∧ r.answers id = false := by
  obtain ⟨members, hsends, hmethod, herror, hother⟩ := h.sends
  obtain ⟨r, hread, hdescribes⟩ := readReply_sends hsends hmethod herror rest
  refine ⟨r, hread, ?_⟩
  rw [Reply.answers]
  rcases hother with ⟨s, hs⟩ | hid
  · rw [hdescribes.method s hs]
    rfl
  · rcases member_or_not "id" members with ⟨v, hv⟩ | hnone
    · -- the id that is kept is the request's only if the member is
      rw [hdescribes.id v hv, Bool.and_eq_false_iff]
      refine .inr ?_
      cases v with
      | int n =>
          have hne : n ≠ id := fun heq => hid (heq ▸ hv)
          exact decide_eq_false hne
      | _ => rfl
    · rw [hdescribes.noId hnone, Bool.and_false]

/-- The reply is read, is the answer, and brings the result. -/
theorem readReply_replies {id : Int} {result : Json} {bytes : List UInt8}
    (h : Replies id result bytes) (rest : List Arrival) :
    ∃ r, Client.readReply (arrivals bytes ++ rest) = (.ok r, rest) ∧ r.answers id = true
      ∧ r.refusal = none ∧ Json.orNull r.result = result.normal := by
  obtain ⟨members, hsends, hid, hresult, hmethod, herror⟩ := h.sends
  obtain ⟨r, hread, hdescribes⟩ := readReply_sends hsends (fun v hv => .inl (hmethod v hv))
    (fun v hv => .inl (herror v hv)) rest
  refine ⟨r, hread, ?_, hdescribes.noError herror, ?_⟩
  · rw [Reply.answers, hdescribes.noMethod hmethod, hdescribes.id _ hid]
    exact decide_eq_true rfl
  · rw [hdescribes.result _ hresult]
    cases result <;> rfl

/-- Messages that are no answers are passed over. -/
theorem awaitReply_unrelated {id : Int} {noise : List (List UInt8)}
    (h : ∀ m ∈ noise, Unrelated id m) (n : Nat) (rest : List Arrival) :
    Client.awaitReply id (noise.length + n) (arrivals noise.flatten ++ rest)
      = Client.awaitReply id n rest := by
  induction noise with
  | nil =>
      rw [List.length_nil, Nat.zero_add]
      rfl
  | cons m noise ih =>
      obtain ⟨r, hread, hother⟩ :=
        readReply_unrelated (h m List.mem_cons_self) (arrivals noise.flatten ++ rest)
      have hlength : (m :: noise).length + n = (noise.length + n) + 1 := by
        rw [List.length_cons]
        omega
      rw [List.flatten_cons, arrivals_append, List.append_assoc, hlength, Client.awaitReply]
      simp only [hread, hother]
      exact ih fun m' hm => h m' (List.mem_cons_of_mem m hm)

/-- The answer to a request is found among the messages before it, with the result that it was
sent with. Nothing that follows it is taken. -/
theorem awaitReply_answered {id : Int} {result : Json} {bytes : List UInt8}
    (h : Answered id result bytes) (rest : List Arrival) :
    ∃ r, Client.awaitReply id maxReplies (arrivals bytes ++ rest) = (.ok r, rest)
      ∧ r.refusal = none ∧ Json.orNull r.result = result.normal := by
  obtain ⟨noise, reply, rfl, hcount, hnoise, hreply⟩ := h.parts
  obtain ⟨r, hread, hanswers, hrefusal, hresult⟩ := readReply_replies hreply rest
  refine ⟨r, ?_, hrefusal, hresult⟩
  have hturns : maxReplies = noise.length + ((maxReplies - noise.length - 1) + 1) := by omega
  rw [hturns, arrivals_append, List.append_assoc, awaitReply_unrelated hnoise, Client.awaitReply]
  simp only [hread, hanswers]
  rfl

end Server

end CallExplorer
