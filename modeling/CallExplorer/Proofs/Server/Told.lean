/-
What a server tells of symbols.

A server tells a client of symbols in two kinds of answers (`Told`). Two decodings lie between an
answer and an item: the text of the answer is read as a value, and the item is read from that.
They leave the item as it would be left again (`AsRead`): the data are as a value that was read
has them, and they nest so deeply at most that a request still holds them. An answer nests its
items more deeply than a request does, so the limit of a text, which the answer kept to, is enough
for the request.
-/
import CallExplorer.Proofs.Json.Sources
import CallExplorer.Proofs.Server.Reading
import CallExplorer.Proofs.Server.Session

namespace CallExplorer

-- ============================================ items as they were read

namespace Item

/-- The data are as a value that was read has them, and a request has room for them: it holds them
in an item, in its parameters, in a message. -/
def AsRead (i : Item) : Prop :=
  ∀ v, i.data = some v → v.normal.kept = some v ∧ v.depth + 3 ≤ maxLevels

/-- An item that was read comes back as it is. -/
theorem AsRead.received {i : Item} (h : i.AsRead) : i.received = i := by
  obtain ⟨name, kind, tags, detail, uri, range, selectionRange, data⟩ := i
  cases data with
  | none => rfl
  | some v => exact congrArg (Item.mk name kind tags detail uri range selectionRange) (h v rfl).1

/-- The data are read from a value in an item, or there are none. -/
theorem data_of_decode {v : Json} {i : Item} (h : decodeValue decoder v = .ok i) :
    i.data = none ∨ ∃ u ∈ v.values, i.data = u.kept := by
  obtain ⟨⟨name, kind, tags, detail, uri, range, selectionRange, data, _⟩, hrecord, rfl⟩ :=
    Decoder.of_map h
  obtain ⟨-, -, -, -, -, -, -, hdata, -⟩ := Fields.given_of_decodeValue hrecord
  rcases hdata with habsent | ⟨d, hd, hread⟩
  · left
    exact (Option.some.inj habsent).symm
  · right
    obtain ⟨u, hu, rfl⟩ := List.mem_map.1 hd
    have hkept : Decoder.any.option .value (Doc.ofJson u) = .ok u.kept :=
      Decoder.any_option_ofJson u trivial
    exact ⟨u, hu, Except.ok.inj (hread.symm.trans hkept)⟩

/-- So the data nest less deeply than the value. -/
theorem asRead_of_decode {v : Json} {i : Item} (h : decodeValue decoder v = .ok i)
    (hdepth : v.depth + 2 ≤ maxLevels) : i.AsRead := by
  intro w hw
  rcases data_of_decode h with hnone | ⟨u, hu, hkept⟩
  · rw [hnone] at hw
    cases hw
  · rw [hkept] at hw
    have hinside := Json.depth_lt_of_mem_values hu
    have hread := Json.depth_of_kept hw
    exact ⟨Json.kept_of_kept hw, by omega⟩

theorem depthItems_ints (ns : List Int32) :
    Json.depthItems (ns.map fun n => .int n.toInt) = 0 := by
  induction ns with
  | nil => rfl
  | cons n rest ih =>
      rw [List.map_cons, Json.depthItems, ih]
      rfl

/-- Only the data of an item nest more than two levels deep. -/
theorem depth_json_le {i : Item} {n : Nat} (hn : 2 ≤ n) (h : ∀ v, i.data = some v → v.depth ≤ n) :
    i.json.depth ≤ n + 1 := by
  have hrange : ∀ r : Range, r.json.depth = 2 := fun r => rfl
  refine Nat.succ_le_succ (Json.depthMembers_le_iff.2 fun m hm => ?_)
  obtain ⟨k, v⟩ := m
  simp only [List.mem_append, Json.mem_optional, List.mem_cons, List.not_mem_nil,
    or_false, Prod.mk.injEq, Option.map_eq_some_iff] at hm
  rcases hm with
    (((⟨-, hdata⟩ | ⟨-, s, -, rfl⟩) | hfixed) | ⟨-, ts, -, rfl⟩) | ⟨-, rfl⟩
  · exact h v hdata
  · exact Nat.zero_le n
  · rcases hfixed with ⟨-, rfl⟩ | ⟨-, rfl⟩ | ⟨-, rfl⟩ | ⟨-, rfl⟩
    · exact Nat.zero_le n
    · exact Nat.zero_le n
    · rw [hrange]
      exact hn
    · rw [hrange]
      exact hn
  · rw [Json.depth, depthItems_ints]
    omega
  · exact Nat.zero_le n

/-- The data are found where they were written. -/
theorem AsRead.get?_data {i : Item} (h : i.AsRead) : i.json.normal.get? "data" = i.data := by
  rw [json_eq]
  cases hdata : i.data with
  | none =>
      refine Json.get?_normal_of_not_mem fun hkey => ?_
      obtain ⟨⟨k, v⟩, hm, rfl⟩ := List.mem_map.1 hkey
      simp [members, hdata] at hm
  | some v =>
      have hmem : ("data", v) ∈ i.members := by simp [members, hdata]
      rw [Json.get?_normal i.nodup_keys hmem, ← Json.normal_normal, Json.normal_of_kept (h v hdata).1]

end Item

namespace Server

-- ============================================ answers

namespace Reply

/-- The result in an answer leaves one level to the answer itself. -/
theorem depth_of_body {body : List UInt8} {r : Reply} (h : ofBody body = .ok r) :
    (Json.orNull r.result).depth + 1 ≤ maxLevels := by
  obtain ⟨r', hdecoded, hend⟩ := ok_of_bind (decodeDocument_eq_ok.1 h)
  obtain rfl : r' = r := by
    split at hend
    · cases hend
    · exact Except.ok.inj hend
  obtain ⟨⟨id, method, result, refusal, _⟩, hrecord, rfl⟩ := Decoder.of_map hdecoded
  obtain ⟨inner, henter, hgiven⟩ := Fields.given_of_decode hrecord
  cases henter
  obtain ⟨-, -, hresult, -⟩ := hgiven
  have hnothing : (Json.orNull none).depth + 1 ≤ maxLevels := by decide
  rcases hresult with habsent | ⟨d, -, hread⟩
  · cases habsent
    exact hnothing
  · cases result with
    | none => exact hnothing
    | some v =>
        have hallowed : (Origin.text 126).Allows v.depth :=
          Decoder.any_allows (Decoder.of_option hread)
        exact Nat.succ_le_succ hallowed

end Reply

namespace Client

variable {α : Type} {decode : Decoder α} {method : String} {params : Option Json} {c : Client}

theorem depth_of_readReply {stream : List Arrival} {r : Reply} (h : (readReply stream).1 = .ok r) :
    (Json.orNull r.result).depth + 1 ≤ maxLevels := by
  unfold readReply at h
  split at h
  next => cases h
  next body rest hframe =>
    cases hbody : Reply.ofBody body with
    | error e =>
        rw [hbody] at h
        cases h
    | ok r' =>
        rw [hbody] at h
        cases h
        exact Reply.depth_of_body hbody

/-- An answer that came was read. -/
theorem read_of_awaitReply {id : Int} {n : Nat} {stream : List Arrival} {r : Reply}
    (h : (awaitReply id n stream).1 = .ok r) : ∃ stream', (readReply stream').1 = .ok r := by
  rcases awaitReply_cases id stream n 0 with ⟨j, -, -, -, -, heq⟩ | ⟨-, heq⟩
  · have hread : awaitReply id n stream = _ := heq
    rw [hread] at h
    exact ⟨behind stream j, h⟩
  · have hread : awaitReply id n stream = _ := heq
    rw [hread] at h
    cases h

/-- What a request gives is the result of an answer. -/
theorem answer_of_request {a : α} (h : (request decode method params c).result = .ok a) :
    ∃ result : Json, result.depth + 1 ≤ maxLevels ∧ decodeValue decode result = .ok a := by
  cases hwrite : write ⟨some c.nextId, method, params⟩
      { c with nextId := min (c.nextId + 1) lastId } with
  | mk written c' =>
    cases written with
    | error e =>
        rw [request_unwritten hwrite] at h
        cases h
    | ok _ =>
        obtain ⟨events, heq⟩ := request_awaited hwrite decode
        rw [heq] at h
        obtain ⟨r, hreply, hverdict⟩ := ok_of_bind h
        obtain ⟨stream, hread⟩ := read_of_awaitReply hreply
        refine ⟨.orNull r.result, depth_of_readReply hread, ?_⟩
        unfold Reply.verdict at hverdict
        split at hverdict
        next => cases hverdict
        next =>
          cases hdecoded : decodeValue decode (.orNull r.result) with
          | error e =>
              rw [hdecoded] at hverdict
              cases hverdict
          | ok b =>
              rw [hdecoded] at hverdict
              exact congrArg Except.ok (Except.ok.inj hverdict)

theorem answer_in_session {a : α}
    (h : ((do needSession; request decode method params) c).result = .ok a) :
    ∃ result : Json, result.depth + 1 ≤ maxLevels ∧ decodeValue decode result = .ok a := by
  rw [inSession_eq] at h
  split at h
  next => exact answer_of_request h
  next => cases h

end Client

-- ============================================ what a server told

/-- The server told a client of the item, as a symbol at a position or as the other end of a call. -/
inductive Told : Item → Prop
  | root {uri : Uri} {p : Position} {c : Client} {items : List Item} {i : Item}
      (hanswer : (Client.prepare uri p c).result = .ok (some items)) (hi : i ∈ items) : Told i
  | link {d : Direction} {i : Item} {c : Client} {links : List Link} {l : Link}
      (hanswer : (Client.links d i c).result = .ok (some links)) (hl : l ∈ links) : Told l.item

/-- A list in an answer was read from what stands inside the result. -/
theorem mem_of_answer {α : Type} {decode : Decoder α} {result : Json} {xs : List α}
    (h : decodeValue (.option (.list decode)) result = .ok (some xs)) {x : α} (hx : x ∈ xs) :
    ∃ v ∈ result.values, decodeValue decode v = .ok x := by
  obtain ⟨inner, henter, hmem⟩ := Decoder.mem_of_list (Decoder.of_option h)
  cases henter
  obtain ⟨d, hd, hread⟩ := hmem x hx
  rw [Doc.values_ofJson] at hd
  obtain ⟨v, hv, rfl⟩ := List.mem_map.1 hd
  exact ⟨v, hv, hread⟩

/-- Whatever a server told was read, with room left in a request. -/
theorem Told.asRead {i : Item} (h : Told i) : i.AsRead := by
  cases h with
  | root hanswer hi =>
      obtain ⟨result, hdepth, hdecoded⟩ := Client.answer_in_session hanswer
      obtain ⟨v, hv, hitem⟩ := mem_of_answer hdecoded hi
      have hinside := Json.depth_lt_of_mem_values hv
      exact Item.asRead_of_decode hitem (by omega)
  | @link d j c links l hanswer hl =>
      obtain ⟨result, hdepth, hdecoded⟩ := Client.answer_in_session hanswer
      obtain ⟨v, hv, hlink⟩ := mem_of_answer hdecoded hl
      have hinside := Json.depth_lt_of_mem_values hv
      obtain ⟨⟨item, sites, _⟩, hrecord, rfl⟩ := Decoder.of_map hlink
      rcases (Fields.given_of_decodeValue hrecord).1 with habsent | ⟨e, he, hread⟩
      · cases habsent
      · obtain ⟨u, hu, rfl⟩ := List.mem_map.1 he
        have hdeeper := Json.depth_lt_of_mem_values hu
        exact Item.asRead_of_decode hread (by omega)

end Server

end CallExplorer
