/-
What a server gets back.

A symbol comes in an answer, hangs in a tree, and goes out again with the question about its calls.
The server recognises it by what it said itself, down to the data, so nothing may be lost on the
way: not a tag list that is empty but there, not an integer that only just fits 64 bits, not a
level of nesting. What a server told is left alone by being written and read (`Told.asRead`), so
the question brings it back (`bringsBack_links`).

A client may be lost, out of session or hindered when it is asked. So what is said of a question
(`Asks`) is that it is put at most once, that it brings back the item if it is written to its end,
and that it is if nothing is in the way. One query does that (`asks_resolve`), and the rest is that
hosts and listings only ask about items that the server told.

# What this closes

`items_brought_back`: in every host and in every listing, for all questions they come to put.
-/
import CallExplorer.Proofs.Host.Provenance
import CallExplorer.Proofs.Server.Exploration
import CallExplorer.Proofs.Server.Told
import CallExplorer.Proofs.Tree.Questions

namespace CallExplorer

open Provider (question)

namespace Server

-- ============================================ questions as a server reads them

/-- The bytes are a question for the calls of the item in the direction, and bring the server the
item as it was, with the data that it sent. -/
structure BringsBack (d : Direction) (i : Item) (bytes : List UInt8) : Prop where
  read : ∃ body v params w, Framed bytes body ∧ decodeText .any body = .ok v
    ∧ v.get? "method" = some (.text (callsMethod d))
    ∧ v.get? "params" = some params ∧ params.get? "item" = some w
    ∧ decodeValue Item.decoder w = .ok i ∧ w.get? "data" = i.data

/-- What is written compactly is read as it is, but for the order of members. -/
theorem Message.read_body {m : Message} (hwhole : m.json.isWhole = true)
    (hdepth : m.json.depth ≤ maxLevels) :
    decodeText .any (Text.bytes m.body) = .ok m.json.normal :=
  decodeText_written (Json.writtenAs_compact hwhole) (Decoder.any_ofJson m.json _ hdepth)

/-- A request as it is read: the method and the parameters are where they belong. -/
theorem Message.get?_request (id : Int) (method : String) (params : Json) :
    (Message.json ⟨some id, method, some params⟩).normal.get? "method" = some (.text method)
      ∧ (Message.json ⟨some id, method, some params⟩).normal.get? "params"
        = some params.normal := by
  have hkeys : ["jsonrpc", "id", "method", "params"].Nodup := by decide
  constructor
  · exact Json.get?_normal (v := .text method) (by exact hkeys) (by simp [Json.optional])
  · exact Json.get?_normal (v := params) (by exact hkeys) (by simp [Json.optional])

/-- The question about an item that was read brings it back. -/
theorem bringsBack_links {i : Item} (hread : i.AsRead) (hwhole : i.Whole) {id : Int}
    (hlow : 1 ≤ id) (hhigh : id ≤ Client.lastId) (d : Direction) :
    BringsBack d i (Transmission.bytes
      ⟨⟨some id, Client.linksMethod d, some (Client.linksParams i)⟩, true⟩) := by
  have hparams : (Client.linksParams i).isWhole = true := by
    simp only [Client.linksParams, Json.isWhole, Json.haveWhole, hwhole.json, Bool.and_self]
  have hid : ∀ n, some id = some n → 1 ≤ n ∧ n ≤ Client.lastId := by
    rintro n hn
    injection hn with hn
    exact hn ▸ ⟨hlow, hhigh⟩
  -- data in an item in parameters in a message: three levels for the data, and two for a range
  have hitem : i.json.depth ≤ 124 + 1 :=
    Item.depth_json_le (by decide) fun v hv => Nat.le_of_add_le_add_right (hread v hv).2
  have hdepth : (Message.json ⟨some id, Client.linksMethod d, some (Client.linksParams i)⟩).depth
      = i.json.depth + 2 := by
    simp [Message.json, Json.optional, Client.linksParams, Json.depth, Json.depthMembers]
  have hbody := Message.read_body (Client.isWhole_message (Client.linksMethod d) hid hparams)
    (by rw [hdepth]; exact Nat.add_le_add_right hitem 2)
  obtain ⟨hmethod, hlinks⟩ :=
    Message.get?_request id (Client.linksMethod d) (Client.linksParams i)
  have hfound : (Client.linksParams i).normal.get? "item" = some i.json.normal :=
    Json.get?_normal (by exact List.nodup_singleton "item") List.mem_cons_self
  have hcalls := hmethod.trans (congrArg (some <| Json.text ·) (Client.linksMethod_eq d))
  refine ⟨_, _, _, _, framed_frame _, hbody, hcalls, hlinks, hfound, ?_, hread.get?_data⟩
  rw [i.decode_json, hread.received]

-- ============================================ what is written

namespace Client

variable {c : Client}

/-- A request writes itself, if it writes anything, and uses up an id. -/
theorem request_adds {α : Type} (decode : Decoder α) (method : String) (params : Option Json)
    (c : Client) :
    Adds ⟨some c.nextId, method, params⟩ c (request decode method params c).state
      ∧ (request decode method params c).state.nextId = min (c.nextId + 1) lastId := by
  have hadds := write_adds ⟨some c.nextId, method, params⟩
    { c with nextId := min (c.nextId + 1) lastId }
  cases hwrite : write ⟨some c.nextId, method, params⟩
      { c with nextId := min (c.nextId + 1) lastId } with
  | mk written c' =>
    rw [hwrite] at hadds
    cases written with
    | error e =>
        rw [request_unwritten hwrite]
        exact hadds
    | ok _ =>
        obtain ⟨events, heq⟩ := request_awaited hwrite decode
        rw [heq]
        exact hadds

/-- The question for the calls of an item. -/
def linksMessage (c : Client) (d : Direction) (i : Item) : Message :=
  ⟨some c.nextId, linksMethod d, some (linksParams i)⟩

/-- A client that is asked for the calls of an item asks the server for them, if it writes
anything. -/
theorem links_adds (d : Direction) (i : Item) (c : Client) :
    Adds (c.linksMessage d i) c (links d i c).state
      ∧ ((links d i c).state.nextId = c.nextId
        ∨ (links d i c).state.nextId = min (c.nextId + 1) lastId) := by
  have hrequest := request_adds (.option (.list (Link.decoder d))) (linksMethod d)
    (some (linksParams i)) c
  rw [links, inSession_eq]
  by_cases hopen : c.initialised = true
  · rw [if_pos hopen]
    exact ⟨hrequest.1, .inr hrequest.2⟩
  · rw [if_neg hopen]
    exact ⟨.inl rfl, .inl rfl⟩

/-- In a session with nothing in the way it does. -/
theorem links_written (h : c.obstacle = none) (hopen : c.initialised = true) (d : Direction)
    (i : Item) : (links d i c).state.sent = ⟨c.linksMessage d i, true⟩ :: c.sent := by
  rw [links, inSession_eq, if_pos hopen]
  exact sent_request h _ _ _

/-- The id of the next request is one of those there are. -/
def HasId (c : Client) : Prop := 1 ≤ c.nextId ∧ c.nextId ≤ lastId

theorem hasId_links (d : Direction) (i : Item) (h : c.HasId) : (links d i c).state.HasId := by
  obtain ⟨hlow, hhigh⟩ := h
  have hlast : (1 : Int) ≤ lastId := by decide
  unfold HasId
  rcases (links_adds d i c).2 with hsame | hnext
  · omega
  · omega

end Client

-- ============================================ one question

section Question

variable {q : Query} {s : Shared Client}

/-- The server was asked about an item that it told, and at most once. If it was asked at all, and
the question was written to its end, then it got back the item. And in a session with nothing in
the way it was asked, and the question was written to its end. -/
structure Asks (d : Direction) (i : Item) (s s' : Shared Client) : Prop where
  told : Told i
  once : s'.client.sent = s.client.sent ∨ ∃ t, s'.client.sent = t :: s.client.sent
  back : i.Whole → ∀ t, s'.client.sent = t :: s.client.sent → t.complete = true →
    BringsBack d i t.bytes
  written : s.lost = false → s.client.initialised = true → s.client.obstacle = none →
    ∃ t, s'.client.sent = t :: s.client.sent ∧ t.complete = true

/-- A query leaves the client alone, or asks it for the calls of the item. -/
theorem resolve_client (q : Query) (s : Shared Client) :
    (Shared.resolve Client.access q s).state.client = s.client
      ∨ (Shared.resolve Client.access q s).state.client
        = (Client.links q.direction q.item s.client).state := by
  cases hq : q.cancelled with
  | true =>
      rw [Shared.resolve_of_cancelled hq]
      exact .inl rfl
  | false =>
      cases hs : s.lost with
      | true =>
          rw [Shared.resolve_of_lost hq hs]
          exact .inl rfl
      | false =>
          rw [(Shared.resolve_of_held hq hs).state]
          exact .inr rfl

theorem hasId_resolve (q : Query) (s : Shared Client) (h : s.client.HasId) :
    (Shared.resolve Client.access q s).state.client.HasId := by
  rcases resolve_client q s with hsame | hlinks
  · rw [hsame]
    exact h
  · rw [hlinks]
    exact Client.hasId_links q.direction q.item h

/-- Whatever comes back for a query is something that the server told. -/
theorem told_of_resolve {links : List Link}
    (h : (Shared.resolve Client.access q s).result = .ok links) {l : Link} (hl : l ∈ links) :
    Told l.item := by
  cases hq : q.cancelled with
  | true =>
      rw [Shared.resolve_of_cancelled hq] at h
      cases h
  | false =>
      cases hs : s.lost with
      | true =>
          rw [Shared.resolve_of_lost hq hs] at h
          cases h
      | false =>
          rw [(Shared.resolve_of_held hq hs).result] at h
          obtain ⟨answer, hanswer, rfl⟩ := ok_of_map h
          cases answer with
          | none => cases hl
          | some links =>
              have haccess : Client.access.links q.direction q.item s.client
                  = ⟨.ok (some links), _, _⟩ := congrArg (Outcome.mk · _ _) hanswer
              exact .link (congrArg Outcome.result (Action.ok_of_mapError haccess)) hl

/-- A query about an item that the server told brings the item back. -/
theorem asks_resolve (hq : q.cancelled = false) (hid : s.client.HasId) (hi : Told q.item) :
    Asks q.direction q.item s (Shared.resolve Client.access q s).state := by
  have hadds := (Client.links_adds q.direction q.item s.client).1
  refine ⟨hi, ?_, ?_, ?_⟩
  · rcases resolve_client q s with hsame | hlinks
    · rw [hsame]
      exact .inl rfl
    · rw [hlinks]
      exact hadds.imp id fun ⟨complete, h⟩ => ⟨_, h⟩
  · intro hwhole t ht hcomplete
    have hlonger : ∀ ts : List Transmission, ts ≠ t :: ts := fun ts h =>
      absurd (congrArg List.length h) (by simp)
    rcases resolve_client q s with hsame | hlinks
    · rw [hsame] at ht
      exact absurd ht (hlonger _)
    · rw [hlinks] at ht
      rcases hadds with hnone | ⟨complete, hsent⟩
      · rw [hnone] at ht
        exact absurd ht (hlonger _)
      · obtain ⟨rfl, -⟩ := List.cons.inj (hsent.symm.trans ht)
        obtain rfl : complete = true := hcomplete
        exact bringsBack_links hi.asRead hwhole hid.1 hid.2 q.direction
  · intro hheld hopen hclear
    refine ⟨⟨s.client.linksMessage q.direction q.item, true⟩, ?_, rfl⟩
    rw [(Shared.resolve_of_held hq hheld).state]
    exact Client.links_written hclear hopen q.direction q.item

end Question

-- ============================================ many questions

/-- A tree grows from items that a server told, over a client in any state. Whenever a host asks for
the children of a node, after any requests whatever and in the direction that it looks in then, and
with every question that a listing puts, down to any limit and in the state that the questions
before it left, the item is one that the server told, and the question brings it back (`Asks`):
what is written has the method of the direction, and the item in it, read back from the bytes, is
the item in every field, with the data that it came with. -/
theorem items_brought_back {roots : List Item} (hroots : ∀ i ∈ roots, Told i) (d : Direction)
    {s : Shared Client} (hid : s.client.HasId) :
    (∀ rs, ∀ t ∈ Host.history (Client.walker roots) rs { session := ⟨d, s⟩ },
        ∀ number held, t.request = .children number → t.before.node? number = some held →
          Asks t.direction held.node.item t.before.session.state
            (t.outcome (Client.walker roots)).state.session.state)
      ∧ ∀ limit before q after,
        ((Client.walker roots).recorded.rows d limit (s, [])).state.2.map (·.query)
            = before ++ q :: after →
          let asked := (Client.walker roots).afterAll before s
          Asks d q.item asked ((Client.walker roots).resolve q asked).state := by
  have hanswers : ∀ q s links, ((Client.walker roots).resolve q s).result = .ok links →
      ∀ l ∈ links, Told l.item := fun q s links h l hl => told_of_resolve h hl
  constructor
  · intro rs t ht number held hrequest hheld
    have hkept : (∀ held ∈ t.before.nodes, Told held.node.item)
        ∧ t.before.session.state.client.HasId := by
      refine Host.holds_history (P := fun h => (∀ held ∈ h.nodes, Told held.node.item)
        ∧ h.session.state.client.HasId) (fun r h hh => ⟨?_, ?_⟩) ?_ t ht
      · exact Host.held_run hroots hanswers r hh.1
      · rcases Host.state_run (Client.walker roots) r h with hsame | ⟨q, hnext⟩
        · rw [hsame]
          exact hh.2
        · rw [hnext]
          exact hasId_resolve q _ hh.2
      · exact ⟨fun held hnone => (List.not_mem_nil hnone).elim, hid⟩
    rw [Host.state_children hrequest hheld]
    exact asks_resolve (q := question t.direction held.node) rfl hkept.2
      (hkept.1 held (List.mem_of_getElem? hheld))
  · intro limit before q after hqueries asked
    have hrecorded :=
      (@rows_apply _ _ _ _ _ (follows_recorded (Client.walker roots)) d limit (s, []) s [] rfl).2
    have hmem : q ∈ ((Client.walker roots).unfolding d limit s).exchanges.map (·.query) := by
      rw [hrecorded] at hqueries
      exact hqueries ▸ List.mem_append_right before List.mem_cons_self
    obtain ⟨x, hx, rfl⟩ := List.mem_map.1 hmem
    obtain ⟨n, hquery, htold⟩ := Provider.asksOnly_unfolding hroots hanswers limit s x hx
    have hasked : asked.client.HasId :=
      Provider.holds_afterAll (P := fun s : Shared Client => s.client.HasId) hasId_resolve hid before
    rw [hquery]
    exact asks_resolve (q := question d n) rfl hasked htold

namespace Sample

/-- A symbol with all that may get lost on the way: tags that are there but none, escapes, the
least and the greatest integer, and a `null` in the data. -/
def told : Item :=
  { Sample.function "main" 0 with
    tags := some []
    detail := some "a \"b\"\n"
    data := some (.object
      [("id", .int 18446744073709551615),
        ("path", .array [.int (-9223372036854775808), .text "\\", .null])]) }

/-- What a server says that knows the symbol. -/
def stream : List Arrival := arrivals (Client.Sample.reply 1 (.array [told.json])) ++ []

theorem told_told : Told told.received := by
  have hanswered : Answered 1 (.array [told.json]) (Client.Sample.reply 1 (.array [told.json])) :=
    Client.Sample.answered_reply (by decide +kernel) (by decide) (by decide +kernel)
  have hdecode : decodeValue (.option (.list Item.decoder)) (Json.array [told.json]).normal
      = .ok (some ([told].map Item.received)) :=
    Client.decode_given rfl fun i _ => i.decode_json
  obtain ⟨events, hprepare⟩ := Client.request_in_session
    (c := { incoming := stream, initialised := true }) rfl rfl "textDocument/prepareCallHierarchy"
    (some (Client.prepareParams told.uri ⟨0, 4⟩)) rfl hanswered hdecode
  exact .root (congrArg Outcome.result hprepare) List.mem_cons_self

end Sample

/-- So a host that asks for the calls of the symbol writes one question, which brings it back. -/
theorem sample_brought_back :
    let walker := Client.walker [Sample.told.received]
    let host : Host (Shared Client) :=
      { session := ⟨.incoming, { client := { incoming := [], initialised := true } }⟩ }
    ∃ t, (host.afterAll walker [.roots, .children 0]).session.state.client.sent = [t]
      ∧ BringsBack .incoming Sample.told.received t.bytes := by
  intro walker host
  have htold : ∀ i ∈ [Sample.told.received], Told i := fun i hi =>
    List.mem_singleton.1 hi ▸ Sample.told_told
  have hwhole : Sample.told.received.Whole :=
    Item.Whole.received fun v hv => by
      cases hv
      decide
  have hasks := (items_brought_back htold .incoming (s := host.session.state)
    ⟨Int.le_refl 1, by decide⟩).1 [.roots, .children 0] _
    (List.mem_cons_of_mem _ List.mem_cons_self) 0 _ rfl rfl
  obtain ⟨t, ht, hcomplete⟩ := hasks.written rfl rfl rfl
  exact ⟨t, ht, hasks.back hwhole t ht hcomplete⟩

end Server

end CallExplorer
