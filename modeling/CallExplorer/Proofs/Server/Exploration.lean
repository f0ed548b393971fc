/-
Exploring through a server what it has from a call graph.

A client opens a session, hands documents over, asks for the symbols at a position and lists the
tree below them (`explore`).

# What this closes

`explore_eq_rows`: the rows are those of the call graph, for every direction and every depth, as
long as the stream answers what the client says. It is what the program does, which hands over
one document and takes leave in the end (`listServer_of_explore`).

That there are streams like that shows in a conversation about a program of two functions,
with a message in front of every reply that is none.
-/
import CallExplorer.Command.Run
import CallExplorer.Proofs.Server.Walk

namespace CallExplorer

namespace Server

namespace Client

variable {reads : Decoder Introduction} {g : CallGraph} {final : List Transmission}

-- ============================================ the whole exploration

/-- A document with its language and its content. -/
structure OpenedDocument where
  uri : Uri
  language : String
  content : String

/-- Hands documents over to the server, one after the other. -/
def openDocuments : List OpenedDocument → Action Client Failure Unit
  | [] => pure ()
  | doc :: rest => do
    openDocument doc.uri doc.language doc.content
    openDocuments rest

/-- Opens a session for a directory, hands documents over, asks for the symbols at a position of
a file, and lists the tree below them. -/
def explore (root : Uri) (documents : List OpenedDocument) (path : String) (p : Position)
    (d : Direction) (limit : Nat) : Action Client CallExplorer.Failure (List Row) := do
  let _ ← (initialise root).mapError .ofServer
  (openDocuments documents).mapError .ofServer
  let roots ← access.start path p
  Shared.during ((Shared.provider access roots).rows d limit)

theorem grows_openDocuments (documents : List OpenedDocument) :
    Grows (openDocuments documents) := by
  induction documents with
  | nil => exact grows_pure ()
  | cons doc rest ih => exact grows_bind (grows_openDocument _ _ _) fun _ => ih

theorem succeeds_openDocuments (documents : List OpenedDocument) :
    Succeeds reads g final (fun c => c.initialised = true) (openDocuments documents)
      fun _ c => c.initialised = true := by
  induction documents with
  | nil => exact (succeeds_pure ()).weaken fun _ _ h => h.2
  | cons doc rest ih =>
      exact (succeeds_openDocument doc.uri doc.language doc.content).bind
        (fun _ => grows_openDocuments rest) fun _ => ih

theorem grows_start (path : String) (p : Position) : Grows (access.start path p) := by
  refine grows_bind (grows_lift _) fun uri => ?_
  refine grows_bind (grows_mapError (grows_prepare uri p)) fun answer => ?_
  split
  · exact grows_fail _
  · exact grows_bind (grows_note _) fun _ => grows_pure _

/-- An exploration succeeds with the rows of the call graph. -/
theorem succeeds_explore (hg : g.Whole) (hroots : g.roots ≠ []) (root : Uri)
    (documents : List OpenedDocument) {path : String} {uri : Uri}
    (huri : Uri.ofPath path = .ok uri) (p : Position) (d : Direction) (limit : Nat) :
    Succeeds reads g final (fun c => c.process < 4294967296 ∧ c.introductions = reads)
      (explore root documents path p d limit) fun rows _ =>
        rows = (Node.sorted (g.roots.map .root)).flatMap (shown g.answer d limit 0) := by
  refine ((succeeds_initialise root).mapError _).bind (fun _ => ?_) fun _ => ?_
  · exact grows_bind (grows_mapError (grows_openDocuments documents)) fun _ =>
      grows_bind (grows_start path p) fun roots => grows_rows d limit
  refine ((succeeds_openDocuments documents).mapError _).bind (fun _ => ?_) fun _ => ?_
  · exact grows_bind (grows_start path p) fun roots => grows_rows d limit
  refine (succeeds_start huri p hroots).bind (fun roots => grows_rows d limit) fun roots => ?_
  refine Succeeds.of_assumed (φ := roots = g.roots.map Item.received) (fun c hc => hc.1) ?_
  rintro rfl
  exact (succeeds_rows hg d limit).strengthen fun c hc => hc.2

/-- Exploring through a server comes to the rows of the call graph that the server knows,
whenever the stream answers what the client says: the introduction with one that the client
understands, however it reads introductions; the question for the symbols at a position with the
roots; and each question for calls with the links of the item, in the order of the questions. Each
answer may come behind 999 other messages. -/
theorem explore_eq_rows (reads : Decoder Introduction) {g : CallGraph} (hg : g.Whole)
    (hroots : g.roots ≠ []) (root : Uri) (documents : List OpenedDocument) {path : String}
    {uri : Uri} (huri : Uri.ofPath path = .ok uri) (p : Position) (d : Direction) (limit : Nat)
    {stream : List Arrival} (process : UInt32)
    (hserves : Serves reads g ((explore root documents path p d limit
        (.fresh reads process.toNat stream)).state.sent.reverse.map Transmission.bytes) stream) :
    ∃ rows,
      (explore root documents path p d limit (.fresh reads process.toNat stream)).result = .ok rows
        ∧ (g.provider.rows d limit ()).result = .ok rows := by
  have htrack : OnTrack reads g
      (explore root documents path p d limit (.fresh reads process.toNat stream)).state.sent
      (.fresh reads process.toNat stream) := by
    refine ⟨⟨_, ?_, hserves⟩, rfl, Int.le_refl 1, (by decide : (1 : Int) ≤ lastId)⟩
    rw [List.reverse_reverse]
    exact (List.append_nil _).symm
  obtain ⟨rows, hok, hrows, -⟩ := succeeds_explore hg hroots root documents huri p d limit _ htrack
    ⟨process.toNat_lt, rfl⟩ (List.suffix_refl _)
  refine ⟨rows, hok, ?_⟩
  rw [g.rows_eq d limit (), hrows]

-- ============================================ what the program does

/-- Taking leave goes well for the program, however it goes for the server. -/
theorem takeLeave_comesTo (locate : Locate) (c : Client) :
    (Command.takeLeave locate).ComesTo c (.ok ()) (shutdown c).state := by
  have hshutdown : shutdown.ComesTo c (shutdown c).result (shutdown c).state := ⟨rfl, rfl⟩
  refine hshutdown.attempt.bind ?_
  cases (shutdown c).result with
  | error f => exact ⟨rfl, rfl⟩
  | ok _ => exact ⟨rfl, rfl⟩

/-- The program explores, with its only document, and takes leave. -/
theorem listServer_of_explore {s : Settings} {o : ServerOptions} {locate : Locate}
    {directory path content : String} {root document : Uri}
    (hroot : Uri.ofPath directory = .ok root) (hdocument : Uri.ofPath path = .ok document)
    {c : Client} {rows : List Row}
    (h : (explore root [⟨document, o.language, content⟩] path ⟨o.line, o.column⟩ s.direction
      s.depth c).result = .ok rows) :
    (Command.listServer s o locate directory path content c).result = .ok rows := by
  obtain ⟨_, _, c₁, hinitialise, h⟩ := Action.ok_of_bind h
  obtain ⟨_, _, c₂, hopen, h⟩ := Action.ok_of_bind h
  obtain ⟨roots, _, c₃, hstart, h⟩ := Action.ok_of_bind h
  have huri : ∀ {path : String} {uri : Uri}, Uri.ofPath path = .ok uri → ∀ c : Client,
      Command.uriOf path c = ⟨.ok uri, [], c⟩ := by
    intro path uri huri c
    rw [Command.uriOf, huri]
    rfl
  have hdocuments : openDocuments [⟨document, o.language, content⟩]
      = openDocument document o.language content := Action.bind_pure _
  rw [hdocuments] at hopen
  have hinitialise' :=
    Action.mapError_of_ok (Action.ok_of_mapError hinitialise) Command.RunError.server
  have hopen' := Action.mapError_of_ok (Action.ok_of_mapError hopen) Command.RunError.server
  have hstart' := Action.mapError_of_ok hstart Command.RunError.exploration
  obtain ⟨_, hleave⟩ := (takeLeave_comesTo locate
    (Shared.during ((Shared.provider access roots).rows s.direction s.depth) c₃).state).exists_eq
  rw [Command.listServer, Action.bind_of_ok (huri hroot c), Action.bind_of_ok hinitialise',
    Action.bind_of_ok (huri hdocument c₁), Action.bind_of_ok hopen']
  rw [Action.bind_of_ok hstart', Action.bind_of_ok (Action.attempt_apply _ c₃),
    Action.bind_of_ok hleave, h]
  rfl

-- ============================================ a conversation

namespace Sample

/-- The function that the program starts with. -/
def main : Item := Sample.function "main" 0

/-- The only call of the program. -/
def call : Link := ⟨Sample.function "scan" 1, [⟨⟨0, 5⟩, ⟨0, 9⟩⟩]⟩

/-- The whole program. -/
def program : CallGraph := ⟨[main], [⟨main, call.item, call.sites⟩]⟩

/-- The only document of the program. -/
def document : Uri := main.uri

/-- What the server says of itself: nothing. -/
def introduction : Json := .object [("capabilities", .object [])]

/-- A message that the server sends on its own account. -/
def log : List (String × Json) := [("method", .text "window/logMessage")]

/-- The server sends such a message before each of its replies. -/
def reply (id : Int) (result : Json) : List UInt8 :=
  frame (Json.object log).compact
    ++ frame (Json.object [("id", .int id), ("result", result)]).compact

/-- What the client says, and what the server says in turn. -/
def turns : List (Message × List UInt8) :=
  [(⟨some 1, "initialize", some (introductionParams 0 document)⟩, reply 1 introduction),
    (⟨none, "initialized", some (.object [])⟩, []),
    (⟨some 2, "textDocument/prepareCallHierarchy", some (prepareParams document ⟨0, 4⟩)⟩,
      reply 2 (.array [main.json])),
    (⟨some 3, "callHierarchy/outgoingCalls", some (linksParams main)⟩,
      reply 3 (.array [call.json .outgoing]))]

/-- The stream from some turn on. -/
def streamFrom (turn : Nat) : List Arrival := (turns.drop turn).flatMap fun t => arrivals t.2

/-- The message in between is no answer. -/
theorem unrelated_log (id : Int) : Unrelated id (frame (Json.object log).compact) := by
  have hsends : Sends (frame (Json.object log).compact) log :=
    sends_compact (by decide) (by decide) (by decide) (by decide +kernel)
  exact ⟨log, hsends, by simp [log], by simp [log], by simp [log]⟩

/-- A reply is one, if it can be written at all. -/
theorem answered_reply {id : Int} {result : Json}
    (hwhole : (Json.object [("id", .int id), ("result", result)]).isWhole = true)
    (hdepth : (Json.object [("id", .int id), ("result", result)]).depth ≤ maxLevels)
    (hsize : (Text.bytes (Json.object [("id", .int id), ("result", result)]).compact).length
      ≤ maxMessageBytes) : Answered id result (reply id result) := by
  have hkeys : ["id", "result"].Nodup := by decide
  refine ⟨[frame (Json.object log).compact], _, rfl, by decide, ?_, _,
    sends_compact hwhole hkeys hdepth hsize, by simp, by simp, by simp, by simp⟩
  intro m hm
  rw [List.mem_singleton.1 hm]
  exact unrelated_log id

theorem answered_introduction : Answered 1 introduction (reply 1 introduction) :=
  answered_reply (by decide) (by decide) (by decide +kernel)

theorem answered_roots : Answered 2 (.array [main.json]) (reply 2 (.array [main.json])) :=
  answered_reply (by decide +kernel) (by decide) (by decide +kernel)

theorem answered_links :
    Answered 3 (.array [call.json .outgoing]) (reply 3 (.array [call.json .outgoing])) :=
  answered_reply (by decide +kernel) (by decide) (by decide +kernel)

/-- Saying nothing of oneself is understood. -/
theorem decode_introduction :
    decodeValue Introduction.decoder introduction.normal = .ok ⟨none, none⟩ := by
  have hcapabilities : decodeValue Introduction.capabilities (Json.object []).normal = .ok none :=
    decode_map (x := (none, ())) <|
      Fields.decodeValue_normal "ServerCapabilities" (by decide) (by decide) <|
      Fields.find_cons (Field.finds_optional none (by simp) (by simp) (by simp)) trivial
  refine decode_map (x := (none, none, ())) <|
    Fields.decodeValue_normal "InitializeResult" (by decide) (by decide) ?_
  refine Fields.find_cons (Field.finds_required List.mem_cons_self hcapabilities) ?_
  exact Fields.find_cons (Field.finds_optional none (by simp) (by simp) (by simp)) trivial

/-- The program asks for the calls of its root, and for nothing else. -/
theorem unfolding_client {c : Client} (h : c.obstacle = none) (hopen : c.initialised = true)
    (hincoming : c.incoming = arrivals (reply 3 (.array [call.json .outgoing])) ++ [])
    (hid : c.nextId = 3) :
    ((walker [main]).unfolding .outgoing 1 { client := c }).state
      = { client := c.answered "callHierarchy/outgoingCalls" (some (linksParams main)) [] } := by
  have hdecode : decodeValue (.option (.list (Link.decoder .outgoing)))
      (Json.array [call.json .outgoing]).normal = .ok (some ([call].map Link.received)) :=
    decode_given rfl fun l _ => l.decode_json .outgoing
  obtain ⟨hresult, hstate⟩ := resolve_answered h hopen [main] .outgoing (.root main) hincoming
    (hid ▸ answered_links) hdecode
  have hkids : Node.sorted ((Node.root main).children .outgoing [call])
      = (Node.root main).children .outgoing [call] := List.mergeSort_singleton _
  have hroots : Node.sorted ((walker [main]).roots.map .root) = [.root main] :=
    List.mergeSort_singleton _
  have hlinks : ((walker [main]).resolve (Provider.question .outgoing (.root main))
      { client := c }).result = .ok [call] := hresult
  have hvisit := Provider.visit_of_ok (by decide : 0 < 1) hlinks
  rw [hstate, hkids] at hvisit
  rw [Provider.unfolding, hroots, visitAll, hvisit]
  simp only [Node.children, List.map_cons, List.map_nil, visitAll,
    Provider.visit_at_limit (Nat.le_refl 1)]
  rfl

/-- The client at the beginning. -/
def client : Client := .fresh Introduction.decoder (0 : UInt32).toNat (streamFrom 0)

theorem document_uri : Uri.ofPath "/src/main.rs" = .ok document := by decide +kernel

theorem sent_explore :
    (explore document [] "/src/main.rs" ⟨0, 4⟩ .outgoing 1 client).state.sent.reverse
      = turns.map fun t => ⟨t.1, true⟩ := by
  have hroots : decodeValue (.option (.list Item.decoder)) (Json.array [main.json]).normal
      = .ok (some ([main].map Item.received)) :=
    decode_given rfl fun i _ => i.decode_json
  have hfirst : client.incoming = arrivals (reply 1 introduction) ++ streamFrom 1 := rfl
  obtain ⟨events, hinitialise⟩ :=
    initialise_answered rfl document hfirst answered_introduction decode_introduction
  have hsecond : (client.introduced document (streamFrom 1)).incoming
      = arrivals (reply 2 (.array [main.json])) ++ streamFrom 3 := rfl
  obtain ⟨events', hstart⟩ :=
    start_answered rfl rfl document_uri ⟨0, 4⟩ hsecond answered_roots hroots
  have hopened := Action.mapError_of_ok hinitialise CallExplorer.Failure.ofServer
  have hdocuments : (openDocuments []).mapError CallExplorer.Failure.ofServer
        (client.introduced document (streamFrom 1))
      = ⟨.ok (), [], client.introduced document (streamFrom 1)⟩ := rfl
  rw [explore, Action.bind_of_ok hopened, Action.bind_of_ok hdocuments, Action.bind_of_ok hstart]
  show ((walker [main]).rows .outgoing 1 (Shared.mk _ false)).state.client.sent.reverse = _
  rw [((walker [main]).rows_eq .outgoing 1 _).2, unfolding_client rfl rfl rfl rfl]
  rfl

/-- The server does as it is asked, turn by turn. -/
theorem responds_turns :
    ∀ t ∈ turns, Responds Introduction.decoder program (Transmission.bytes ⟨t.1, true⟩) t.2 := by
  have hintroduction : Responds Introduction.decoder program
      (Transmission.bytes ⟨⟨some 1, "initialize", some (introductionParams 0 document)⟩, true⟩)
      (reply 1 introduction) := by
    refine responds_to (by decide +kernel) (by decide +kernel)
      ⟨_, ⟨fun _ => ⟨_, decode_introduction⟩, fun h => ?_, fun d i h => ?_⟩, answered_introduction⟩
    · exact absurd h (by decide)
    · cases d <;> exact absurd h (by decide)
  have hroots : Responds Introduction.decoder program
      (Transmission.bytes ⟨⟨some 2, "textDocument/prepareCallHierarchy",
        some (prepareParams document ⟨0, 4⟩)⟩, true⟩)
      (reply 2 (.array [main.json])) := by
    refine responds_to (by decide +kernel) (by decide +kernel)
      ⟨_, ⟨fun h => ?_, fun _ => rfl, fun d i h => ?_⟩, answered_roots⟩
    · exact absurd h (by decide)
    · cases d <;> exact absurd h (by decide)
  have hlinks : Responds Introduction.decoder program
      (Transmission.bytes ⟨⟨some 3, "callHierarchy/outgoingCalls", some (linksParams main)⟩, true⟩)
      (reply 3 (.array [call.json .outgoing])) := by
    refine responds_to (by decide +kernel) (by decide +kernel)
      ⟨_, ⟨fun h => ?_, fun h => ?_, fun d i h hparams => .inl ?_⟩, answered_links⟩
    · exact absurd h (by decide)
    · exact absurd h (by decide)
    · cases d with
      | incoming => exact absurd h (by decide)
      | outgoing =>
          injection hparams with hparams
          injection hparams with hmembers
          injection hmembers with hitem
          injection hitem with _ hjson
          rw [← program.links_of_json .outgoing hjson]
          rfl
  have hinitialised : Responds Introduction.decoder program
      (Transmission.bytes ⟨⟨none, "initialized", some (.object [])⟩, true⟩) [] :=
    responds_to (by decide +kernel) (by decide +kernel) rfl
  intro t ht
  simp only [turns, List.mem_cons, List.not_mem_nil, or_false] at ht
  rcases ht with rfl | rfl | rfl | rfl
  · exact hintroduction
  · exact hinitialised
  · exact hroots
  · exact hlinks

theorem whole_program : program.Whole := by
  have hmain : main.Whole := fun v hv => by cases hv
  have hscan : call.item.Whole := fun v hv => by cases hv
  refine ⟨fun i hi => ?_, fun c hc => ?_⟩
  · rw [List.mem_singleton.1 hi]
    exact hmain
  · rw [List.mem_singleton.1 hc]
    exact ⟨hmain, hscan⟩

end Sample

/-- So the exploration of the program through the server comes to the rows of the program. -/
theorem explore_sample : ∃ rows,
    (explore Sample.document [] "/src/main.rs" ⟨0, 4⟩ .outgoing 1 Sample.client).result = .ok rows
      ∧ (Sample.program.provider.rows .outgoing 1 ()).result = .ok rows := by
  refine explore_eq_rows Introduction.decoder Sample.whole_program (by decide) Sample.document []
    Sample.document_uri ⟨0, 4⟩ .outgoing 1 0 ?_
  have hsent := Sample.sent_explore
  rw [Sample.client] at hsent
  rw [hsent, List.map_map]
  exact serves_of_responds Sample.responds_turns

end Client

end Server

end CallExplorer
