/-
All that a server gets to read in a run.

A run introduces itself, hands the document over, asks for the symbols at the place, then for calls
again and again, and takes leave. It may come to an end at several points, and what a server says
decides at which. `Course` has the four ways in which a run can go, each with every message that is
written and with what comes of the run: the server does not understand the introduction; it names
no symbol; the listing breaks off; or the listing is complete. In the last two the client takes
leave of the server before the run says how the listing went.

# How a run is followed

Every step leads from one place in the conversation to the next (`Stands`). A walk over the tree
leads on by as many places as it has questions (`Stands.walks`), because it puts its questions one
after the other and does nothing else.

# What this closes

`messages_of_run`, for all settings and surroundings with which a server is started, and whatever
the server says.
-/
import CallExplorer.Proofs.Server.Credit
import CallExplorer.Proofs.Server.Exploration
import CallExplorer.Proofs.Server.Places
import CallExplorer.Proofs.Tree.Unfinished

namespace CallExplorer

open Provider (question)

namespace Command

open Server (Arrival Client Heard Introduction Message firstIds heard questions requestId
  rootsHeard unheard)

-- ============================================ the course of a run

/-- The first message: what the client can do, its process, and the directory. -/
def introduction (process : UInt32) (root : Uri) : Message :=
  let hierarchy := Json.object [("dynamicRegistration", .bool false)]
  let folder := Json.object [("name", .text "workspace"), ("uri", .text root.text)]
  .request 1 "initialize" <| some <| .object
    [("capabilities", .object [("textDocument", .object [("callHierarchy", hierarchy)])]),
     ("processId", .int process.toNat), ("rootUri", .text root.text),
     ("workspaceFolders", .array [folder])]

/-- The messages up to the question for the symbols at the place. -/
def opening (o : ServerOptions) (process : UInt32) (root document : Uri) (content : String) :
    List Message :=
  let place := Json.object [("character", .int o.column.toNat), ("line", .int o.line.toNat)]
  [introduction process root,
    .notification "initialized" (some (.object [])),
    .notification "textDocument/didOpen" (some (Client.documentParams document o.language content)),
    .request 2 "textDocument/prepareCallHierarchy" <| some <| .object
      [("position", place), ("textDocument", .object [("uri", .text document.text)])]]

/-- How a run can go with a server that has this to say: what is written, and what it comes to. -/
inductive Course (s : Settings) (o : ServerOptions) (around : Surroundings) (path content : String)
    (root document : Uri) (stream : List Arrival) :
    (said : List Message) → Except RunError (List Row) → Prop
  /-- The introduction fails. -/
  | unknown {f : Server.Failure} (hintroduced : heard around.introductions 1 stream = .error f) :
      Course s o around path content root document stream [introduction around.process root]
        (.error (.server f))
  /-- No symbol is named. -/
  | unnamed {i : Introduction} {f : Failure}
      (hintroduced : heard around.introductions 1 stream = .ok i)
      (hroots : rootsHeard path ⟨o.line, o.column⟩ 2 (unheard 1 stream) = .error f) :
      Course s o around path content root document stream
        (opening o around.process root document content) (.error (.exploration f))
  /-- The listing breaks off at a question that fails. -/
  | unfinished {i : Introduction} {roots : List Item} {f : Failure} {shown : List Node}
      {asked : List Exchange} {rest : List Arrival}
      (hintroduced : heard around.introductions 1 stream = .ok i)
      (hroots : rootsHeard path ⟨o.line, o.column⟩ 2 (unheard 1 stream) = .ok roots)
      (hshown : Unfinished s.direction s.depth f (Node.sorted (roots.map .root)) shown asked)
      (hasked : Heard s.direction 3 (unheard 2 (unheard 1 stream)) asked rest) :
      Course s o around path content root document stream
        (opening o around.process root document content
          ++ questions s.direction 3 (expanded s.depth shown)
          ++ Client.farewell (3 + (expanded s.depth shown).length) rest)
        (.error (.exploration f))
  /-- The listing is complete. -/
  | listed {i : Introduction} {roots : List Item} {shown : List Node} {asked : List Exchange}
      {rest : List Arrival}
      (hintroduced : heard around.introductions 1 stream = .ok i)
      (hroots : rootsHeard path ⟨o.line, o.column⟩ 2 (unheard 1 stream) = .ok roots)
      (hshown : Listed s.direction s.depth (Node.sorted (roots.map .root)) shown asked)
      (hasked : Heard s.direction 3 (unheard 2 (unheard 1 stream)) asked rest) :
      Course s o around path content root document stream
        (opening o around.process root document content
          ++ questions s.direction 3 (expanded s.depth shown)
          ++ Client.farewell (3 + (expanded s.depth shown).length) rest)
        (.ok (shown.map (Row.ofNode s.direction)))

-- ============================================ a run step by step

section Runs

variable {s : Settings} {o : ServerOptions} {around : Surroundings}
  {directory path content : String} {root document : Uri} {stream : List Arrival}

theorem uriOf_comesTo {uri : Uri} (huri : Uri.ofPath path = .ok uri) (c : Client) :
    (uriOf path : Action Client RunError Uri).ComesTo c (.ok uri) c := by
  rw [uriOf, huri]
  exact ⟨rfl, rfl⟩

/-- The listing of a client is a walk. -/
theorem listing_comesTo (s : Settings) (roots : List Item) (c : Client) :
    (Shared.during ((Client.walker roots).rows s.direction s.depth)).ComesTo c
      ((Client.walker roots).unfolding s.direction s.depth { client := c }).result
      ((Client.walker roots).unfolding s.direction s.depth { client := c }).state.client := by
  obtain ⟨hresult, hstate⟩ := (Client.walker roots).rows_eq s.direction s.depth { client := c }
  exact ⟨hresult, congrArg Shared.client hstate⟩

/-- A run goes in one of the ways there are, and the client gets to where it leads. -/
theorem listServer_course (s : Settings) (o : ServerOptions) (around : Surroundings)
    (content : String) (stream : List Arrival) (hroot : Uri.ofPath directory = .ok root)
    (hdocument : Uri.ofPath path = .ok document) :
    ∃ result t number rest said,
      (listServer s o around.locate directory path content).ComesTo (around.client stream) result t
        ∧ Course s o around path content root document stream said result
        ∧ Client.Stands t number rest said := by
  have hstands := Client.stands_fresh around.introductions around.process.toNat stream
  rcases hstands.initialise root with
    ⟨f, c₁, hheard, hfails, hstands⟩ | ⟨i, c₁, hheard, hintroduced, hopen, hstands⟩
  · refine ⟨_, c₁, _, _, _, (uriOf_comesTo hroot _).bind ?_, .unknown hheard, hstands⟩
    exact (hfails.mapError RunError.server).fails
  obtain ⟨c₂, hhanded, hopen, hstands⟩ := hstands.openDocument hopen document o.language content
  obtain ⟨c₃, hstart, hopen, hstands⟩ := hstands.start hopen hdocument ⟨o.line, o.column⟩
  -- whatever comes of the rest behind the opening comes of the whole run
  have hopened : ∀ {result t}, _ → (listServer s o around.locate directory path content).ComesTo
      (around.client stream) result t := fun hrest =>
    (uriOf_comesTo hroot _).bind <| (hintroduced.mapError RunError.server).bind <|
      (uriOf_comesTo hdocument c₁).bind <| (hhanded.mapError RunError.server).bind hrest
  cases hroots : rootsHeard path ⟨o.line, o.column⟩ 2 (unheard 1 stream) with
  | error f =>
      rw [hroots] at hstart
      refine ⟨_, c₃, _, _, _, hopened ?_, .unnamed hheard hroots, hstands⟩
      exact (hstart.mapError RunError.exploration).fails
  | ok roots =>
      rw [hroots] at hstart
      have hlisting := listing_comesTo s roots c₃
      have hfarewell := Client.takeLeave_comesTo around.locate
        ((Client.walker roots).unfolding s.direction s.depth { client := c₃ }).state.client
      have hrun := hopened <| (hstart.mapError RunError.exploration).bind <|
        hlisting.attempt.bind <| hfarewell.bind ⟨rfl, rfl⟩
      cases hresult : ((Client.walker roots).unfolding s.direction s.depth
          { client := c₃ }).result with
      | error f =>
          obtain ⟨shown, hshown⟩ := unfinished_unfolding hresult
          obtain ⟨rest, hasked, hstands⟩ := hstands.walks hopen hshown.queries
          rw [hresult] at hrun
          exact ⟨_, _, _, _, _, hrun, .unfinished hheard hroots hshown hasked, hstands.shutdown⟩
      | ok rows =>
          obtain ⟨shown, hshown, rfl⟩ := listed_unfolding hresult
          obtain ⟨rest, hasked, hstands⟩ := hstands.walks hopen hshown.queries
          rw [hresult] at hrun
          exact ⟨_, _, _, _, _, hrun, .listed hheard hroots hshown hasked, hstands.shutdown⟩

-- ============================================ ids

theorem ids_questions (d : Direction) (number : Nat) (ns : List Node) :
    (questions d number ns).filterMap (·.id) = (List.range' number ns.length).map requestId := by
  induction ns generalizing number with
  | nil => rfl
  | cons n ns ih => exact congrArg (requestId number :: ·) (ih (number + 1))

theorem ids_farewell (number : Nat) (stream : List Arrival) :
    (Client.farewell number stream).filterMap (·.id) = [requestId number] := by
  rw [Client.farewell]
  cases (Client.awaitReply (requestId number) Server.maxReplies stream).1 with
  | error f => rfl
  | ok r =>
      cases hrefusal : r.refusal with
      | none => simp only [hrefusal]; rfl
      | some refusal => simp only [hrefusal]; rfl

/-- The requests of a course with questions, one number after the other. -/
theorem ids_whole (d : Direction) (ns : List Node) (rest : List Arrival) :
    (opening o around.process root document content ++ questions d 3 ns
        ++ Client.farewell (3 + ns.length) rest).filterMap (·.id)
      = (List.range' 1 (ns.length + 3)).map requestId := by
  have hopening : (opening o around.process root document content).filterMap (·.id)
      = (List.range' 1 2).map requestId := rfl
  have hfarewell : [requestId (3 + ns.length)]
      = (List.range' (1 + (2 + ns.length)) 1).map requestId := by
    rw [← Nat.add_assoc]
    rfl
  rw [List.filterMap_append, List.filterMap_append, hopening, ids_questions, ids_farewell,
    hfarewell, ← List.map_append, ← List.map_append]
  have hranges : List.range' 1 2 ++ List.range' (1 + 2) ns.length
      ++ List.range' (1 + (2 + ns.length)) 1 = List.range' 1 (ns.length + 3) := by
    rw [List.range'_append_1, List.range'_append_1]
    congr 1
    omega
  exact congrArg (List.map requestId) hranges

/-- The requests of a course are numbered from 1 on. There are at most four more of them than
there is to hear. -/
theorem Course.ids {said : List Message} {result : Except RunError (List Row)}
    (h : Course s o around path content root document stream said result) :
    ∃ n ≤ stream.length + 4, said.filterMap (·.id) = (List.range' 1 n).map requestId := by
  have hfew : ∀ {shown asked rest}, asked.map (·.query) = (expanded s.depth shown).map
      (question s.direction) → Heard s.direction 3 (unheard 2 (unheard 1 stream)) asked rest →
      (∀ x ∈ asked.dropLast, ∃ links, x.answer = .ok links) →
      (expanded s.depth shown).length + 3 ≤ stream.length + 4 := by
    intro shown asked rest hqueries hasked hanswered
    have hmany := congrArg List.length hqueries
    rw [List.length_map, List.length_map] at hmany
    have hrest :=
      ((Server.unheard_suffix 2 _).trans (Server.unheard_suffix 1 stream)).length_le
    have hlength := hasked.length_le hanswered
    omega
  cases h with
  | unknown hintroduced => exact ⟨1, Nat.le_add_left 1 _, rfl⟩
  | unnamed hintroduced hroots => exact ⟨2, Nat.le_add_left 2 _, rfl⟩
  | unfinished hintroduced hroots hshown hasked =>
      obtain ⟨before, query, hlast, hbefore⟩ := hshown.breaksOff
      refine ⟨_, hfew hshown.queries hasked ?_, ids_whole _ _ _⟩
      rw [hlast, List.dropLast_concat]
      exact hbefore
  | listed hintroduced hroots hshown hasked =>
      refine ⟨_, hfew hshown.queries hasked fun x hx => ?_, ids_whole _ _ _⟩
      exact hshown.answered x (List.mem_of_mem_dropLast hx)

-- ============================================ whole runs

variable {words : List String} {filter : Filter}
  {result : Except RunError (List Row)} {server : Option StartedServer} {t : Client}

/-- A run with a server is what becomes of the client that it starts. -/
theorem listRows_comesTo (hsource : s.source = .server o)
    (hworking : around.working = .ok directory)
    (hcontent : around.read.text (joinPath directory o.file) = .ok content)
    (hstart : around.start o.command o.arguments = .ok stream)
    (hlist : (listServer s o around.locate directory (joinPath directory o.file) content).ComesTo
      (around.client stream) result t) :
    (listRows s around).ComesTo none result (some ⟨o.arguments, t⟩) := by
  have hwhere : (Action.lift (around.working.mapError RunError.nowhere)).ComesTo
      (none : Option StartedServer) (.ok directory) none := by
    rw [hworking]
    exact ⟨rfl, rfl⟩
  have hread : (Action.lift ((around.read.text (joinPath directory o.file)).mapError
      (RunError.unreadable (joinPath directory o.file)))).ComesTo
      (none : Option StartedServer) (.ok content) none := by
    rw [hcontent]
    exact ⟨rfl, rfl⟩
  have hstarted : (Action.lift (startServer around o)).ComesTo (none : Option StartedServer)
      (.ok (around.client stream)) none := by
    rw [startServer, hstart]
    exact ⟨rfl, rfl⟩
  rw [listRows, hsource]
  refine hwhere.bind (hread.bind (hstarted.bind (.bind (a := ()) ⟨rfl, rfl⟩ ?_)))
  exact ⟨hlist.result, congrArg (fun t => some (StartedServer.mk o.arguments t)) hlist.state⟩

/-- What a run reports is what comes of its listing, once the log is set up and nothing hinders
it. -/
theorem execute_eq {pipe : Option Server.Obstacle}
    (hfilter : Filter.ofText s.logFilter = .ok filter) (hclear : around.hindrance = none)
    (hrows : (listRows s around pipe).ComesTo none result server) :
    ∃ events, execute s around pipe = .ofListing s around filter ⟨result, events, server⟩ := by
  have hlisting : (listing s around pipe).ComesTo none result server := by
    cases result with
    | error f => exact hrows.fails
    | ok rows => exact hrows.bind (.bind (a := ()) ⟨rfl, rfl⟩ ⟨rfl, rfl⟩)
  obtain ⟨events, heq⟩ := hlisting.exists_eq
  refine ⟨events, ?_⟩
  rw [execute, hfilter, ← heq]
  simp only [hclear]

/-- A run reports the server that was started, and the rows or the complaint. -/
theorem execute_reports (hfilter : Filter.ofText s.logFilter = .ok filter)
    (hclear : around.hindrance = none) (hrows : (listRows s around).ComesTo none result server) :
    (execute s around).server = server
      ∧ (∀ f, result = .error f → (execute s around).success = false
        ∧ (execute s around).output = []
        ∧ (execute s around).complaint = f.complaint around.locate)
      ∧ ∀ rows, result = .ok rows → (execute s around).output
        = (writeRows (s.output.isJson around.terminal) around.room rows).2 := by
  obtain ⟨events, heq⟩ := execute_eq hfilter hclear hrows
  rw [heq, Report.ofListing]
  cases result with
  | error f =>
      refine ⟨rfl, fun f' h => ?_, fun rows h => by cases h⟩
      cases h
      exact ⟨rfl, rfl, rfl⟩
  | ok rows =>
      rcases hwritten : writeRows (s.output.isJson around.terminal) around.room rows with
        ⟨e | _, output⟩
      all_goals
        simp only [hwritten]
        refine ⟨trivial, fun f h => (by cases h), fun rows' h => ?_⟩
        cases h
        rw [hwritten]

/-- A run with a server that was started, whatever the server says. The server gets to read what
the course of the run has, one message after the other and each of them whole, and nothing else: the
introduction first; then, if that is understood, the document and the question for the symbols at
the place; then, if there is one at least, the questions about the nodes that the listing shows
above the limit, in its order and up to the first that fails; and then, however the listing went,
the farewell, which is complete only if the server agrees. The requests are numbered from 1 on, as
long as there are fewer bytes to hear than there are ids. What the course comes to is what the run
reports: the complaint and nothing else, or the rows. -/
theorem messages_of_run (hsettings : readSettings words = .ok s) (hsource : s.source = .server o)
    (hfilter : Filter.ofText s.logFilter = .ok filter) (hclear : around.hindrance = none)
    (hworking : around.working = .ok directory)
    (hcontent : around.read.text (joinPath directory o.file) = .ok content)
    (hroot : Uri.ofPath directory = .ok root)
    (hdocument : Uri.ofPath (joinPath directory o.file) = .ok document)
    (hstart : around.start o.command o.arguments = .ok stream) :
    ∃ server result, (run words around).server = some server
      ∧ server.arguments = o.arguments
      ∧ Course s o around (joinPath directory o.file) content root document stream
        server.client.messages result
      ∧ server.client.written = server.client.messages.flatMap Message.wire
      ∧ ((stream.length : Int) + 4 ≤ Client.lastId → ∃ n,
        server.client.messages.filterMap (·.id) = firstIds n)
      ∧ (∀ f, result = .error f → (run words around).success = false
        ∧ (run words around).output = []
        ∧ (run words around).complaint = f.complaint around.locate)
      ∧ ∀ rows, result = .ok rows → (run words around).output
        = (writeRows (s.output.isJson around.terminal) around.room rows).2 := by
  obtain ⟨result, t, number, rest, said, hlist, hcourse, hstands⟩ :=
    listServer_course s o around content stream hroot hdocument
  have hrows := listRows_comesTo hsource hworking hcontent hstart hlist
  obtain ⟨hserver, hfails, hwrites⟩ := execute_reports hfilter hclear hrows
  have hrun : run words around = execute s around := by
    rw [run, hsettings]
  rw [hrun]
  refine ⟨⟨o.arguments, t⟩, result, hserver, rfl, ?_, ?_, fun hroom => ?_, hfails, hwrites⟩
  · rw [hstands.messages]
    exact hcourse
  · rw [hstands.messages, hstands.written]
  · obtain ⟨n, hfew, hids⟩ := hcourse.ids
    refine ⟨n, ?_⟩
    rw [hstands.messages, hids, firstIds, List.range'_eq_map_range, List.map_map]
    refine List.map_congr_left fun k hk => ?_
    have hk := List.mem_range.1 hk
    show requestId (1 + k) = (k : Int) + 1
    rw [Server.requestId_of_le (by omega)]
    omega

end Runs

-- ============================================ a run to look at

namespace Sample

open Server.Client (Sample.main)
open Server.Client.Sample (call reply document)

/-- The program is in the directory. -/
def directory : Uri := ⟨"file:///src", by rfl⟩

def options : ServerOptions := ⟨"main.rs", 0, 4, "rust", "server", []⟩

def settings : Settings := ⟨.outgoing, 1, .auto, "info", .compact, .server options⟩

def words : List String :=
  ["--direction", "outgoing", "lsp", "--file", "main.rs", "--line", "0", "--column", "4", "--",
    "server"]

/-- What the server says to the requests from the one with the number on. -/
def streamFrom (number : Nat) : List Arrival :=
  [reply 1 Server.Client.Sample.introduction, reply 2 (.array [Sample.main.json]),
    reply 3 (.array [call.json .outgoing]), reply 4 .null].drop (number - 1) |>.flatMap
      Server.arrivals

/-- The program is to be read, and the server can be started. -/
def around : Surroundings where
  working := .ok "/src"
  read _ := .ok (Text.bytes "fn main() \x7b scan(); \x7d")
  start _ _ := .ok (streamFrom 1)

theorem readSettings_words : readSettings words = .ok settings := by rfl

theorem exists_filter : ∃ filter, Filter.ofText settings.logFilter = .ok filter := by
  cbv
  exact ⟨_, rfl⟩

theorem read_around : around.read.text (joinPath "/src" options.file)
    = .ok "fn main() \x7b scan(); \x7d" := by
  decide +kernel

theorem uri_working : Uri.ofPath "/src" = .ok directory := by decide +kernel

theorem join_around : joinPath "/src" options.file = "/src/main.rs" := by decide

theorem heard_introduction : heard Introduction.decoder 1 (streamFrom 1) = .ok ⟨none, none⟩
    ∧ unheard 1 (streamFrom 1) = streamFrom 2 := by
  have hanswered : Server.Answered (requestId 1) _ _ := Server.Client.Sample.answered_introduction
  exact Server.heard_answered hanswered Server.Client.Sample.decode_introduction (streamFrom 2)

theorem heard_roots : rootsHeard "/src/main.rs" ⟨0, 4⟩ 2 (streamFrom 2) = .ok [Sample.main]
    ∧ unheard 2 (streamFrom 2) = streamFrom 3 := by
  have hdecode : decodeValue (.option (.list Item.decoder)) (Json.array [Sample.main.json]).normal
      = .ok (some ([Sample.main].map Item.received)) :=
    Server.Client.decode_given rfl fun i _ => i.decode_json
  have hanswered : Server.Answered (requestId 2) _ _ := Server.Client.Sample.answered_roots
  obtain ⟨hheard, hrest⟩ : heard _ 2 (streamFrom 2) = _ ∧ unheard 2 (streamFrom 2) = _ :=
    Server.heard_answered hanswered hdecode (streamFrom 3)
  refine ⟨?_, hrest⟩
  rw [rootsHeard, hheard]
  rfl

theorem heard_links : Server.linksHeard .outgoing 3 (streamFrom 3) = .ok [call]
    ∧ unheard 3 (streamFrom 3) = streamFrom 4 := by
  have hdecode : decodeValue (.option (.list (Link.decoder .outgoing)))
      (Json.array [call.json .outgoing]).normal = .ok (some ([call].map Link.received)) :=
    Server.Client.decode_given rfl fun l _ => l.decode_json .outgoing
  have hanswered : Server.Answered (requestId 3) _ _ := Server.Client.Sample.answered_links
  obtain ⟨hheard, hrest⟩ : heard _ 3 (streamFrom 3) = _ ∧ unheard 3 (streamFrom 3) = _ :=
    Server.heard_answered hanswered hdecode (streamFrom 4)
  refine ⟨?_, hrest⟩
  rw [Server.linksHeard, hheard]
  rfl

theorem farewell_heard : Client.farewell 4 (streamFrom 4)
    = [.request 4 "shutdown" none, .notification "exit" none] := by
  have hanswered : Server.Answered (requestId 4) .null (reply 4 .null) :=
    Server.Client.Sample.answered_reply (by decide +kernel) (by decide) (by decide +kernel)
  obtain ⟨r, hreply, hrefusal, -⟩ := Server.awaitReply_answered hanswered []
  have hread : Client.awaitReply (requestId 4) Server.maxReplies (streamFrom 4) = (.ok r, []) :=
    hreply
  rw [Client.farewell, hread]
  simp only [hrefusal]
  rfl

/-- What the server gets to read. -/
def said : List Message :=
  opening options 0 directory document "fn main() \x7b scan(); \x7d"
    ++ [.request 3 "callHierarchy/outgoingCalls" (some (.object [("item", Sample.main.json)])),
      .request 4 "shutdown" none, .notification "exit" none]

/-- The server leaves the run no other way to go. -/
theorem said_of_course {messages : List Message} {result : Except RunError (List Row)}
    (h : Course settings options around "/src/main.rs" "fn main() \x7b scan(); \x7d" directory
      document (streamFrom 1) messages result) : messages = said := by
  have hsorted : Node.sorted ([Sample.main].map .root) = [.root Sample.main] :=
    List.mergeSort_singleton _
  have hkids : Node.sorted ((Node.root Sample.main).children settings.direction [call])
      = [.child call.item (call.locations .outgoing Sample.main) (.root Sample.main)] :=
    List.mergeSort_singleton _
  have hrest : unheard 2 (unheard 1 (streamFrom 1)) = streamFrom 3 := by
    rw [heard_introduction.2, heard_roots.2]
  have hroots : rootsHeard "/src/main.rs" ⟨options.line, options.column⟩ 2
      (unheard 1 (streamFrom 1)) = .ok [Sample.main] := by
    rw [heard_introduction.2]
    exact heard_roots.1
  cases h with
  | unknown hintroduced => cases hintroduced.symm.trans heard_introduction.1
  | unnamed hintroduced hunnamed => cases hunnamed.symm.trans hroots
  | unfinished hintroduced hnamed hshown hasked =>
      cases hnamed.symm.trans hroots
      rw [hsorted] at hshown
      rw [hrest] at hasked
      cases hshown with
      | here hdepth =>
          cases hasked with
          | next hanswer hmore => cases hanswer.trans heard_links.1
      | inside hdepth hbelow =>
          cases hasked with
          | next hanswer hmore =>
              cases hanswer.trans heard_links.1
              rw [hkids] at hbelow
              cases hbelow with
              | here hdepth => exact absurd hdepth (by decide)
              | inside hdepth hbelow => exact absurd hdepth (by decide)
              | after hfirst hbehind => cases hbehind
      | after hfirst hbehind => cases hbehind
  | @listed i roots shown asked rest hintroduced hnamed hshown hasked =>
      cases hnamed.symm.trans hroots
      rw [hsorted] at hshown
      rw [hrest] at hasked
      cases hshown with
      | leaf hdepth hbehind => exact absurd hdepth (by decide)
      | inner hdepth hbelow hbehind =>
          cases hbehind
          cases hasked with
          | next hanswer hmore =>
              cases hanswer.trans heard_links.1
              rw [hkids] at hbelow
              cases hbelow with
              | inner hdepth hbelow hbehind => exact absurd hdepth (by decide)
              | leaf hdepth hbehind =>
                  cases hbehind
                  cases hmore
                  rw [heard_links.2]
                  exact congrArg _ farewell_heard

end Sample

/-- So a server that answers four requests gets to read seven messages, the last of them `exit`. -/
theorem messages_of_sample_run :
    readSettings Sample.words = .ok Sample.settings
      ∧ Sample.settings.source = .server Sample.options
      ∧ (∃ filter, Filter.ofText Sample.settings.logFilter = .ok filter)
      ∧ Sample.around.hindrance = none
      ∧ Sample.around.working = .ok "/src"
      ∧ Sample.around.read.text (joinPath "/src" Sample.options.file)
        = .ok "fn main() \x7b scan(); \x7d"
      ∧ Uri.ofPath "/src" = .ok Sample.directory
      ∧ Uri.ofPath (joinPath "/src" Sample.options.file) = .ok Server.Client.Sample.document
      ∧ Sample.around.start Sample.options.command Sample.options.arguments
        = .ok (Sample.streamFrom 1)
      ∧ ∃ server, (run Sample.words Sample.around).server = some server
        ∧ server.client.messages = Sample.said
        ∧ server.client.written = Sample.said.flatMap Message.wire := by
  obtain ⟨filter, hfilter⟩ := Sample.exists_filter
  have hdocument : Uri.ofPath (joinPath "/src" Sample.options.file)
      = .ok Server.Client.Sample.document := by
    rw [Sample.join_around]
    exact Server.Client.Sample.document_uri
  obtain ⟨server, result, hserver, -, hcourse, hwritten, -⟩ :=
    messages_of_run Sample.readSettings_words rfl hfilter rfl rfl Sample.read_around
      Sample.uri_working hdocument (rfl : Sample.around.start _ _ = .ok (Sample.streamFrom 1))
  rw [Sample.join_around] at hcourse
  have hsaid := Sample.said_of_course hcourse
  rw [hsaid] at hwritten
  exact ⟨Sample.readSettings_words, rfl, ⟨filter, hfilter⟩, rfl, rfl, Sample.read_around,
    Sample.uri_working, hdocument, rfl, server, hserver, hsaid, hwritten⟩

end Command

end CallExplorer
