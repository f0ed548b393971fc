/-
How a run finishes.

A run finishes with an error or with a text, and of its output and its complaint only one has
anything in it. An error may come up at any point: while the command line is read, the log filter,
a file, a path; while the server is started, introduced, given the document, asked for the symbol;
and at any question of the listing. The text is the help, the version, or the rows. By then the
listing is complete, and the server was taken leave of.

# Ways to finish

`Finish` has them all, with what brings each of them about. For runs with settings there is
`Listing`, and for those with a server `ServerListing`; a failure may lie in wait in the pipe to the
server, so writing may go wrong as well as reading. What a listing comes to is told by derivations:
every node shown, down to the limit, and every answer (`Provider.AllRows`), or up to the question
that failed (`Provider.StopsAt`). The text that tells the rows is an outline of them for people
(`Row.OutlineOf`), and a JSON document for programs (`Row.DocumentOf`).

# What this closes

`run_finishes`, for every command line, whatever surrounds the run, as long as its output takes
everything.
-/
import CallExplorer.Proofs.Command.Depth
import CallExplorer.Proofs.Command.Lines
import CallExplorer.Proofs.Command.Transcript
import CallExplorer.Proofs.Graph.Documents
import CallExplorer.Proofs.Graph.Growth
import CallExplorer.Proofs.Tree.Complete

namespace CallExplorer

namespace Command

open Server (Arrival Client Introduction Obstacle)
open Server.Client (access walker)

-- ============================================ listings with a server

/-- The session with the server is open, and it has the document. -/
inductive Opened (o : ServerOptions) (directory path content : String) (c t : Client) : Prop
  | intro {root document : Uri} {i : Introduction} {u : Client}
      (hroot : Uri.ofPath directory = .ok root)
      (hintroduced : (Client.initialise root).ComesTo c (.ok i) u)
      (hdocument : Uri.ofPath path = .ok document)
      (hopened : (Client.openDocument document o.language content).ComesTo u (.ok ()) t)

/-- What a listing with a server comes to, with what brings it about. -/
inductive ServerListing (s : Settings) (o : ServerOptions) (directory path content : String)
    (c : Client) : Except RunError (List Row) → Prop
  /-- The directory has no URI. -/
  | nowhere {e : Uri.PathError} (hroot : Uri.ofPath directory = .error e) :
      ServerListing s o directory path content c (.error (.exploration (.noUri e)))
  /-- The introduction fails. -/
  | unknown {root : Uri} {f : Server.Failure} {t : Client} (hroot : Uri.ofPath directory = .ok root)
      (hintroduced : (Client.initialise root).ComesTo c (.error f) t) :
      ServerListing s o directory path content c (.error (.server f))
  /-- The document has no URI. -/
  | nameless {root : Uri} {i : Introduction} {t : Client} {e : Uri.PathError}
      (hroot : Uri.ofPath directory = .ok root)
      (hintroduced : (Client.initialise root).ComesTo c (.ok i) t)
      (hdocument : Uri.ofPath path = .error e) :
      ServerListing s o directory path content c (.error (.exploration (.noUri e)))
  /-- The document cannot be handed over. -/
  | unopened {root document : Uri} {i : Introduction} {f : Server.Failure} {t u : Client}
      (hroot : Uri.ofPath directory = .ok root)
      (hintroduced : (Client.initialise root).ComesTo c (.ok i) t)
      (hdocument : Uri.ofPath path = .ok document)
      (hopened : (Client.openDocument document o.language content).ComesTo t (.error f) u) :
      ServerListing s o directory path content c (.error (.server f))
  /-- No symbol is named. -/
  | unnamed {f : Failure} {t u : Client} (hopened : Opened o directory path content c t)
      (hstart : (access.start path ⟨o.line, o.column⟩).ComesTo t (.error f) u) :
      ServerListing s o directory path content c (.error (.exploration f))
  /-- A question fails. -/
  | unfinished {roots : List Item} {f : Failure} {t u : Client}
      (hopened : Opened o directory path content c t)
      (hstart : (access.start path ⟨o.line, o.column⟩).ComesTo t (.ok roots) u)
      (hlisted : (walker roots).StopsAt s.direction s.depth { client := u } f) :
      ServerListing s o directory path content c (.error (.exploration f))
  /-- The listing is complete. -/
  | listed {roots : List Item} {rows : List Row} {t u : Client}
      (hopened : Opened o directory path content c t)
      (hstart : (access.start path ⟨o.line, o.column⟩).ComesTo t (.ok roots) u)
      (hlisted : (walker roots).AllRows s.direction s.depth { client := u } rows) :
      ServerListing s o directory path content c (.ok rows)

variable {s : Settings} {o : ServerOptions} {locate : Locate} {directory path content : String}
  {c t u : Client} {result : Except RunError (List Row)}

theorem uriOf_fails {e : Uri.PathError} (h : Uri.ofPath path = .error e) (c : Client) :
    (uriOf path : Action Client RunError Uri).ComesTo c (.error (.exploration (.noUri e))) c := by
  unfold uriOf
  rw [h]
  exact ⟨rfl, rfl⟩

/-- Behind an open session come the question for the symbols, the listing and the farewell. -/
theorem listServer_opened (locate : Locate) (hopened : Opened o directory path content c t)
    (hrest : (do
        let roots ← (access.start path ⟨o.line, o.column⟩).mapError RunError.exploration
        let listed ← Action.attempt (Shared.during ((walker roots).rows s.direction s.depth))
        takeLeave locate
        Action.lift (listed.mapError RunError.exploration)
        : Action Client RunError (List Row)).ComesTo t result u) :
    (listServer s o locate directory path content).ComesTo c result u := by
  obtain ⟨hroot, hintroduced, hdocument, hhanded⟩ := hopened
  exact (uriOf_comesTo hroot _).bind <| (hintroduced.mapError RunError.server).bind <|
    (uriOf_comesTo hdocument _).bind <| (hhanded.mapError RunError.server).bind hrest

/-- A listing with an open session asks for the symbols, and lists what it is given. -/
theorem listing_of_opened (s : Settings) (hopened : Opened o directory path content c t) :
    ServerListing s o directory path content c
      (listServer s o locate directory path content c).result := by
  have hstart : (access.start path ⟨o.line, o.column⟩).ComesTo t _ _ := ⟨rfl, rfl⟩
  cases hroots : (access.start path ⟨o.line, o.column⟩ t).result with
  | error f =>
      rw [hroots] at hstart
      have hrun := listServer_opened (s := s) locate hopened
        (hstart.mapError RunError.exploration).fails
      rw [hrun.result]
      exact .unnamed hopened hstart
  | ok roots =>
      rw [hroots] at hstart
      have hrun := listServer_opened (s := s) locate hopened <|
        (hstart.mapError RunError.exploration).bind <|
          (listing_comesTo s roots _).attempt.bind <|
            (Client.takeLeave_comesTo locate _).bind ⟨rfl, rfl⟩
      rw [hrun.result]
      cases hlisted : ((walker roots).unfolding s.direction s.depth
          { client := (access.start path ⟨o.line, o.column⟩ t).state }).result with
      | error f => exact .unfinished hopened hstart (Provider.stopsAt_of_error hlisted)
      | ok rows => exact .listed hopened hstart (Provider.allRows_iff.2 hlisted)

/-- Once the introduction is understood, the document is handed over. -/
theorem listing_of_introduced (s : Settings) {root : Uri} {i : Introduction}
    (hroot : Uri.ofPath directory = .ok root)
    (hintroduced : (Client.initialise root).ComesTo c (.ok i) t) :
    ServerListing s o directory path content c
      (listServer s o locate directory path content c).result := by
  cases hdocument : Uri.ofPath path with
  | error e =>
      have hrun : (listServer s o locate directory path content).ComesTo c _ _ :=
        (uriOf_comesTo hroot c).bind <| (hintroduced.mapError RunError.server).bind <|
          (uriOf_fails hdocument t).fails
      rw [hrun.result]
      exact .nameless hroot hintroduced hdocument
  | ok document =>
      have hopened : (Client.openDocument document o.language content).ComesTo t _ _ := ⟨rfl, rfl⟩
      cases hd : (Client.openDocument document o.language content t).result with
      | error f =>
          rw [hd] at hopened
          have hrun : (listServer s o locate directory path content).ComesTo c _ _ :=
            (uriOf_comesTo hroot c).bind <| (hintroduced.mapError RunError.server).bind <|
              (uriOf_comesTo hdocument t).bind (hopened.mapError RunError.server).fails
          rw [hrun.result]
          exact .unopened hroot hintroduced hdocument hopened
      | ok _ =>
          rw [hd] at hopened
          exact listing_of_opened s ⟨hroot, hintroduced, hdocument, hopened⟩

/-- A listing with a server comes to one of these, whatever the server says and wherever the pipe to
it breaks. -/
theorem serverListing_listServer (s : Settings) (o : ServerOptions) (locate : Locate)
    (directory path content : String) (c : Client) :
    ServerListing s o directory path content c
      (listServer s o locate directory path content c).result := by
  cases hroot : Uri.ofPath directory with
  | error e =>
      have hrun : (listServer s o locate directory path content).ComesTo c _ _ :=
        (uriOf_fails hroot c).fails
      rw [hrun.result]
      exact .nowhere hroot
  | ok root =>
      have hintroduced : (Client.initialise root).ComesTo c _ _ := ⟨rfl, rfl⟩
      cases hi : (Client.initialise root c).result with
      | error f =>
          rw [hi] at hintroduced
          have hrun : (listServer s o locate directory path content).ComesTo c _ _ :=
            (uriOf_comesTo hroot c).bind (hintroduced.mapError RunError.server).fails
          rw [hrun.result]
          exact .unknown hroot hintroduced
      | ok i =>
          rw [hi] at hintroduced
          exact listing_of_introduced s hroot hintroduced

-- ============================================ all listings

/-- What a listing comes to, with what brings it about. -/
inductive Listing (s : Settings) (around : Surroundings) (pipe : Option Obstacle) :
    Except RunError (List Row) → Prop
  /-- The call graph cannot be loaded. -/
  | unloaded {path : String} {f : Failure} (hsource : s.source = .fixture path)
      (hload : CallGraph.load around.read path = .error f) :
      Listing s around pipe (.error (.exploration f))
  /-- The call graph is listed. -/
  | loaded {path : String} {g : CallGraph} {rows : List Row} (hsource : s.source = .fixture path)
      (hload : CallGraph.load around.read path = .ok g)
      (hlisted : g.provider.AllRows s.direction s.depth () rows) :
      Listing s around pipe (.ok rows)
  /-- The directory cannot be told. -/
  | lost {o : ServerOptions} {why : FileError} (hsource : s.source = .server o)
      (hworking : around.working = .error why) : Listing s around pipe (.error (.nowhere why))
  /-- The document cannot be read. -/
  | unreadable {o : ServerOptions} {directory : String} {why : FileError}
      (hsource : s.source = .server o) (hworking : around.working = .ok directory)
      (hread : around.read.text (joinPath directory o.file) = .error why) :
      Listing s around pipe (.error (.unreadable (joinPath directory o.file) why))
  /-- The server cannot be started. -/
  | unstarted {o : ServerOptions} {directory content : String} {why : FileError}
      (hsource : s.source = .server o) (hworking : around.working = .ok directory)
      (hread : around.read.text (joinPath directory o.file) = .ok content)
      (hstart : around.start o.command o.arguments = .error why) :
      Listing s around pipe (.error (.server (.notStarted why)))
  /-- The server is asked. -/
  | started {o : ServerOptions} {directory content : String} {stream : List Arrival}
      {result : Except RunError (List Row)} (hsource : s.source = .server o)
      (hworking : around.working = .ok directory)
      (hread : around.read.text (joinPath directory o.file) = .ok content)
      (hstart : around.start o.command o.arguments = .ok stream)
      (hlisted : ServerListing s o directory (joinPath directory o.file) content
        (around.client stream pipe) result) :
      Listing s around pipe result

variable {around : Surroundings} {pipe : Option Obstacle}

/-- No row of a listing lies below the limit. -/
theorem Listing.depth_le {rows : List Row} (h : Listing s around pipe (.ok rows)) :
    ∀ r ∈ rows, r.depth ≤ s.depth := by
  cases h with
  | loaded hsource hload hlisted => exact hlisted.depth_le
  | started hsource hworking hread hstart hlisted =>
      cases hlisted with
      | listed hopened hstart hlisted => exact hlisted.depth_le

theorem listGraph_listing (hsource : s.source = .fixture path) :
    Listing s around pipe
      ((listGraph s around.read path : Action (Option StartedServer) RunError _) none).result := by
  cases hload : CallGraph.load around.read path with
  | error f =>
      have hrun : (listGraph s around.read path).ComesTo (none : Option StartedServer)
          (.error (.exploration f)) none := by
        unfold listGraph
        rw [hload]
        exact .fails ⟨rfl, rfl⟩
      rw [hrun.result]
      exact .unloaded hsource hload
  | ok g =>
      let listed := g.provider.rows s.direction s.depth (none : Option StartedServer)
      have hrows : listed.result = _ := g.rows_eq s.direction s.depth none
      have hrun : (listGraph s around.read path).ComesTo (none : Option StartedServer)
          (listed.result.mapError .exploration) listed.state := by
        unfold listGraph
        rw [hload]
        exact .bind (a := g) ⟨rfl, rfl⟩ (.bind (a := ()) ⟨rfl, rfl⟩ ⟨rfl, rfl⟩)
      rw [hrun.result, hrows]
      have hall := g.rows_eq s.direction s.depth ()
      rw [(g.provider.rows_eq s.direction s.depth ()).1] at hall
      exact .loaded hsource hload (Provider.allRows_iff.2 hall)

/-- Once the document is read, the server is started and asked. -/
theorem readSource_listing (hsource : s.source = .server o)
    (hworking : around.working = .ok directory)
    (hread : around.read.text (joinPath directory o.file) = .ok content) :
    Listing s around pipe (listRows s around pipe none).result := by
  -- whatever comes of the server comes of the whole listing
  have hbehind : ∀ {result t}, _ → (listRows s around pipe).ComesTo none result t := fun hrest => by
    unfold listRows
    simp only [hsource, hworking]
    refine .bind (a := directory) ⟨rfl, rfl⟩ (.bind (a := content) (t := none) ?_ hrest)
    rw [hread]
    exact ⟨rfl, rfl⟩
  cases hstart : around.start o.command o.arguments with
  | error why =>
      have hrun := hbehind (.fails (e := .server (.notStarted why)) (t := none) (by
        rw [startServer, hstart]
        exact ⟨rfl, rfl⟩))
      rw [hrun.result]
      exact .unstarted hsource hworking hread hstart
  | ok stream =>
      let listed := listServer s o around.locate directory (joinPath directory o.file) content
        (around.client stream pipe)
      have hrun := hbehind (.bind (a := around.client stream pipe) (t := none)
        (by rw [startServer, hstart]; exact ⟨rfl, rfl⟩)
        (.bind (a := ()) ⟨rfl, rfl⟩ (r := listed.result) (u := some ⟨o.arguments, listed.state⟩)
          ⟨rfl, rfl⟩))
      rw [hrun.result]
      exact .started hsource hworking hread hstart (serverListing_listServer ..)

/-- With a server the directory is told first, then the document is read, and then the server is
started. -/
theorem serverSource_listing (hsource : s.source = .server o) :
    Listing s around pipe (listRows s around pipe none).result := by
  cases hworking : around.working with
  | error why =>
      have hrun : (listRows s around pipe).ComesTo none (.error (.nowhere why)) none := by
        unfold listRows
        simp only [hsource, hworking]
        exact .fails ⟨rfl, rfl⟩
      rw [hrun.result]
      exact .lost hsource hworking
  | ok directory =>
      cases hread : around.read.text (joinPath directory o.file) with
      | error why =>
          have hrun : (listRows s around pipe).ComesTo none
              (.error (.unreadable (joinPath directory o.file) why)) none := by
            unfold listRows
            simp only [hsource, hworking]
            refine .bind (a := directory) ⟨rfl, rfl⟩ (.fails ?_)
            rw [hread]
            exact ⟨rfl, rfl⟩
          rw [hrun.result]
          exact .unreadable hsource hworking hread
      | ok content => exact readSource_listing hsource hworking hread

theorem listing_listRows (s : Settings) (around : Surroundings) (pipe : Option Obstacle) :
    Listing s around pipe (listRows s around pipe none).result := by
  cases hsource : s.source with
  | fixture path =>
      unfold listRows
      rw [hsource]
      exact listGraph_listing hsource
  | server o => exact serverSource_listing hsource

-- ============================================ all runs

/-- How a run finishes, with an error or with a text, and with what brings it about. -/
inductive Finish (words : List String) (around : Surroundings) (pipe : Option Obstacle) :
    Except RunError String → Prop
  | help {scope : Scope} {isLong : Bool}
      (hwords : readSettings words = .error (.help scope isLong)) :
      Finish words around pipe (.ok (scope.help isLong))
  | version (hwords : readSettings words = .error .version) :
      Finish words around pipe (.ok versionText)
  | nothing (hwords : readSettings words = .error .nothing) :
      Finish words around pipe (.error .nothingAsked)
  | usage {e : UsageError} (hwords : readSettings words = .error (.wrong e)) :
      Finish words around pipe (.error (.usage e (around.advice words)))
  | filter {s : Settings} {e : FilterError} (hwords : readSettings words = .ok s)
      (hfilter : Filter.ofText s.logFilter = .error e) :
      Finish words around pipe (.error (.badFilter e))
  | hindered {s : Settings} {filter : Filter} {h : Hindrance} (hwords : readSettings words = .ok s)
      (hfilter : Filter.ofText s.logFilter = .ok filter) (hhindered : around.hindrance = some h) :
      Finish words around pipe (.error (.hindered h))
  | failed {s : Settings} {filter : Filter} {e : RunError} (hwords : readSettings words = .ok s)
      (hfilter : Filter.ofText s.logFilter = .ok filter) (hclear : around.hindrance = none)
      (hlisting : Listing s around pipe (.error e)) :
      Finish words around pipe (.error e)
  /-- All rows are told to people, who asked for it or who look at the output. -/
  | outline {s : Settings} {filter : Filter} {rows : List Row} {text : String}
      (hwords : readSettings words = .ok s) (hfilter : Filter.ofText s.logFilter = .ok filter)
      (hclear : around.hindrance = none) (hlisting : Listing s around pipe (.ok rows))
      (hformat : s.output = .human ∨ s.output = .auto ∧ around.terminal = true)
      (htext : Row.OutlineOf rows text) : Finish words around pipe (.ok text)
  /-- All rows are told to a program, which was asked for or nobody looks at the output. -/
  | document {s : Settings} {filter : Filter} {rows : List Row} {text : String}
      (hwords : readSettings words = .ok s) (hfilter : Filter.ofText s.logFilter = .ok filter)
      (hclear : around.hindrance = none) (hlisting : Listing s around pipe (.ok rows))
      (hformat : s.output = .json ∨ s.output = .auto ∧ around.terminal = false)
      (htext : Row.DocumentOf rows text) : Finish words around pipe (.ok text)

theorem isJson_eq_true_iff {f : OutputFormat} {terminal : Bool} :
    f.isJson terminal = true ↔ f = .json ∨ f = .auto ∧ terminal = false := by
  cases f <;> simp [OutputFormat.isJson]

theorem isJson_eq_false_iff {f : OutputFormat} {terminal : Bool} :
    f.isJson terminal = false ↔ f = .human ∨ f = .auto ∧ terminal = true := by
  cases f <;> simp [OutputFormat.isJson]

/-- A run that lists rows finishes with a text that tells them all, and this text is written. -/
theorem finish_of_rows {words : List String} {filter : Filter} {rows : List Row}
    (hwords : readSettings words = .ok s) (hfilter : Filter.ofText s.logFilter = .ok filter)
    (hclear : around.hindrance = none) (hlisting : Listing s around pipe (.ok rows)) :
    ∃ text, Finish words around pipe (.ok text)
      ∧ writeRows (s.output.isJson around.terminal) none rows = (.ok (), Text.bytes text) := by
  cases hformat : s.output.isJson around.terminal with
  | false =>
      have htext : Row.OutlineOf rows (Row.outline rows) := Row.outlineOf_iff.2 rfl
      exact ⟨_, .outline hwords hfilter hclear hlisting (isJson_eq_false_iff.1 hformat) htext, rfl⟩
  | true =>
      have hdepth : ∀ r ∈ rows, r.depth < 2 ^ 64 := fun r hr =>
        Nat.lt_of_le_of_lt (hlisting.depth_le r hr) (depth_lt_of_readSettings hwords)
      have htext := Row.documentOf_listText hdepth
      exact ⟨_, .document hwords hfilter hclear hlisting (isJson_eq_true_iff.1 hformat) htext, rfl⟩

/-- The report of a run that finishes so, where the output takes everything: the complaint and
nothing else, or the whole text and no complaint. -/
def Report.Tells (r : Report) (locate : Locate) : Except RunError String → Prop
  | .error e => r.success = false ∧ r.output = [] ∧ r.complaint = e.message locate ++ "\n"
  | .ok text => r.success = true ∧ r.output = Text.bytes text ∧ r.complaint = ""

/-- A run that gets to its listing finishes as the listing does. -/
theorem execute_finishes {words : List String} {filter : Filter} (hroom : around.room = none)
    (hwords : readSettings words = .ok s) (hfilter : Filter.ofText s.logFilter = .ok filter)
    (hclear : around.hindrance = none) :
    ∃ finish, Finish words around pipe finish
      ∧ (execute s around pipe).Tells around.locate finish := by
  have hlisting := listing_listRows s around pipe
  have hrows : (listRows s around pipe).ComesTo none _ _ := ⟨rfl, rfl⟩
  obtain ⟨events, heq⟩ := execute_eq hfilter hclear hrows
  rw [heq, Report.ofListing]
  cases hresult : (listRows s around pipe none).result with
  | error e =>
      rw [hresult] at hlisting
      exact ⟨_, .failed hwords hfilter hclear hlisting, rfl, rfl, rfl⟩
  | ok rows =>
      rw [hresult] at hlisting
      obtain ⟨text, hfinish, hwritten⟩ := finish_of_rows hwords hfilter hclear hlisting
      refine ⟨_, hfinish, ?_⟩
      simp only [hroom, hwritten]
      exact ⟨rfl, rfl, rfl⟩

/-- The output of a run is all or nothing. Let it take everything, whatever else surrounds the run:
whatever the command line says, whatever is in the files, whatever the server says, and wherever the
pipe to it breaks. The run finishes in one of the ways there are. If it is with an error, nothing
was written, and the complaint is what the error says, with a line feed. If it is with a text, that
was written to the end, and there is no complaint. For a listing the text has all rows of the tree,
one on each line for people, and one in each object of a JSON document for programs. -/
theorem run_finishes {words : List String} {around : Surroundings} (hroom : around.room = none)
    (pipe : Option Obstacle) :
    ∃ finish, Finish words around pipe finish
      ∧ (run words around pipe).Tells around.locate finish := by
  unfold run
  cases hwords : readSettings words with
  | error stop =>
      cases stop with
      | help scope isLong => exact ⟨_, .help hwords, rfl, by rw [hroom]; rfl, rfl⟩
      | version => exact ⟨_, .version hwords, rfl, by rw [hroom]; rfl, rfl⟩
      | nothing => exact ⟨_, .nothing hwords, rfl, rfl, rfl⟩
      | wrong e => exact ⟨_, .usage hwords, rfl, rfl, rfl⟩
  | ok s =>
      cases hfilter : Filter.ofText s.logFilter with
      | error e =>
          refine ⟨_, .filter hwords hfilter, ?_⟩
          simp only [execute, hfilter]
          exact ⟨rfl, rfl, rfl⟩
      | ok filter =>
          cases hhindrance : around.hindrance with
          | some h =>
              refine ⟨_, .hindered hwords hfilter hhindrance, ?_⟩
              simp only [execute, hfilter, hhindrance]
              exact ⟨rfl, rfl, rfl⟩
          | none => exact execute_finishes hroom hwords hfilter hhindrance

-- ============================================ runs to look at

namespace Sample

open CallExplorer.Sample (function keyed)

/-- The text of a program of two functions. -/
def file : Json :=
  .object [("calls", .array [.object [("callee", .text "scan"), ("caller", .text "main"),
      ("fromRanges", .array [(Range.mk ⟨0, 5⟩ ⟨0, 9⟩).json])]]),
    ("items", .object [("main", (function "main" 0).json), ("scan", (function "scan" 2).json)]),
    ("roots", .array [.text "main"])]

theorem writing_range (r : Range) : Range.writing r (.ofJson r.json) := by
  refine Writing.object_ofJson ⟨⟨_, rfl, ?_⟩, ⟨_, rfl, ?_⟩⟩
  · exact Writing.object_ofJson ⟨⟨_, rfl, rfl⟩, ⟨_, rfl, rfl⟩⟩
  · exact Writing.object_ofJson ⟨⟨_, rfl, rfl⟩, ⟨_, rfl, rfl⟩⟩

theorem writing_function (name : String) (line : UInt32) :
    Item.writing (function name line) (.ofJson (function name line).json) := by
  apply Writing.object_ofJson
  exact {
    name := ⟨_, rfl, rfl⟩
    kind := ⟨_, rfl, rfl⟩
    tags := .inl ⟨rfl, rfl⟩
    detail := .inl ⟨rfl, rfl⟩
    uri := ⟨_, rfl, rfl⟩
    range := ⟨_, rfl, writing_range _⟩
    selectionRange := ⟨_, rfl, writing_range _⟩
    data := .inl ⟨rfl, rfl⟩ }

theorem writing_file : Fixture.writing keyed (.ofJson file) := by
  apply Writing.object_ofJson
  refine ⟨⟨_, rfl, ?items⟩, ⟨_, rfl, ?roots⟩, .inr ⟨_, rfl, ?calls⟩⟩
  case items =>
    refine Writing.dictionary_ofJson (List.pairwise_pair.2 (by decide)) (.refl _) ?_
    exact .cons ⟨rfl, writing_function _ _⟩ (.cons ⟨rfl, writing_function _ _⟩ .nil)
  case roots => exact Writing.list_ofJson (.cons rfl .nil)
  case calls =>
    refine Writing.list_ofJson (.cons ?_ .nil)
    refine Writing.object_ofJson ⟨⟨_, rfl, rfl⟩, ⟨_, rfl, rfl⟩, .inr ⟨_, rfl, ?_⟩⟩
    exact Writing.list_ofJson (.cons (writing_range _) .nil)

/-- No file is there. -/
def nowhere : Surroundings where
  working := .ok "/"
  read _ := .error .notFound
  start _ _ := .error .notFound

/-- The program is there. -/
def withFile : Surroundings := { nowhere with read := fun _ => .ok (Text.bytes file.compact) }

/-- The program is to be listed for people. -/
def command : List String :=
  ["--direction", "outgoing", "--output", "human", "fixture", "graph.json"]

def listed : Settings := ⟨.outgoing, 1, .human, "info", .compact, .fixture "graph.json"⟩

theorem readSettings_command : readSettings command = .ok listed := by rfl

/-- The call graph of the program. -/
def graph : CallGraph :=
  ⟨[function "main" 0], [⟨function "main" 0, function "scan" 2, [⟨⟨0, 5⟩, ⟨0, 9⟩⟩]⟩]⟩

theorem load_graph : CallGraph.load withFile.read "graph.json" = .ok graph :=
  CallGraph.load_of_isText rfl
    (Writing.isText_compact writing_file (by decide) (by decide +kernel)) rfl

/-- The function that the program starts with, and the one that is called from there. -/
def main : Node := .root (function "main" 0)

def scan : Node :=
  .child (function "scan" 2) [⟨(function "main" 0).uri, ⟨⟨0, 5⟩, ⟨0, 9⟩⟩⟩] main

/-- They are all that is shown. -/
theorem allRows_graph :
    graph.provider.AllRows .outgoing 1 () ([main, scan].map (.ofNode .outgoing)) := by
  have hroots : Node.sorted (graph.roots.map .root) = [main] := List.mergeSort_singleton main
  have hkids : Node.sorted (main.children .outgoing [⟨function "scan" 2, [⟨⟨0, 5⟩, ⟨0, 9⟩⟩]⟩])
      = [scan] := List.mergeSort_singleton scan
  have hbelow : Listed .outgoing 1
      (Node.sorted (main.children .outgoing [⟨function "scan" 2, [⟨⟨0, 5⟩, ⟨0, 9⟩⟩]⟩]))
      [scan] [] := by
    rw [hkids]
    exact .leaf (by decide) .nil
  have hlisted : Listed .outgoing 1 (Node.sorted (graph.roots.map .root)) [main, scan]
      [⟨Provider.question .outgoing main, .ok [⟨function "scan" 2, [⟨⟨0, 5⟩, ⟨0, 9⟩⟩]⟩]⟩] := by
    rw [hroots]
    exact .inner (by decide) hbelow .nil
  exact ⟨_, _, hlisted, rfl, rfl⟩

/-- The outline of the program has a line for each of them. -/
theorem outline_of_graph {rows : List Row} (h : graph.provider.AllRows .outgoing 1 () rows) :
    Row.outline rows = "main\n  scan @ /src/main.rs:1:6\n" := by
  have hsame := (Provider.allRows_iff.1 h).symm.trans (Provider.allRows_iff.1 allRows_graph)
  rw [Except.ok.inj hsame]
  decide +kernel

/-- A run with the command line comes to its listing, and writes an outline of the rows. -/
theorem listing_of_finish {around : Surroundings} (hclear : around.hindrance = none)
    {finish : Except RunError String} (h : Finish command around none finish) :
    (∃ e, finish = .error e ∧ Listing listed around none (.error e))
      ∨ ∃ rows, finish = .ok (Row.outline rows) ∧ Listing listed around none (.ok rows) := by
  obtain ⟨filter, hinfo⟩ := exists_filter
  cases h with
  | help hstops => cases readSettings_command.symm.trans hstops
  | version hstops => cases readSettings_command.symm.trans hstops
  | nothing hstops => cases readSettings_command.symm.trans hstops
  | usage hstops => cases readSettings_command.symm.trans hstops
  | filter hgood hfilter =>
      cases readSettings_command.symm.trans hgood
      cases hinfo.symm.trans hfilter
  | hindered hgood hfilter hhindered => cases hclear.symm.trans hhindered
  | failed hgood hfilter _ hlisting =>
      cases readSettings_command.symm.trans hgood
      exact .inl ⟨_, rfl, hlisting⟩
  | outline hgood hfilter _ hlisting hformat htext =>
      cases readSettings_command.symm.trans hgood
      exact .inr ⟨_, by rw [Row.outlineOf_iff.1 htext], hlisting⟩
  | document hgood hfilter _ hlisting hformat htext =>
      cases readSettings_command.symm.trans hgood
      rcases hformat with hjson | ⟨hauto, -⟩
      · cases hjson
      · cases hauto

/-- With the file the run lists the program. -/
theorem finish_withFile {finish : Except RunError String}
    (h : Finish command withFile none finish) :
    finish = .ok "main\n  scan @ /src/main.rs:1:6\n" := by
  rcases listing_of_finish rfl h with ⟨e, rfl, hlisting⟩ | ⟨rows, rfl, hlisting⟩
  · cases hlisting with
    | unloaded hsource hload =>
        cases hsource
        cases load_graph.symm.trans hload
    | _ hsource => cases hsource
  · cases hlisting with
    | loaded hsource hload hlisted =>
        cases hsource
        cases load_graph.symm.trans hload
        rw [outline_of_graph hlisted]
    | started hsource => cases hsource

/-- Without the file it has no call graph. -/
theorem finish_nowhere {finish : Except RunError String} (h : Finish command nowhere none finish) :
    finish = .error (.exploration (.unreadable "graph.json" .notFound)) := by
  have hnothing : CallGraph.load nowhere.read "graph.json"
      = .error (.unreadable "graph.json" .notFound) := rfl
  rcases listing_of_finish rfl h with ⟨e, rfl, hlisting⟩ | ⟨rows, rfl, hlisting⟩
  · cases hlisting with
    | unloaded hsource hload =>
        cases hsource
        cases hnothing.symm.trans hload
        rfl
    | _ hsource => cases hsource
  · cases hlisting with
    | loaded hsource hload hlisted =>
        cases hsource
        cases hnothing.symm.trans hload
    | started hsource => cases hsource

end Sample

/-- So a run that finds its call graph writes the whole outline, and one that does not writes
nothing and names the path. -/
theorem run_finishes_either_way :
    Sample.withFile.room = none ∧ Sample.nowhere.room = none
      ∧ (run Sample.command Sample.withFile).success = true
      ∧ (run Sample.command Sample.withFile).output
        = Text.bytes "main\n  scan @ /src/main.rs:1:6\n"
      ∧ (run Sample.command Sample.withFile).complaint = ""
      ∧ (run Sample.command Sample.nowhere).success = false
      ∧ (run Sample.command Sample.nowhere).output = []
      ∧ (run Sample.command Sample.nowhere).complaint
        = "IO error: failed to read graph.json\n" := by
  obtain ⟨finish, hfinish, htells⟩ : ∃ finish, Finish Sample.command Sample.withFile none finish
      ∧ (run Sample.command Sample.withFile).Tells .nowhere finish := run_finishes rfl none
  obtain ⟨finish', hfinish', htells'⟩ : ∃ finish, Finish Sample.command Sample.nowhere none finish
      ∧ (run Sample.command Sample.nowhere).Tells .nowhere finish := run_finishes rfl none
  rw [Sample.finish_withFile hfinish] at htells
  rw [Sample.finish_nowhere hfinish'] at htells'
  obtain ⟨hsuccess, houtput, hcomplaint⟩ := htells
  exact ⟨rfl, rfl, hsuccess, houtput, hcomplaint, htells'⟩

end Command

end CallExplorer
