/-
Sessions with a server that knows a call graph.

What a client can do goes well with such a server. The introduction is understood, documents
are handed over, and what comes back are the roots of the graph and the links of an item, each
of them as it is received. That the data of an item may have changed on the way is of no
consequence, and no links at all are none, whichever way they are told.
-/
import CallExplorer.Proofs.Remote.Sharing
import CallExplorer.Proofs.Server.Conversation

namespace CallExplorer

namespace Server

namespace Client

variable {reads : Decoder Introduction} {g : CallGraph} {final : List Transmission}

-- ============================================ opening a session

/-- What holds of every client that an action succeeds for may be taken for granted. -/
theorem Succeeds.of_assumed {ε α : Type} {P : Client → Prop} {Q : α → Client → Prop} {φ : Prop}
    {x : Action Client ε α} (hφ : ∀ c, P c → φ) (hx : φ → Succeeds reads g final P x Q) :
    Succeeds reads g final P x Q :=
  fun c htrack hc hsaid => hx (hφ c hc) c htrack hc hsaid

theorem succeeds_get {ε : Type} {P : Client → Prop} :
    Succeeds reads g final P (Action.get : Action Client ε Client) fun a c => a = c ∧ P c :=
  fun c htrack hc _ => ⟨c, rfl, ⟨rfl, hc⟩, htrack⟩

theorem succeeds_setSession {P : Client → Prop} (isOpen : Bool) :
    Succeeds reads g final P (setSession isOpen) fun _ c => c.initialised = isOpen :=
  fun _ htrack _ _ => ⟨(), rfl, rfl, htrack.served, htrack.clear, htrack.low, htrack.high⟩

/-- What a client says of itself can be written, the number of its process being one. -/
theorem isWhole_introductionParams {process : Nat} (h : process < 4294967296) (root : Uri) :
    (introductionParams process root).isWhole = true := by
  have hlow : (-9223372036854775808 : Int) ≤ process := by omega
  have hhigh : (process : Int) < 18446744073709551616 := by omega
  simp only [introductionParams, Json.isWhole, Json.haveWhole, Json.areWhole,
    decide_eq_true hlow, decide_eq_true hhigh, Bool.and_self]

/-- A session is opened. -/
theorem succeeds_initialise (root : Uri) :
    Succeeds reads g final (fun c => c.process < 4294967296 ∧ c.introductions = reads)
      (initialise root) fun _ c => c.initialised = true := by
  refine succeeds_get.bind (fun a => ?_) fun a => ?_
  · exact grows_bind (grows_request _ _ _) fun _ => grows_bind (grows_notify _ _) fun _ =>
      grows_bind (grows_setSession true) fun _ => grows_pure _
  refine Succeeds.of_assumed (φ := a.process < 4294967296 ∧ a.introductions = reads)
    (fun c hc => by rw [hc.1]; exact hc.2) ?_
  rintro ⟨hprocess, rfl⟩
  have hrequest : Succeeds a.introductions g final (fun _ => True)
      (request a.introductions "initialize" (some (introductionParams a.process root)))
      fun _ _ => True ∧ True := by
    refine succeeds_request (fun _ _ _ h => h) (fun _ => True)
      (isWhole_introductionParams hprocess root) fun id result hgives => ?_
    obtain ⟨i, hi⟩ := hgives.introduction rfl
    exact ⟨i, hi, trivial⟩
  refine (hrequest.strengthen fun _ _ => trivial).bind (fun i => ?_) fun i => ?_
  · exact grows_bind (grows_notify _ _) fun _ => grows_bind (grows_setSession true) fun _ =>
      grows_pure _
  have hnotify : Succeeds a.introductions g final (fun _ => True ∧ True)
      (notify "initialized" (some (.object []))) fun _ _ => True ∧ True :=
    succeeds_notify (fun _ _ _ h => h) rfl
  refine hnotify.bind (fun _ => ?_) fun _ => ?_
  · exact grows_bind (grows_setSession true) fun _ => grows_pure _
  refine (succeeds_setSession true).bind (fun _ => grows_pure _) fun _ => ?_
  exact (succeeds_pure i).weaken fun _ _ h => h.2

-- ============================================ in a session

/-- In an open session nothing is in the way. -/
theorem needSession_opened {c : Client} (h : c.initialised = true) :
    needSession c = ⟨.ok (), [], c⟩ := by
  have hget : (Action.get : Action Client Failure Client) c = ⟨.ok c, [], c⟩ := rfl
  rw [needSession, Action.bind_of_ok hget, if_pos h]
  rfl

/-- Nothing happens outside a session. -/
theorem inSession_eq {α : Type} (x : Action Client Failure α) (c : Client) :
    (do needSession; x) c = if c.initialised then x c else ⟨.error .notInitialised, [], c⟩ := by
  by_cases hopen : c.initialised = true
  · rw [Action.bind_of_ok (needSession_opened hopen), if_pos hopen]
    rfl
  · have hget : (Action.get : Action Client Failure Client) c = ⟨.ok c, [], c⟩ := rfl
    have hneed : needSession c = ⟨.error .notInitialised, [], c⟩ := by
      rw [needSession, Action.bind_of_ok hget, if_neg hopen]
      rfl
    rw [Action.bind_of_error hneed, if_neg hopen]

theorem succeeds_needSession :
    Succeeds reads g final (fun c => c.initialised = true) needSession
      fun _ c => c.initialised = true := by
  intro c htrack hopened _
  rw [needSession_opened hopened]
  exact ⟨(), rfl, hopened, htrack⟩

theorem ofSession_initialised : OfSession fun c => c.initialised = true :=
  fun _ _ hsame hc => hsame.trans hc

theorem succeeds_openDocument (uri : Uri) (language content : String) :
    Succeeds reads g final (fun c => c.initialised = true) (openDocument uri language content)
      fun _ c => c.initialised = true := by
  refine succeeds_needSession.bind (fun _ => grows_notify _ _) fun _ => ?_
  exact succeeds_notify ofSession_initialised rfl

/-- A list that a server gives is read as the list it was made from. -/
theorem decode_given {α β : Type} {decode : Decoder β} {write : α → Json} {read : α → β}
    {xs : List α} {result : Json} (hresult : result.normal = (Json.array (xs.map write)).normal)
    (h : ∀ x ∈ xs, decodeValue decode (write x).normal = .ok (read x)) :
    decodeValue (.option (.list decode)) result.normal = .ok (some (xs.map read)) := by
  rw [hresult]
  exact Decoder.option_ofJson (fun hnull => by cases hnull) (decode_list xs h)

/-- The symbols at a position are the roots. -/
theorem succeeds_prepare (uri : Uri) (p : Position) :
    Succeeds reads g final (fun c => c.initialised = true) (prepare uri p)
      fun answer c => answer = some (g.roots.map Item.received) ∧ c.initialised = true := by
  refine succeeds_needSession.bind (fun _ => grows_request _ _ _) fun _ => ?_
  have hparams : (prepareParams uri p).isWhole = true := by
    simp only [prepareParams, Json.isWhole, Json.haveWhole, p.isWhole_json, Bool.and_self]
  refine succeeds_request ofSession_initialised
    (fun answer => answer = some (g.roots.map Item.received)) hparams fun id result hgives => ?_
  exact ⟨_, decode_given (hgives.roots rfl) fun i _ => i.decode_json, rfl⟩

/-- The calls of an item are its links. -/
theorem succeeds_links (d : Direction) {i : Item} (hi : i.Whole) :
    Succeeds reads g final (fun c => c.initialised = true) (links d i)
      fun answer c => answer.getD [] = (g.links d i).map Link.received ∧ c.initialised = true := by
  refine succeeds_needSession.bind (fun _ => grows_request _ _ _) fun _ => ?_
  have hparams : (linksParams i).isWhole = true := by
    simp only [linksParams, Json.isWhole, Json.haveWhole, hi.json, Bool.and_self]
  refine succeeds_request ofSession_initialised
    (fun answer : Option (List Link) => answer.getD [] = (g.links d i).map Link.received)
    hparams fun id result hgives => ?_
  rcases hgives.links d i (linksMethod_eq d) rfl with hlist | ⟨hnone, rfl⟩
  · exact ⟨_, decode_given hlist fun l _ => l.decode_json d, rfl⟩
  · refine ⟨none, rfl, ?_⟩
    rw [hnone]
    rfl

-- ============================================ from a file to the roots

/-- The exploration of a file starts from the roots, if there are any. -/
theorem succeeds_start {path : String} {uri : Uri} (huri : Uri.ofPath path = .ok uri)
    (p : Position) (hroots : g.roots ≠ []) :
    Succeeds reads g final (fun c => c.initialised = true) (access.start path p)
      fun roots c => roots = g.roots.map Item.received ∧ c.initialised = true := by
  rw [HierarchyClient.start, HierarchyClient.lift_uri huri, Action.pure_bind]
  refine ((succeeds_prepare uri p).mapError CallExplorer.Failure.ofServer).bind (fun answer => ?_)
    fun answer => ?_
  · split
    · exact grows_fail _
    · exact grows_bind (grows_note _) fun _ => grows_pure _
  refine Succeeds.of_assumed (φ := answer = some (g.roots.map Item.received)) (fun c hc => hc.1) ?_
  rintro rfl
  split
  next hnone =>
    exact absurd (List.map_eq_nil_iff.1 hnone) hroots
  next =>
    refine (succeeds_note _).bind (fun _ => grows_pure _) fun _ => ?_
    exact (succeeds_pure _).weaken fun roots c h => ⟨h.1, h.2.2⟩

-- ============================================ answers known beforehand

section Answered

variable {α : Type} {c : Client} {result : Json} {said : List UInt8} {stream : List Arrival}

/-- The client of a session that was just opened. -/
def introduced (c : Client) (root : Uri) (stream : List Arrival) : Client :=
  { (c.answered "initialize" (some (introductionParams c.process root)) stream).telling
      "initialized" (some (.object [])) with initialised := true }

/-- A session is open as soon as the introduction is understood. -/
theorem initialise_eq (h : c.obstacle = none) (root : Uri) :
    ∃ events, initialise root c
      = ⟨c.awaited.1.bind (Reply.verdict c.introductions), events,
          match c.awaited.1.bind (Reply.verdict c.introductions) with
          | .ok _ => c.introduced root c.awaited.2
          | .error _ =>
            c.answered "initialize" (some (introductionParams c.process root)) c.awaited.2⟩ := by
  have hget : (Action.get : Action Client Failure Client) c = ⟨.ok c, [], c⟩ := rfl
  obtain ⟨events, hrequest⟩ := request_eq h c.introductions "initialize"
    (some (introductionParams c.process root))
  rw [initialise, Action.bind_of_ok hget]
  generalize c.awaited.1.bind (Reply.verdict c.introductions) = result at hrequest ⊢
  cases result with
  | error e =>
      rw [Action.bind_of_error hrequest]
      exact ⟨_, rfl⟩
  | ok i =>
      have hnotify := notify_clear (c := c.answered "initialize"
        (some (introductionParams c.process root)) c.awaited.2) h "initialized" (some (.object []))
      rw [Action.bind_of_ok hrequest, Action.bind_of_ok hnotify]
      exact ⟨_, rfl⟩

/-- Opening a session with the answer that comes next. -/
theorem initialise_answered (h : c.obstacle = none) (root : Uri) {i : Introduction}
    (hincoming : c.incoming = arrivals said ++ stream) (hanswered : Answered c.nextId result said)
    (hdecode : decodeValue c.introductions result.normal = .ok i) :
    ∃ events, initialise root c = ⟨.ok i, events, c.introduced root stream⟩ := by
  obtain ⟨events, hinitialise⟩ := initialise_eq h root
  obtain ⟨hresult, hrest⟩ := awaited_answered hincoming hanswered hdecode
  rw [hresult, hrest] at hinitialise
  exact ⟨events, hinitialise⟩

/-- A request in an open session with the answer that comes next. -/
theorem request_in_session (h : c.obstacle = none) (hopen : c.initialised = true)
    {decode : Decoder α} (method : String) (params : Option Json) {a : α}
    (hincoming : c.incoming = arrivals said ++ stream) (hanswered : Answered c.nextId result said)
    (hdecode : decodeValue decode result.normal = .ok a) :
    ∃ events, (do needSession; request decode method params) c
      = ⟨.ok a, events, c.answered method params stream⟩ := by
  obtain ⟨events, hrequest⟩ := request_answered h method params hincoming hanswered hdecode
  rw [Action.bind_of_ok (needSession_opened hopen), hrequest]
  exact ⟨_, rfl⟩

/-- Starting from a file with the answer that comes next. -/
theorem start_answered (h : c.obstacle = none) (hopen : c.initialised = true) {path : String}
    {uri : Uri} (huri : Uri.ofPath path = .ok uri) (p : Position) {i : Item} {rest : List Item}
    (hincoming : c.incoming = arrivals said ++ stream) (hanswered : Answered c.nextId result said)
    (hdecode : decodeValue (.option (.list Item.decoder)) result.normal = .ok (some (i :: rest))) :
    ∃ events, access.start path p c
      = ⟨.ok (i :: rest), events,
          c.answered "textDocument/prepareCallHierarchy" (some (prepareParams uri p)) stream⟩ := by
  obtain ⟨events, hprepare⟩ := request_in_session h hopen "textDocument/prepareCallHierarchy"
    (some (prepareParams uri p)) hincoming hanswered hdecode
  have haccess : access.prepare uri p c
      = ⟨.ok (some (i :: rest)), events,
          c.answered "textDocument/prepareCallHierarchy" (some (prepareParams uri p)) stream⟩ :=
    Action.mapError_of_ok hprepare _
  have hstart : (access.start path p).ComesTo c _ _ := HierarchyClient.start_comesTo huri p c
  rw [haccess] at hstart
  exact hstart.exists_eq

end Answered

end Client

end Server

end CallExplorer
