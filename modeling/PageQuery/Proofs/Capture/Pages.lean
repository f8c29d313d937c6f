import PageQuery.Capture.Pages
/-!
What a capture of a tab depends on.

Captures and messages leave two traces: handlers that were installed, and requests that the network
has seen. `SamePages` says that two states differ in no more than that. Loading a tab gives the same
result in both (`load_eq`), and whatever is dispatched leads from a state to another one with the same
pages (`samePages_dispatchAll`).

A handler is never what a capture fails for if the tab's markup loads: a file that can be read is
there (`exists?_of_readText`). So `send` answers with the page exactly if the markup loads
(`send_of_load`, `send_of_not_load`), whatever is installed.
-/

namespace PageQuery

open Json Page Net

/-! ## 1. Files and handlers -/

/-- A file that can be read is there. -/
theorem Disk.exists?_of_readText {d : Disk} {path markup : String}
    (h : d.readText path = .ok markup) : d.exists? path = true := by
  rw [readText] at h
  rw [exists?]
  cases hFind : d.find path with
  | error e =>
    rw [hFind] at h
    cases h
  | ok place =>
    rw [hFind] at h
    cases hEntry : d.entry? place with
    | some entry =>
      show (d.entry? place).isSome = true
      rw [hEntry]
      rfl
    | none =>
      simp only [bind, Except.bind, hEntry] at h
      cases h

namespace Pages

/-- A handler can be installed over a source whose markup loads. -/
theorem canInstall_of_loadSource {source : PageSource} {w : World} {markup : String}
    (h : (loadSource w source).1 = .ok markup) : canInstall w.disk source = .ok () := by
  cases source with
  | inline _ => rfl
  | url _ => rfl
  | file path =>
    have hRead : w.disk.readText path = .ok markup := by
      rw [loadSource] at h
      cases hText : w.disk.readText path with
      | ok text => simpa [hText] using h
      | error e => simp [hText] at h
    rw [canInstall, if_pos (Disk.exists?_of_readText hRead)]

/-- Installing a handler notes the tab, and changes nothing else. -/
theorem ensureHandler_keeps {p p' : Pages} {tab : Nat} {d : Disk}
    (h : p.ensureHandler tab d = .ok p') : p' = { p with installed := p'.installed } := by
  rw [ensureHandler] at h
  split at h
  · cases h
    rfl
  · cases hSource : p.source tab with
    | error e =>
      rw [hSource] at h
      cases h
    | ok source =>
      cases hInstall : canInstall d source with
      | error e =>
        simp only [hSource, hInstall, bind, Except.bind] at h
        cases h
      | ok _ =>
        simp only [hSource, hInstall, bind, Except.bind] at h
        cases h
        rfl

/-- A tab whose markup loads has a handler, or gets one. -/
theorem ensureHandler_of_load {p : Pages} {tab : Nat} {w : World} {markup : String}
    (h : (p.load tab w).1 = .ok markup) : ∃ p', p.ensureHandler tab w.disk = .ok p' := by
  rw [ensureHandler]
  split
  · exact ⟨p, rfl⟩
  · cases hSource : p.source tab with
    | error e => simp [load, hSource] at h
    | ok source =>
      have hLoads : (loadSource w source).1 = .ok markup := by simpa [load, hSource] using h
      have hInstall : canInstall w.disk source = .ok () := canInstall_of_loadSource hLoads
      refine ⟨{ p with installed := tab :: p.installed }, ?_⟩
      simp only [hInstall, bind, Except.bind]

end Pages

/-! ## 2. The same pages -/

/-- Two states have the same tabs with the same contents. -/
structure SamePages (s t : Pages × World) : Prop where
  tabs_eq : t.1.tabs = s.1.tabs
  active_eq : t.1.active = s.1.active
  disk_eq : t.2.disk = s.2.disk
  answer_eq : t.2.network.answer = s.2.network.answer

namespace SamePages

variable {s t u : Pages × World}

theorem refl (s : Pages × World) : SamePages s s := ⟨rfl, rfl, rfl, rfl⟩

theorem trans (h : SamePages s t) (h' : SamePages t u) : SamePages s u where
  tabs_eq := h'.tabs_eq.trans h.tabs_eq
  active_eq := h'.active_eq.trans h.active_eq
  disk_eq := h'.disk_eq.trans h.disk_eq
  answer_eq := h'.answer_eq.trans h.answer_eq

end SamePages

/-- What a network answers does not depend on what it has seen. -/
theorem Net.Network.fetch_eq {n m : Network} (h : m.answer = n.answer) (method url : String)
    (headers : List (String × String)) (body : String) :
    (m.fetch method url headers body).1 = (n.fetch method url headers body).1 := by
  rw [fetch, fetch]
  cases buildRequest method url headers body with
  | error e => rfl
  | ok r =>
    show (m.send r).1 = (n.send r).1
    rw [send, send, h]
    cases n.answer r with
    | none => rfl
    | some response => rfl

theorem Net.Network.answer_fetch (n : Network) (method url : String)
    (headers : List (String × String)) (body : String) :
    (n.fetch method url headers body).2.answer = n.answer := by
  rw [fetch]
  cases buildRequest method url headers body with
  | error e => rfl
  | ok r =>
    show (n.send r).2.answer = n.answer
    rw [send]
    cases n.answer r with
    | none => rfl
    | some response => rfl

namespace Pages

theorem loadUrl_eq {w v : World} (h : v.network.answer = w.network.answer) (url : String) :
    (loadUrl url v).1 = (loadUrl url w).1 := by
  have hFetch := Network.fetch_eq h "GET" url [] ""
  rw [loadUrl, loadUrl]
  rcases hHere : w.network.fetch "GET" url [] "" with ⟨outcome, n⟩
  rcases hThere : v.network.fetch "GET" url [] "" with ⟨outcome', m⟩
  rw [hHere, hThere] at hFetch
  obtain rfl : outcome' = outcome := hFetch
  cases outcome' with
  | error e => rfl
  | ok response =>
    simp only
    split
    · split
      · rfl
      · rfl
    · rfl

theorem loadUrl_world (url : String) (w : World) :
    (loadUrl url w).2 = { w with network := (w.network.fetch "GET" url [] "").2 } := by
  rw [loadUrl]
  rcases w.network.fetch "GET" url [] "" with ⟨outcome, n⟩
  cases outcome with
  | error e => rfl
  | ok response =>
    simp only
    split
    · split
      · rfl
      · rfl
    · rfl

theorem loadSource_eq {w v : World} (hDisk : v.disk = w.disk)
    (hAnswer : v.network.answer = w.network.answer) (source : PageSource) :
    (loadSource v source).1 = (loadSource w source).1 := by
  cases source with
  | inline _ => rfl
  | url url => exact loadUrl_eq hAnswer url
  | file path =>
    rw [loadSource, loadSource, hDisk]
    cases w.disk.readText path with
    | error e => rfl
    | ok markup => rfl

/-- Loading a source asks the network at most, and changes nothing that it answers. -/
theorem loadSource_keeps (w : World) (source : PageSource) :
    (loadSource w source).2.disk = w.disk ∧
      (loadSource w source).2.network.answer = w.network.answer := by
  cases source with
  | inline _ => exact ⟨rfl, rfl⟩
  | url url =>
    show (loadUrl url w).2.disk = _ ∧ (loadUrl url w).2.network.answer = _
    rw [loadUrl_world]
    exact ⟨rfl, w.network.answer_fetch "GET" url [] ""⟩
  | file path =>
    rw [loadSource]
    cases w.disk.readText path with
    | error e => exact ⟨rfl, rfl⟩
    | ok markup => exact ⟨rfl, rfl⟩

theorem source_eq {p q : Pages} (h : q.tabs = p.tabs) (tab : Nat) :
    q.source tab = p.source tab := by
  rw [source, source, source?, source?, h]

/-- Loading a tab gives the same where the pages are the same. -/
theorem load_eq {s t : Pages × World} (h : SamePages s t) (tab : Nat) :
    (t.1.load tab t.2).1 = (s.1.load tab s.2).1 := by
  rw [load, load, source_eq h.tabs_eq]
  cases s.1.source tab with
  | error e => rfl
  | ok source => exact loadSource_eq h.disk_eq h.answer_eq source

theorem samePages_load (p : Pages) (tab : Nat) (w : World) :
    SamePages (p, w) (p, (p.load tab w).2) := by
  rw [load]
  cases p.source tab with
  | error e => exact .refl _
  | ok source =>
    obtain ⟨hDisk, hAnswer⟩ := loadSource_keeps w source
    exact ⟨rfl, rfl, hDisk, hAnswer⟩

theorem samePages_ensureHandler {p p' : Pages} {tab : Nat} {w : World}
    (h : p.ensureHandler tab w.disk = .ok p') : SamePages (p, w) (p', w) := by
  rw [ensureHandler_keeps h]
  exact ⟨rfl, rfl, rfl, rfl⟩

/-! ## 3. Captures -/

/-- A capture of a tab that has a handler is answered with what it loads. -/
theorem send_eq {r : CaptureRequest} {p p' : Pages} {w : World}
    (h : p.ensureHandler r.tab w.disk = .ok p') :
    send r (p, w) =
      ((p'.load r.tab w).1.map fun markup => .ofSnapshot (captureMarkup markup r.scope),
        p', (p'.load r.tab w).2) := by
  rw [send, h]
  simp only
  rcases p'.load r.tab w with ⟨outcome, v⟩
  cases outcome with
  | error e => rfl
  | ok markup => rfl

theorem send_of_no_handler {r : CaptureRequest} {p : Pages} {w : World} {e : ClientError}
    (h : p.ensureHandler r.tab w.disk = .error e) : send r (p, w) = (.error e, p, w) := by
  rw [send, h]

/-- A capture of a tab whose markup loads is answered with the page. -/
theorem send_of_load {r : CaptureRequest} {s : Pages × World} {markup : String}
    (h : (s.1.load r.tab s.2).1 = .ok markup) :
    (send r s).1 = .ok (.ofSnapshot (captureMarkup markup r.scope)) := by
  obtain ⟨p, w⟩ := s
  obtain ⟨p', hHandler⟩ := ensureHandler_of_load h
  have hLoads : (p'.load r.tab w).1 = .ok markup :=
    (load_eq (samePages_ensureHandler hHandler) r.tab).trans h
  rw [send_eq hHandler, hLoads]
  rfl

/-- A capture of a tab whose markup does not load is not answered. The error may be another one, if
it is found before the tab is loaded. -/
theorem send_of_not_load {r : CaptureRequest} {s : Pages × World} {e : ClientError}
    (h : (s.1.load r.tab s.2).1 = .error e) : ∃ e', (send r s).1 = .error e' := by
  obtain ⟨p, w⟩ := s
  cases hHandler : p.ensureHandler r.tab w.disk with
  | error e' => exact ⟨e', by rw [send_of_no_handler hHandler]⟩
  | ok p' =>
    have hLoads : (p'.load r.tab w).1 = .error e :=
      (load_eq (samePages_ensureHandler hHandler) r.tab).trans h
    refine ⟨e, ?_⟩
    rw [send_eq hHandler, hLoads]
    rfl

theorem samePages_send (r : CaptureRequest) (s : Pages × World) : SamePages s (send r s).2 := by
  obtain ⟨p, w⟩ := s
  cases hHandler : p.ensureHandler r.tab w.disk with
  | error e =>
    rw [send_of_no_handler hHandler]
    exact .refl _
  | ok p' =>
    rw [send_eq hHandler]
    exact (samePages_ensureHandler hHandler).trans (samePages_load p' r.tab w)

/-! ## 4. Messages -/

/-- What is made of an attempt to load a page. -/
def pageReply (scope : Scope) : Except ClientError String → CaptureReply
  | .ok markup => .ofSnapshot (captureMarkup markup scope)
  | .error e => .failed e.message

/-- A message to the page is answered from what the active tab loads. -/
theorem dispatch_page {message : Json} (h : isPageMessage message = true) (s : Pages × World) :
    dispatch message s =
      (some (pageReply (messageScope message) (s.1.loadActive s.2).1).toJson,
        s.1, (s.1.loadActive s.2).2) := by
  rw [dispatch, if_pos h]
  rcases s.1.loadActive s.2 with ⟨outcome, w⟩
  cases outcome with
  | error e => rfl
  | ok markup =>
    have hAnswer : answerPage (outlineOf markup) message =
        some (CaptureReply.ofSnapshot (captureMarkup markup (messageScope message))).toJson := by
      rw [answerPage, if_pos h]
      rfl
    simp only [hAnswer]
    rfl

theorem dispatch_relay {message : Json} (h : ¬ isPageMessage message = true) (s : Pages × World) :
    dispatch message s = relay send message s := by
  rw [dispatch, if_neg h]

theorem samePages_loadActive (p : Pages) (w : World) :
    SamePages (p, w) (p, (p.loadActive w).2) := by
  rw [loadActive]
  cases p.activeTab with
  | error e => exact .refl _
  | ok tab => exact samePages_load p tab w

theorem samePages_dispatch (message : Json) (s : Pages × World) :
    SamePages s (dispatch message s).2 := by
  by_cases hPage : isPageMessage message = true
  · rw [dispatch_page hPage]
    exact samePages_loadActive s.1 s.2
  · rw [dispatch_relay hPage, relay]
    split
    · split
      · exact .refl s
      · exact samePages_send _ s
    · exact .refl s

/-- What becomes of the pages while messages are dispatched. -/
def dispatchAll (messages : List Json) (s : Pages × World) : Pages × World :=
  messages.foldl (fun s message => (dispatch message s).2) s

/-- **Messages leave the pages as they are**, however many of them are dispatched. -/
theorem samePages_dispatchAll (messages : List Json) (s : Pages × World) :
    SamePages s (dispatchAll messages s) := by
  induction messages generalizing s with
  | nil => exact .refl s
  | cons message rest ih =>
    exact (samePages_dispatch message s).trans (ih (dispatch message s).2)

end Pages

end PageQuery
