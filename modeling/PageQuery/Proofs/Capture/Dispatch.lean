import PageQuery.Proofs.Capture.Pages
import PageQuery.Proofs.Capture.Wire
import PageQuery.Proofs.Page.Sources
/-!
Messages to a set of tabs.

There are two ways to ask for a capture: a message to the page, which the active tab answers, and a
message that names a tab and goes through the relay. They are answered by different parts of the
program, and still alike. `dispatch_answers` says which messages are answered, what an answer can be,
and that both ways lead to the same page: with the same scope, a message to the page and one that
names the active tab have the same answer if that tab's markup loads, and both are refused if it does
not.

The two messages need not come at the same moment. It is enough that the pages are the same at both,
and messages themselves never change that.

Nor do the messages before make a difference. A handler that is installed is not looked at again, so it
might answer for a tab that could not be given one any more. But while the pages are the same, a handler
could be installed anew wherever there is one (`Handled`), and so the check that is left out would have
passed. What a message is answered with depends on the message and the pages alone
(`dispatch_eq_of_same`), also in the wording of a failure.
-/

namespace PageQuery

open Json Page

/-! ## 1. Answers -/

/-- The answer reports a page in this scope: its markup, the source, and the size in UTF-8. -/
def Reports (answer : Json) (scope : Scope) : Prop :=
  ∃ (html : String) (source : Source),
    answer.get? "ok" = some (.bool true) ∧ answer.get? "html" = some (.str html) ∧
    answer.get? "scope" = some (.str scope.name) ∧
    answer.get? "source" = some (.str source.name) ∧
    answer.get? "size_bytes" = some (.nat html.utf8ByteSize)

/-- The answer reports a failure, and says why. -/
def Refuses (answer : Json) : Prop :=
  answer.get? "ok" = some (.bool false) ∧ ∃ error, answer.get? "error" = some (.str error)

theorem CaptureReply.exists_toJson_eq_obj (reply : CaptureReply) :
    ∃ fields, reply.toJson = .obj fields := by
  cases reply with
  | captured p => exact ⟨_, rfl⟩
  | failed error => exact ⟨_, rfl⟩

theorem refuses_failed (error : String) : Refuses (CaptureReply.toJson (.failed error)) := by
  obtain ⟨hOk, hError⟩ := CaptureReply.fields_toJson_failed error
  exact ⟨hOk, error, hError⟩

theorem reports_extract (document : Option Outline) (scope : Scope) :
    Reports (CaptureReply.ofSnapshot (extract document scope)).toJson scope := by
  obtain ⟨html, source, hExtract⟩ := exists_extract_eq document scope
  rw [hExtract]
  obtain ⟨hOk, hSource, hHtml, hSize, hScope⟩ :=
    CaptureReply.fields_toJson_captured ⟨some scope, source, html, some html.utf8ByteSize⟩
  exact ⟨html, source, hOk, hHtml, hScope, hSource, hSize⟩

/-! ## 2. Messages -/

/-- The message asks the page itself. -/
def AsksPage (message : Json) : Prop :=
  message.get? "type" = some (.str "markql_capture") ∨
    message.get? "type" = some (.str "xsql_capture")

/-- The message is for the relay. -/
def AsksRelay (message : Json) : Prop := message.get? "type" = some (.str "captureSnapshot")

theorem isPageMessage_iff {message : Json} : isPageMessage message = true ↔ AsksPage message := by
  rw [AsksPage, ← string?_eq_some_iff, ← string?_eq_some_iff, isPageMessage, messageType?]
  cases message.string? "type" with
  | none => simp
  | some type => simp [pageMessages]

theorem messageType?_iff {message : Json} :
    messageType? message = some captureMessage ↔ AsksRelay message := string?_eq_some_iff

/-- No message asks both. -/
theorem AsksRelay.not_asksPage {message : Json} (h : AsksRelay message) : ¬ AsksPage message := by
  rw [AsksRelay] at h
  simp [AsksPage, h]

/-- The scope that is meant depends on the field of that name alone. -/
theorem messageScope_eq {message other : Json} (h : other.get? "scope" = message.get? "scope") :
    messageScope other = messageScope message := by
  rw [messageScope, messageScope, string?, string?, h]

namespace Pages

/-! ## 3. Each way on its own -/

theorem dispatch_asked {message : Json} (h : AsksPage message) (s : Pages × World) :
    (dispatch message s).1 =
      some (pageReply (messageScope message) (s.1.loadActive s.2).1).toJson := by
  rw [dispatch_page (isPageMessage_iff.mpr h)]

theorem dispatch_active {message : Json} {tab : Nat} {s : Pages × World} (h : AsksPage message)
    (hActive : s.1.active = some tab) :
    (dispatch message s).1 =
      some (pageReply (messageScope message) (s.1.load tab s.2).1).toJson := by
  rw [dispatch_asked h, loadActive, activeTab, hActive]

/-- Without an active tab there is no page to ask. -/
theorem dispatch_inactive {message : Json} {s : Pages × World} (h : AsksPage message)
    (hActive : s.1.active = none) :
    ∃ answer, (dispatch message s).1 = some answer ∧ Refuses answer := by
  refine ⟨_, dispatch_asked h s, ?_⟩
  rw [loadActive, activeTab, hActive]
  exact refuses_failed _

theorem dispatch_relayed {message : Json} (h : ¬ AsksPage message) (s : Pages × World) :
    dispatch message s = relay send message s := dispatch_relay (mt isPageMessage_iff.mp h) s

/-- A message to a tab is answered as a capture of that tab is. -/
theorem dispatch_tab {message : Json} {tab : Nat} (h : AsksRelay message)
    (hTab : (message.get? "tabId").bind CaptureRequest.tab? = some tab) (s : Pages × World) :
    (dispatch message s).1 =
      some (replyOf (send ⟨tab, messageScope message⟩ s).1).toJson := by
  rw [dispatch_relayed h.not_asksPage, relay_eq send (messageType?_iff.mpr h) hTab]

theorem dispatch_invalidTab {message : Json} (h : AsksRelay message)
    (hTab : (message.get? "tabId").bind CaptureRequest.tab? = none) (s : Pages × World) :
    (dispatch message s).1 = some invalidTab.toJson := by
  rw [dispatch_relayed h.not_asksPage, relay, if_pos (messageType?_iff.mpr h), hTab]

theorem dispatch_other {message : Json} (hPage : ¬ AsksPage message) (hRelay : ¬ AsksRelay message)
    (s : Pages × World) : (dispatch message s).1 = none := by
  rw [dispatch_relayed hPage, relay, if_neg (mt messageType?_iff.mp hRelay)]

/-! ## 4. What an answer can be -/

/-- The answer is an object, and reports the page or refuses. -/
def Answers (answer : Json) (scope : Scope) : Prop :=
  (∃ fields, answer = .obj fields) ∧ (Reports answer scope ∨ Refuses answer)

theorem answers_pageReply (scope : Scope) (loaded : Except ClientError String) :
    Answers (pageReply scope loaded).toJson scope := by
  refine ⟨CaptureReply.exists_toJson_eq_obj _, ?_⟩
  cases loaded with
  | ok markup => exact Or.inl (reports_extract _ scope)
  | error e => exact Or.inr (refuses_failed e.message)

/-- A capture comes to a page that was loaded, or to nothing. -/
theorem answers_send (r : CaptureRequest) (s : Pages × World) :
    Answers (replyOf (send r s).1).toJson r.scope := by
  cases hLoad : (s.1.load r.tab s.2).1 with
  | ok markup =>
    rw [send_of_load hLoad]
    exact answers_pageReply r.scope (.ok markup)
  | error e =>
    obtain ⟨e', hSend⟩ := send_of_not_load hLoad
    rw [hSend]
    exact answers_pageReply r.scope (.error e')

/-- A message is answered if it asks one way or the other. -/
theorem dispatch_spec (message : Json) (s : Pages × World) :
    (∃ answer, (dispatch message s).1 = some answer ∧ (AsksPage message ∨ AsksRelay message) ∧
      Answers answer (messageScope message)) ∨
    ((dispatch message s).1 = none ∧ ¬ AsksPage message ∧ ¬ AsksRelay message) := by
  by_cases hPage : AsksPage message
  · exact Or.inl ⟨_, dispatch_asked hPage s, Or.inl hPage, answers_pageReply _ _⟩
  · by_cases hRelay : AsksRelay message
    · left
      cases hTab : (message.get? "tabId").bind CaptureRequest.tab? with
      | none =>
        refine ⟨_, dispatch_invalidTab hRelay hTab s, Or.inr hRelay, ?_, ?_⟩
        · exact CaptureReply.exists_toJson_eq_obj _
        · exact Or.inr (refuses_failed _)
      | some tab => exact ⟨_, dispatch_tab hRelay hTab s, Or.inr hRelay, answers_send _ s⟩
    · exact Or.inr ⟨dispatch_other hPage hRelay s, hPage, hRelay⟩

/-! ## 5. Both ways -/

/-- **Asking the page and asking for its tab come to the same.** Exactly the messages of the three
types are answered, each with an object that reports a page in the message's scope or refuses. Where
the pages are the same, a message to the page and a message to the active tab that name the same scope
have the same answer if the tab's markup loads. If it does not, both are refused, and so is a message
to the page where no tab is active. -/
theorem dispatch_answers (s : Pages × World) :
    (∀ message, (dispatch message s).1 = none ↔
      ¬ ∃ type ∈ ["captureSnapshot", "markql_capture", "xsql_capture"],
        message.get? "type" = some (.str type)) ∧
    (∀ message answer, (dispatch message s).1 = some answer →
      (∃ fields, answer = .obj fields) ∧
        (Reports answer (messageScope message) ∨ Refuses answer)) ∧
    (∀ t asked relayed tab, SamePages s t → s.1.active = some tab → isTabId tab = true →
      AsksPage asked → AsksRelay relayed → relayed.get? "tabId" = some (.nat tab) →
      relayed.get? "scope" = asked.get? "scope" →
      match (s.1.load tab s.2).1 with
      | .ok _ => ∃ answer, (dispatch asked s).1 = some answer ∧
          (dispatch relayed t).1 = some answer ∧ Reports answer (messageScope asked)
      | .error _ => ∃ answer answer', (dispatch asked s).1 = some answer ∧ Refuses answer ∧
          (dispatch relayed t).1 = some answer' ∧ Refuses answer') ∧
    (s.1.active = none → ∀ asked, AsksPage asked →
      ∃ answer, (dispatch asked s).1 = some answer ∧ Refuses answer) := by
  refine ⟨fun message => ?_, fun message answer hAnswer => ?_, ?_,
    fun hNone asked hAsks => dispatch_inactive hAsks hNone⟩
  · have hTypes : (∃ type ∈ ["captureSnapshot", "markql_capture", "xsql_capture"],
        message.get? "type" = some (.str type)) ↔ AsksPage message ∨ AsksRelay message := by
      simp only [List.mem_cons, List.not_mem_nil, or_false, exists_eq_or_imp, exists_eq_left,
        AsksPage, AsksRelay]
      exact or_comm
    rw [hTypes]
    rcases dispatch_spec message s with ⟨answer, hSome, hAsks, -⟩ | ⟨hNone, hPage, hRelay⟩
    · simp [hSome, hAsks]
    · simp [hNone, hPage, hRelay]
  · rcases dispatch_spec message s with ⟨found, hSome, -, hAnswers⟩ | ⟨hNone, -⟩
    · rw [hSome] at hAnswer
      cases hAnswer
      exact hAnswers
    · rw [hNone] at hAnswer
      cases hAnswer
  · intro t asked relayed tab hSame hActive hTabId hAsks hRelays hTab hScope
    have hFound : (relayed.get? "tabId").bind CaptureRequest.tab? = some tab := by
      rw [hTab, Option.bind_some, CaptureRequest.tab?_nat hTabId]
    have hAsked := dispatch_active hAsks hActive
    have hRelayed := dispatch_tab hRelays hFound t
    have hLoadLater := load_eq hSame tab
    rw [messageScope_eq hScope] at hRelayed
    cases hLoad : (s.1.load tab s.2).1 with
    | ok markup =>
      rw [hLoad] at hAsked hLoadLater
      rw [send_of_load hLoadLater] at hRelayed
      exact ⟨_, hAsked, hRelayed, reports_extract _ _⟩
    | error e =>
      rw [hLoad] at hAsked hLoadLater
      obtain ⟨e', hSend⟩ := send_of_not_load (r := ⟨tab, messageScope asked⟩) hLoadLater
      rw [hSend] at hRelayed
      exact ⟨_, _, hAsked, refuses_failed _, hRelayed, refuses_failed _⟩

/-- Two tabs, the first of which is active. -/
def twoTabs : Pages × World :=
  (ofSources [.inline "<article>né</article>", .file "gone.html"],
    ⟨⟨[], []⟩, .silent, .absent⟩)

/-- A message to the page whose scope is not a text. -/
def pageMessage : Json := .obj [("type", .str "xsql_capture"), ("scope", .arr [.null])]

/-- The same message to the first tab. -/
def tabMessage : Json :=
  .obj [("type", .str "captureSnapshot"), ("tabId", .nat 1), ("scope", .arr [.null])]

theorem dispatch_answers_twoTabs :
    SamePages twoTabs (dispatchAll [tabMessage, .str "ping", pageMessage] twoTabs) ∧
      ∃ answer, (dispatch pageMessage twoTabs).1 = some answer ∧
        (dispatch tabMessage (dispatchAll [tabMessage, .str "ping", pageMessage] twoTabs)).1 =
          some answer ∧
        Reports answer .main := by
  have hSame := samePages_dispatchAll [tabMessage, .str "ping", pageMessage] twoTabs
  obtain ⟨-, -, hBoth, -⟩ := dispatch_answers twoTabs
  exact ⟨hSame, hBoth _ pageMessage tabMessage 1 hSame rfl (by decide) (Or.inr rfl) rfl rfl rfl⟩

/-! ## 6. What has a handler could be given one -/

/-- Whether a tab can be given a handler. -/
def canHandle (p : Pages) (tab : Nat) (d : Disk) : Except ClientError Unit :=
  (p.source tab).bind (canInstall d)

/-- Every tab with a handler could be given one. -/
def Handled (s : Pages × World) : Prop :=
  ∀ tab ∈ s.1.installed, s.1.canHandle tab s.2.disk = .ok ()

theorem handled_ofSources (sources : List PageSource) (w : World) : Handled (ofSources sources, w) :=
  fun _ hMem => absurd hMem List.not_mem_nil

/-- Making sure of a handler fails as giving the tab one would. -/
theorem ensureHandler_outcome {p : Pages} {w : World} (h : Handled (p, w)) (tab : Nat) :
    (p.ensureHandler tab w.disk).map (fun _ => ()) = p.canHandle tab w.disk := by
  rw [ensureHandler]
  split
  · next hInstalled => exact (h tab (by simpa using hInstalled)).symm
  · rw [canHandle]
    cases p.source tab with
    | error e => rfl
    | ok source =>
      show Except.map _ ((canInstall w.disk source).bind _) = canInstall w.disk source
      cases canInstall w.disk source with
      | error e => rfl
      | ok _ => rfl

/-- Only a tab that can be given a handler gets one. -/
theorem handled_ensureHandler {p p' : Pages} {tab : Nat} {w : World} (h : Handled (p, w))
    (hRun : p.ensureHandler tab w.disk = .ok p') : Handled (p', w) := by
  have hTab : p.canHandle tab w.disk = .ok () := by
    rw [← ensureHandler_outcome h, hRun]
    rfl
  have hKept := ensureHandler_keeps hRun
  have hSame : ∀ other, p'.canHandle other w.disk = p.canHandle other w.disk := by
    rw [hKept]
    exact fun _ => rfl
  intro other hMem
  rw [hSame]
  rw [ensureHandler] at hRun
  split at hRun
  · cases hRun
    exact h other hMem
  · cases hSource : p.source tab with
    | error e =>
      rw [hSource] at hRun
      cases hRun
    | ok source =>
      rw [hSource] at hRun
      cases hInstall : canInstall w.disk source with
      | error e =>
        simp only [hInstall, bind, Except.bind] at hRun
        cases hRun
      | ok _ =>
        simp only [hInstall, bind, Except.bind] at hRun
        cases hRun
        rcases List.mem_cons.mp hMem with rfl | hBefore
        · exact hTab
        · exact h other hBefore

/-- Where the pages are the same, what has a handler could still be given one. -/
theorem canHandle_eq {s t : Pages × World} (h : SamePages s t) (tab : Nat) :
    t.1.canHandle tab t.2.disk = s.1.canHandle tab s.2.disk := by
  rw [canHandle, canHandle, source_eq h.tabs_eq, h.disk_eq]

theorem handled_load {p : Pages} {w : World} (h : Handled (p, w)) (tab : Nat) :
    Handled (p, (p.load tab w).2) := by
  intro other hMem
  rw [canHandle_eq (samePages_load p tab w)]
  exact h other hMem

theorem handled_send {s : Pages × World} (h : Handled s) (r : CaptureRequest) :
    Handled (send r s).2 := by
  obtain ⟨p, w⟩ := s
  cases hHandler : p.ensureHandler r.tab w.disk with
  | error e =>
    rw [send_of_no_handler hHandler]
    exact h
  | ok p' =>
    rw [send_eq hHandler]
    exact handled_load (handled_ensureHandler h hHandler) r.tab

theorem handled_dispatch {s : Pages × World} (h : Handled s) (message : Json) :
    Handled (dispatch message s).2 := by
  by_cases hPage : isPageMessage message = true
  · rw [dispatch_page hPage, loadActive]
    cases s.1.activeTab with
    | error e => exact h
    | ok tab => exact handled_load h tab
  · rw [dispatch_relay hPage, relay]
    split
    · split
      · exact h
      · exact handled_send h _
    · exact h

/-! ## 7. The same pages, the same answer -/

/-- A capture comes to what loads, if the tab can be given a handler. -/
theorem send_outcome {s : Pages × World} (h : Handled s) (r : CaptureRequest) :
    (send r s).1 = (s.1.canHandle r.tab s.2.disk).bind fun _ =>
      (s.1.load r.tab s.2).1.map fun markup => .ofSnapshot (captureMarkup markup r.scope) := by
  obtain ⟨p, w⟩ := s
  have hOutcome : (p.ensureHandler r.tab w.disk).map (fun _ => ()) = p.canHandle r.tab w.disk :=
    ensureHandler_outcome h r.tab
  show _ = (p.canHandle r.tab w.disk).bind fun _ => _
  rw [← hOutcome]
  cases hHandler : p.ensureHandler r.tab w.disk with
  | error e =>
    rw [send_of_no_handler hHandler]
    rfl
  | ok p' =>
    have hLoad : (p'.load r.tab w).1 = (p.load r.tab w).1 :=
      load_eq (samePages_ensureHandler hHandler) r.tab
    rw [send_eq hHandler, hLoad]
    rfl

theorem loadActive_eq {s t : Pages × World} (h : SamePages s t) :
    (t.1.loadActive t.2).1 = (s.1.loadActive s.2).1 := by
  have hActive : t.1.activeTab = s.1.activeTab := by rw [activeTab, activeTab, h.active_eq]
  rw [loadActive, loadActive, hActive]
  cases s.1.activeTab with
  | error e => rfl
  | ok tab => exact load_eq h tab

/-- **An answer depends on the message and the pages alone.** -/
theorem dispatch_eq_of_same {s t : Pages × World} (h : SamePages s t) (hs : Handled s)
    (ht : Handled t) (message : Json) : (dispatch message t).1 = (dispatch message s).1 := by
  by_cases hPage : AsksPage message
  · rw [dispatch_asked hPage, dispatch_asked hPage, loadActive_eq h]
  · by_cases hRelay : AsksRelay message
    · cases hTab : (message.get? "tabId").bind CaptureRequest.tab? with
      | none => rw [dispatch_invalidTab hRelay hTab, dispatch_invalidTab hRelay hTab]
      | some tab =>
        rw [dispatch_tab hRelay hTab, dispatch_tab hRelay hTab, send_outcome hs, send_outcome ht,
          canHandle_eq h, load_eq h]
    · rw [dispatch_other hPage hRelay, dispatch_other hPage hRelay]

end Pages

end PageQuery
