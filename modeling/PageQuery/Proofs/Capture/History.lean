import PageQuery.Proofs.Capture.Pages
/-!
What a set of tabs remembers.

Tabs live long: they are captured and asked again and again, another tab becomes active, and meanwhile
files come and go. What they keep of all that are the handlers that were installed, and a handler is not
checked again, though the file it was installed over may be gone. `run` is any such history, and
`send_after_run` compares a capture at its end with the same capture from tabs that were opened just then.

The two can only differ where the handler is no longer backed by a file. The tabs with a past then go on
to load the file and the new ones do not even get a handler, so neither capture succeeds, and all that
differs is which of the two failures is told.
-/

namespace PageQuery.Pages

open Json Page

/-! ## 1. Histories -/

/-- What can happen to a set of tabs, and to the world around it. -/
inductive Step where
  | send (r : CaptureRequest)
  | dispatch (message : Json)
  | ensureHandler (tab : Nat)
  | setActive (tab : Nat)
  /-- Files and the network become something else. -/
  | outside (w : World)

/-- What a step leaves behind. A step that fails leaves the tabs alone. -/
def Step.apply (s : Pages × World) : Step → Pages × World
  | send r => (Pages.send r s).2
  | dispatch message => (Pages.dispatch message s).2
  | ensureHandler tab => ((s.1.ensureHandler tab s.2.disk).toOption.getD s.1, s.2)
  | setActive tab => ((s.1.setActive tab).toOption.getD s.1, s.2)
  | outside w => (s.1, w)

/-- The tabs and the world after a history. -/
def run (steps : List Step) (s : Pages × World) : Pages × World := steps.foldl Step.apply s

/-- No step opens or closes a tab. -/
theorem Step.tabs_apply (step : Step) (s : Pages × World) : (step.apply s).1.tabs = s.1.tabs := by
  obtain ⟨p, w⟩ := s
  cases step with
  | send r => exact (samePages_send r (p, w)).tabs_eq
  | dispatch message => exact (samePages_dispatch message (p, w)).tabs_eq
  | ensureHandler tab =>
    show ((p.ensureHandler tab w.disk).toOption.getD p).tabs = p.tabs
    cases h : p.ensureHandler tab w.disk with
    | error e => rfl
    | ok p' => exact (samePages_ensureHandler h).tabs_eq
  | setActive tab =>
    show ((p.setActive tab).toOption.getD p).tabs = p.tabs
    unfold Pages.setActive
    cases p.source tab with
    | error e => rfl
    | ok source => rfl
  | outside w' => rfl

theorem tabs_run (steps : List Step) (s : Pages × World) : (run steps s).1.tabs = s.1.tabs := by
  induction steps generalizing s with
  | nil => rfl
  | cons step rest ih =>
    show (run rest (step.apply s)).1.tabs = s.1.tabs
    rw [ih, step.tabs_apply]

/-! ## 2. With and without a handler -/

section Handler

variable {p : Pages} {tab : Nat} {d : Disk}

theorem ensureHandler_of_mem (h : tab ∈ p.installed) : p.ensureHandler tab d = .ok p := by
  unfold ensureHandler
  simp [h]

theorem ensureHandler_of_notMem (h : tab ∉ p.installed) :
    p.ensureHandler tab d = (p.source tab).bind fun source =>
      (canInstall d source).bind fun _ => .ok { p with installed := tab :: p.installed } := by
  unfold ensureHandler
  simp only [List.contains_iff_mem, h, if_false]
  rfl

end Handler

variable {r : CaptureRequest} {p : Pages} {source : PageSource} {w : World} {e : ClientError}

/-- What a capture of a source comes to once it has a handler. -/
def reply (scope : Scope) (w : World) (source : PageSource) : Except ClientError CaptureReply :=
  (loadSource w source).1.map fun markup => .ofSnapshot (captureMarkup markup scope)

/-- A capture of a tab that is not there fails, even if it has a handler. -/
theorem send_of_no_source (w : World) (h : p.source r.tab = .error e) :
    (send r (p, w)).1 = .error e ∧ (send r (p, w)).2.2 = w := by
  by_cases hHas : r.tab ∈ p.installed
  · have hLoad : p.load r.tab w = (.error e, w) := by
      unfold load
      rw [h]
    rw [send_eq (ensureHandler_of_mem hHas), hLoad]
    exact ⟨rfl, rfl⟩
  · have hHandler : p.ensureHandler r.tab w.disk = .error e := by
      rw [ensureHandler_of_notMem hHas, h]
      rfl
    rw [send_of_no_handler hHandler]
    exact ⟨rfl, rfl⟩

/-- With a handler at hand, or one that can be installed, a capture comes to what loads. -/
theorem send_of_source (hSource : p.source r.tab = .ok source)
    (hHandler : r.tab ∈ p.installed ∨ canInstall w.disk source = .ok ()) :
    (send r (p, w)).1 = reply r.scope w source ∧
      (send r (p, w)).2.2 = (loadSource w source).2 := by
  have hLoads : ∀ p', p.ensureHandler r.tab w.disk = .ok p' →
      p'.load r.tab w = loadSource w source := by
    intro p' h
    unfold load
    rw [source_eq (samePages_ensureHandler h).tabs_eq, hSource]
  obtain ⟨p', h⟩ : ∃ p', p.ensureHandler r.tab w.disk = .ok p' := by
    by_cases hHas : r.tab ∈ p.installed
    · exact ⟨p, ensureHandler_of_mem hHas⟩
    · have hInstalls := hHandler.resolve_left hHas
      refine ⟨{ p with installed := r.tab :: p.installed }, ?_⟩
      rw [ensureHandler_of_notMem hHas, hSource]
      simp [hInstalls, Except.bind]
  rw [send_eq h, hLoads p' h]
  exact ⟨rfl, rfl⟩

/-- Without a handler that can be installed, a capture is refused before anything is loaded. -/
theorem send_of_refused (hHas : r.tab ∉ p.installed) (hSource : p.source r.tab = .ok source)
    (hRefused : canInstall w.disk source = .error e) :
    (send r (p, w)).1 = .error e ∧ (send r (p, w)).2.2 = w := by
  have hHandler : p.ensureHandler r.tab w.disk = .error e := by
    rw [ensureHandler_of_notMem hHas, hSource]
    simp [hRefused, Except.bind]
  rw [send_of_no_handler hHandler]
  exact ⟨rfl, rfl⟩

/-- Only a file that is gone gets no handler, and then it does not load either. -/
theorem gone_of_refused (h : canInstall w.disk source = .error e) :
    ∃ path cause, source = .file path ∧ w.disk.exists? path = false ∧
      e = .capture ("Could not establish connection: " ++ path ++ " not found") ∧
      loadSource w source =
        (.error (.capture ("failed to read " ++ path ++ ": " ++ DiskError.message cause)), w) := by
  cases source with
  | inline markup => cases h
  | url url => cases h
  | file path =>
    unfold canInstall at h
    cases hExists : w.disk.exists? path with
    | true => simp [hExists] at h
    | false =>
      have hError := by simpa [hExists] using h
      cases hRead : w.disk.readText path with
      | ok markup =>
        rw [Disk.exists?_of_readText hRead] at hExists
        cases hExists
      | error cause =>
        refine ⟨path, cause, rfl, hExists, hError.symm, ?_⟩
        simp [loadSource, hRead]

/-! ## 3. Captures with a past -/

/-- The file of a tab with a handler is gone, and this is what is told of it with the handler and without
one. -/
structure Misses (p : Pages) (tab : Nat) (d : Disk) (withHandler without : ClientError) : Prop where
  installed : tab ∈ p.installed
  gone : ∃ path cause, p.source tab = .ok (.file path) ∧ d.exists? path = false ∧
    withHandler = .capture ("failed to read " ++ path ++ ": " ++ DiskError.message cause) ∧
    without = .capture ("Could not establish connection: " ++ path ++ " not found")

/-- Handlers change what is told of a failure, and nothing else: a capture comes to the same from tabs that
have none. -/
theorem send_eq_bare {q : Pages} (hTabs : q.tabs = p.tabs) (hBare : q.installed = []) (w : World)
    (r : CaptureRequest) :
    (∀ reply, (send r (p, w)).1 = .ok reply ↔ (send r (q, w)).1 = .ok reply) ∧
    (send r (p, w)).2.2 = (send r (q, w)).2.2 ∧
    ∀ e e', (send r (p, w)).1 = .error e → (send r (q, w)).1 = .error e' →
      e = e' ∨ p.Misses r.tab w.disk e e' := by
  have hSame : q.source r.tab = p.source r.tab := source_eq hTabs r.tab
  have hNone : r.tab ∉ q.installed := by simp [hBare]
  cases hSource : p.source r.tab with
  | error e =>
    obtain ⟨hSend, hWorld⟩ := send_of_no_source w hSource
    obtain ⟨hBareSend, hBareWorld⟩ := send_of_no_source w (hSame.trans hSource)
    rw [hSend, hWorld, hBareSend, hBareWorld]
    exact ⟨fun reply => Iff.rfl, rfl, fun e₁ e₂ h₁ h₂ => Or.inl (by cases h₁; cases h₂; rfl)⟩
  | ok source =>
    have hBareSource : q.source r.tab = .ok source := hSame.trans hSource
    cases hInstalls : canInstall w.disk source with
    | ok _ =>
      obtain ⟨hSend, hWorld⟩ := send_of_source hSource (Or.inr hInstalls)
      obtain ⟨hBareSend, hBareWorld⟩ := send_of_source hBareSource (Or.inr hInstalls)
      rw [hSend, hWorld, hBareSend, hBareWorld]
      refine ⟨fun reply => Iff.rfl, rfl, fun e₁ e₂ h₁ h₂ => Or.inl ?_⟩
      exact Except.error.inj (h₁.symm.trans h₂)
    | error e =>
      obtain ⟨hBareSend, hBareWorld⟩ := send_of_refused hNone hBareSource hInstalls
      rw [hBareSend, hBareWorld]
      by_cases hHas : r.tab ∈ p.installed
      · obtain ⟨path, cause, rfl, hGone, rfl, hLoad⟩ := gone_of_refused hInstalls
        obtain ⟨hSend, hWorld⟩ := send_of_source hSource (Or.inl hHas)
        unfold reply at hSend
        rw [hLoad] at hSend hWorld
        rw [hSend, hWorld]
        refine ⟨fun reply => ⟨nofun, nofun⟩, rfl, ?_⟩
        rintro _ _ ⟨⟩ ⟨⟩
        exact Or.inr ⟨hHas, path, cause, hSource, hGone, rfl, rfl⟩
      · obtain ⟨hSend, hWorld⟩ := send_of_refused hHas hSource hInstalls
        rw [hSend, hWorld]
        exact ⟨fun reply => Iff.rfl, rfl, fun e₁ e₂ h₁ h₂ => Or.inl (by cases h₁; cases h₂; rfl)⟩

/-- **A capture does not depend on what came before.** Take tabs over any sources, let captures, messages,
handlers and changes of the active tab come in any order, and let files and network change in between as
they like. A capture then succeeds exactly if the same capture would from tabs that are opened at that
moment over the same sources, and with the same reply; it asks the same of the network; and where neither
succeeds they fail alike, unless the tab has a handler and its file is gone by now. -/
theorem send_after_run (sources : List PageSource) (steps : List Step) (w : World)
    (r : CaptureRequest) :
    let now := run steps (.ofSources sources, w)
    let fresh : Pages × World := (.ofSources sources, now.2)
    (∀ reply, (send r now).1 = .ok reply ↔ (send r fresh).1 = .ok reply) ∧
    (send r now).2.2 = (send r fresh).2.2 ∧
    ∀ e e', (send r now).1 = .error e → (send r fresh).1 = .error e' →
      e = e' ∨ now.1.Misses r.tab now.2.disk e e' := by
  intro now fresh
  have hTabs : fresh.1.tabs = now.1.tabs := (tabs_run steps (.ofSources sources, w)).symm
  exact send_eq_bare hTabs rfl now.2 r

-- The handler outlives its file, and tabs that were opened later would tell "a not found" instead.
example :
    let there : World := ⟨⟨[], [(["a"], .file (.text "<p>x</p>"))]⟩, .silent, .absent⟩
    let gone : World := ⟨⟨[], []⟩, .silent, .absent⟩
    (send ⟨1, .full⟩ (run [.ensureHandler 1, .outside gone] (.ofSources [.file "a"], there))).1 =
      .error (.capture "failed to read a: No such file or directory (os error 2)") := by
  rfl

end PageQuery.Pages
