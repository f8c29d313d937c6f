import PageQuery.Proofs.Workbench.Endings
import PageQuery.Proofs.Workbench.Scripted
/-!
What a failed action leaves alone.

The stores are views of an outside that is not ours, and `ChangesBy` names the exchanges that can change
a view. So whether a store is changed is a matter of what was said, and of the ways in which an action
can fail none says anything that copies a text or puts anything into a store, but for a query: it is
remembered, and may have captured a page, before the agent refuses it. The main statement is
`trigger_failure`; `trigger_of_busyPage` is why it makes an exception for an outside that is itself busy.
-/

namespace PageQuery

open Text

variable {σ α β : Type}

/-! ## 1. What changes the stores -/

/-- Only an exchange of this kind changes what the view shows of the outside. -/
def ChangesBy (env : Environment σ) (kind : Exchange → Prop) (view : σ → α) : Prop :=
  ∀ (c : Call) (s : σ), ¬ kind ⟨c, (env c s).1⟩ → view (env c s).2 = view s

theorem Answered.view_eq {env : Environment σ} {kind : Exchange → Prop} {view : σ → α}
    (hChanges : ChangesBy env kind view) {s s' : σ} {talk : List Exchange}
    (h : Answered env s talk s') (hNone : ∀ x ∈ talk, ¬ kind x) : view s' = view s := by
  induction h with
  | done s => rfl
  | next c _ ih =>
    rw [ih fun x hMem => hNone x (List.mem_cons_of_mem _ hMem)]
    exact hChanges c _ (hNone _ List.mem_cons_self)

namespace Exchange

/-- A setting is stored under the key. -/
def Sets (key : String) (x : Exchange) : Prop := ∃ value, x = ⟨.writeSetting key value, .ok ()⟩

/-- Entries are stored in the session cache. -/
def Caches (x : Exchange) : Prop := ∃ entries, x = ⟨.writeSession entries, .ok ()⟩

/-- A text is copied to the clipboard. -/
def Copies (x : Exchange) : Prop := ∃ text, x = ⟨.copy text, .ok ()⟩

/-- The outside answers by itself that another action is running. -/
def SaysBusy (x : Exchange) : Prop :=
  x = ⟨.activeTab, .error .busy⟩ ∨ (∃ r, x = ⟨.capture r, .error .busy⟩) ∨
    ∃ token r, x = ⟨.query token r, .error .busy⟩

/-- No store is changed. -/
structure IsHarmless (x : Exchange) : Prop where
  not_sets (key : String) : ¬ x.Sets key
  not_caches : ¬ x.Caches
  not_copies : ¬ x.Copies

/-- Questions to the page and to the agent change no store. -/
theorem isHarmless_of_call {x : Exchange} (h : x.call = .activeTab ∨ (∃ r, x.call = .capture r) ∨
    ∃ token r, x.call = .query token r) : x.IsHarmless where
  not_sets key := by
    rintro ⟨value, rfl⟩
    simp at h
  not_caches := by
    rintro ⟨entries, rfl⟩
    simp at h
  not_copies := by
    rintro ⟨text, rfl⟩
    simp at h

theorem isHarmless_refused_setting (key value : String) (f : Fault) :
    IsHarmless ⟨.writeSetting key value, .error f⟩ := by
  constructor <;> simp [Sets, Caches, Copies]

theorem isHarmless_refused_copy (text : String) (f : Fault) :
    IsHarmless ⟨.copy text, .error f⟩ := by
  constructor <;> simp [Sets, Caches, Copies]

end Exchange

/-! ## 2. Captures -/

/-- A capture asks questions, and stores nothing but the snapshot that it comes to. -/
theorem Captures.mem_talk {d d' : Desk} {talk : List Exchange}
    {outcome : Except ClientError Snapshot} (h : Captures d talk outcome d') {x : Exchange}
    (hMem : x ∈ talk) : x.IsHarmless ∨
      ∃ s stored, outcome = .ok s ∧ x = ⟨.writeSession (cacheEntries s), stored⟩ := by
  obtain ⟨found, sent, writes, rfl, -, -, -, hTaken, hFailed⟩ := h.account
  rcases List.mem_cons.mp hMem with rfl | hMem
  · exact Or.inl (Exchange.isHarmless_of_call (Or.inl rfl))
  rcases List.mem_append.mp hMem with hSent | hWrite
  · obtain ⟨y, -, rfl⟩ := List.mem_map.mp hSent
    exact Or.inl (Exchange.isHarmless_of_call (Or.inr (Or.inl ⟨y.request, rfl⟩)))
  cases outcome with
  | ok s =>
    obtain ⟨-, stored, rfl, -⟩ := hTaken s rfl
    exact Or.inr ⟨s, stored, rfl, List.mem_singleton.mp hWrite⟩
  | error e =>
    rw [(hFailed e rfl).1] at hWrite
    cases hWrite

/-- A failed capture leaves the snapshot, and stores nothing. -/
theorem Captures.harmless_of_error {d d' : Desk} {talk : List Exchange} {e : ClientError}
    (h : Captures d talk (.error e) d') :
    d'.snapshot = d.snapshot ∧ ∀ x ∈ talk, x.IsHarmless := by
  obtain ⟨found, sent, writes, -, -, -, -, -, hFailed⟩ := h.account
  refine ⟨(hFailed e rfl).2, fun x hMem => ?_⟩
  rcases h.mem_talk hMem with hHarmless | ⟨_, _, hOk, _⟩
  · exact hHarmless
  · cases hOk

theorem Sent.saysBusy {x : Sent} (h : x.outcome = .error .busy) : x.exchange.SaysBusy := by
  obtain ⟨request, answer⟩ := x
  cases answer with
  | error e =>
    obtain rfl : e = .busy := by simpa [outcome, Except.bind] using h
    exact Or.inr (Or.inl ⟨request, rfl⟩)
  | ok reply =>
    cases reply with
    | failed m => simp [outcome, Except.bind, CaptureReply.snapshot] at h
    | captured page => simp [outcome, Except.bind, CaptureReply.snapshot] at h

theorem Captures.saysBusy {d d' : Desk} {talk : List Exchange}
    (h : Captures d talk (.error .busy) d') : ∃ x ∈ talk, x.SaysBusy := by
  cases h with
  | noTab => exact ⟨_, List.mem_cons_self, Or.inl rfl⟩
  | @failed tab sent last e status hPursuit hLast hOutcome =>
    have hMem : last ∈ sent := List.mem_of_getLast? hLast
    exact ⟨last.exchange, List.mem_cons_of_mem _ (List.mem_map_of_mem hMem), last.saysBusy hOutcome⟩

/-! ## 3. The ways to fail -/

/-- Of what was said, the last is that the agent refuses a query, and a request before that came to
the snapshot. -/
def RefusedAfter (talk : List Exchange) (s : Snapshot) (e : ClientError) : Prop :=
  ∃ before x token request, talk = before ++ [⟨.query token request, .error e⟩] ∧
    x.outcome = .ok s ∧ Sent.exchange x ∈ before

namespace Ends

variable {d d' : Desk} {a : Action} {talk : List Exchange} {e : ClientError}

/-- A failed action changes neither the result nor the token nor what is in the editor. -/
theorem desk_of_error (h : Ends d a talk (.error e) d') :
    d'.result = d.result ∧ d'.token = d.token ∧ d'.editor = d.editor := by
  cases h with
  | notCaptured hCaptures | notSupplied _ hCaptures =>
    rw [hCaptures.desk_eq]
    exact ⟨rfl, rfl, rfl⟩
  | notAnswered _ hSupplies =>
    rw [hSupplies.desk_eq]
    exact ⟨rfl, rfl, rfl⟩
  | refused _ | notRemembered _ | noResult _ _ | notCopied _ _ | notSaved => exact ⟨rfl, rfl, rfl⟩

/-- All that a failed action says is harmless, except that a query is remembered and that a page may
have been captured for it. -/
theorem mem_talk_of_error (h : Ends d a talk (.error e) d') {x : Exchange} (hMem : x ∈ talk) :
    x.IsHarmless ∨ a = .runQuery ∧ ((∃ query, x = ⟨.writeSetting queryKey query, .ok ()⟩) ∨
      ∃ entries stored, x = ⟨.writeSession entries, stored⟩) := by
  cases h with
  | notCaptured hCaptures => exact Or.inl (hCaptures.harmless_of_error.2 x hMem)
  | notRemembered _ | notSaved =>
    rw [List.mem_singleton.mp hMem]
    exact Or.inl (Exchange.isHarmless_refused_setting _ _ _)
  | notCopied _ _ =>
    rw [List.mem_singleton.mp hMem]
    exact Or.inl (Exchange.isHarmless_refused_copy _ _)
  | refused _ | noResult _ _ => cases hMem
  | notSupplied _ hCaptures =>
    rcases List.mem_cons.mp hMem with rfl | hLater
    · exact Or.inr ⟨rfl, Or.inl ⟨_, rfl⟩⟩
    · exact Or.inl (hCaptures.harmless_of_error.2 x hLater)
  | notAnswered _ hSupplies =>
    rcases List.mem_cons.mp hMem with rfl | hLater
    · exact Or.inr ⟨rfl, Or.inl ⟨_, rfl⟩⟩
    rcases List.mem_append.mp hLater with hSupplied | hAsked
    · cases hSupplies with
      | atHand _ _ => cases hSupplied
      | captured _ hCaptures =>
        rcases hCaptures.mem_talk hSupplied with hHarmless | ⟨s, stored, _, rfl⟩
        · exact Or.inl hHarmless
        · exact Or.inr ⟨rfl, Or.inr ⟨_, stored, rfl⟩⟩
    · rw [List.mem_singleton.mp hAsked]
      exact Or.inl (Exchange.isHarmless_of_call (Or.inr (Or.inr ⟨_, _, rfl⟩)))

/-- A failed action copies nothing. -/
theorem not_copies_of_error (h : Ends d a talk (.error e) d') {x : Exchange} (hMem : x ∈ talk) :
    ¬ x.Copies := by
  rcases h.mem_talk_of_error hMem with hHarmless | ⟨-, ⟨_, rfl⟩ | ⟨_, _, rfl⟩⟩
  · exact hHarmless.not_copies
  · simp [Exchange.Copies]
  · simp [Exchange.Copies]

/-- A failed action sets nothing but a query, and that only as a query. -/
theorem sets_of_error (h : Ends d a talk (.error e) d') {x : Exchange} (hMem : x ∈ talk)
    {key : String} (hSets : x.Sets key) : a = .runQuery ∧ key = queryKey := by
  rcases h.mem_talk_of_error hMem with hHarmless | ⟨rfl, ⟨_, rfl⟩ | ⟨_, _, rfl⟩⟩
  · exact absurd hSets (hHarmless.not_sets key)
  · obtain ⟨_, hSame⟩ := hSets
    cases hSame
    exact ⟨rfl, rfl⟩
  · simp [Exchange.Sets] at hSets

/-- A failed action leaves the snapshot on the desk and the session cache, unless it is a query for
which a page was captured before the agent refused it. -/
theorem spares_or_refusedAfter (h : Ends d a talk (.error e) d') :
    (d'.snapshot = d.snapshot ∧ ∀ x ∈ talk, ¬ x.Caches) ∨
      a = .runQuery ∧ ∃ s, d'.snapshot = some s ∧ RefusedAfter talk s e := by
  cases h with
  | refused _ | noResult _ _ => exact Or.inl ⟨rfl, by simp⟩
  | notRemembered _ | notSaved | notCopied _ _ => exact Or.inl ⟨rfl, by simp [Exchange.Caches]⟩
  | notCaptured hCaptures =>
    obtain ⟨hSnapshot, hHarmless⟩ := hCaptures.harmless_of_error
    exact Or.inl ⟨hSnapshot, fun x hMem => (hHarmless x hMem).not_caches⟩
  | notSupplied _ hCaptures =>
    obtain ⟨hSnapshot, hHarmless⟩ := hCaptures.harmless_of_error
    refine Or.inl ⟨hSnapshot, fun x hMem => ?_⟩
    rcases List.mem_cons.mp hMem with rfl | hLater
    · simp [Exchange.Caches]
    · exact (hHarmless x hLater).not_caches
  | notAnswered _ hSupplies =>
    cases hSupplies with
    | atHand _ _ => exact Or.inl ⟨rfl, by simp [Exchange.Caches]⟩
    | captured _ hCaptures =>
      obtain ⟨found, sent, writes, rfl, hNoTab, hPursued, -, hTaken, -⟩ := hCaptures.account
      cases found with
      | error e => cases (hNoTab e rfl).2
      | ok tab =>
        obtain ⟨-, last, hLast, hOutcome⟩ := hPursued tab rfl
        have hMem : last.exchange ∈ sent.map Sent.exchange :=
          List.mem_map_of_mem (List.mem_of_getLast? hLast)
        refine Or.inr ⟨rfl, _, (hTaken _ rfl).1, _ :: _, last, _, _, rfl, hOutcome.symm, ?_⟩
        simp [hMem]

/-- A failure of this kind is the outside's own word. -/
theorem saysBusy_of_error (h : Ends d a talk (.error .busy) d') : ∃ x ∈ talk, x.SaysBusy := by
  cases h with
  | notCaptured hCaptures => exact hCaptures.saysBusy
  | refused hChecked =>
    simp only [checkInputs] at hChecked
    split at hChecked
    · cases hChecked
    · split at hChecked
      · cases hChecked
      · cases hChecked
  | notSupplied _ hCaptures =>
    obtain ⟨x, hMem, hBusy⟩ := hCaptures.saysBusy
    exact ⟨x, List.mem_cons_of_mem _ hMem, hBusy⟩
  | @notAnswered token query talk s d' e hChecked hSupplies =>
    refine ⟨⟨.query token ⟨s.html, query, d'.queryOptions⟩, .error .busy⟩, ?_,
      Or.inr (Or.inr ⟨_, _, rfl⟩)⟩
    exact List.mem_cons_of_mem _ (List.mem_append_right _ List.mem_cons_self)

end Ends

/-! ## 4. The scripted outside -/

namespace Script

theorem settings_changesBy (key : String) :
    ChangesBy environment (Exchange.Sets key) fun s => s.settings.get? key := by
  intro c s hNotSet
  by_cases hWrite : ∃ key value, c = .writeSetting key value
  · obtain ⟨other, value, rfl⟩ := hWrite
    show (s.writeSetting other value).2.settings.get? key = s.settings.get? key
    have hNotStored : ¬ (other = key ∧ (s.writeSetting other value).1 = .ok ()) := by
      rintro ⟨rfl, hReply⟩
      exact hNotSet ⟨value, congrArg _ hReply⟩
    rw [writeSetting] at hNotStored ⊢
    split
    · rfl
    · next hStores =>
      rw [if_neg hStores] at hNotStored
      have hOther : other ≠ key := fun hSame => hNotStored ⟨hSame, rfl⟩
      rw [SettingsMap.get?_insert, if_neg hOther]
  · exact congrArg (SettingsMap.get? · key) ((spares c s).settings hWrite)

theorem session_changesBy : ChangesBy environment Exchange.Caches Script.session := by
  intro c s hNotCached
  by_cases hWrite : ∃ entries, c = .writeSession entries
  · obtain ⟨entries, rfl⟩ := hWrite
    show (s.writeSession entries).2.session = s.session
    have hNotStored : (s.writeSession entries).1 ≠ .ok () :=
      fun hReply => hNotCached ⟨entries, congrArg _ hReply⟩
    rw [writeSession] at hNotStored ⊢
    split
    · rfl
    · next hStores =>
      rw [if_neg hStores] at hNotStored
      cases hSet : s.session.setMany entries with
      | ok session =>
        rw [hSet] at hNotStored
        exact absurd rfl hNotStored
      | error f => rfl
  · exact (spares c s).session hWrite

theorem copies_changesBy : ChangesBy environment Exchange.Copies Script.copies := by
  intro c s hNotCopied
  by_cases hCopy : ∃ text, c = .copy text
  · obtain ⟨text, rfl⟩ := hCopy
    show (s.copy text).2.copies = s.copies
    have hNotTaken : (s.copy text).1 ≠ .ok () :=
      fun hReply => hNotCopied ⟨text, congrArg _ hReply⟩
    rw [copy] at hNotTaken ⊢
    cases hRefusal : s.refusal with
    | some f => rfl
    | none =>
      rw [hRefusal] at hNotTaken
      exact absurd rfl hNotTaken
  · exact (spares c s).copies hCopy

end Script

/-! ## 5. Failed actions -/

/-- **What a failed action leaves alone.** On every bench and with every outside, an action that fails
leaves the result, the token, the editor with its caret, and the clipboard. The snapshot and the
session cache change only in a query for which a page was captured before the agent refused it, and
then the snapshot is that page; a setting changes only in a query, and only under the query's key. A
held gate, and short of an outside that gives this as its own answer nothing else, fails an action as
busy, and then nothing at all is changed.

What is in the stores and on the clipboard is whatever views of the outside are changed by successful
writes and copies only. -/
theorem trigger_failure {env : Environment σ} {stored : σ → String → Option String}
    {cached : σ → α} {copied : σ → β}
    (hStored : ∀ key, ChangesBy env (Exchange.Sets key) fun s => stored s key)
    (hCached : ChangesBy env Exchange.Caches cached)
    (hCopied : ChangesBy env Exchange.Copies copied)
    {a : Action} {b : Bench σ} {e : ClientError} (hFailed : (trigger env a b).1 = .error e) :
    let b' := (trigger env a b).2
    (b'.desk.result = b.desk.result ∧ b'.desk.token = b.desk.token ∧
      b'.desk.editor = b.desk.editor ∧ copied b'.outside = copied b.outside) ∧
    ∃ talk, b.Makes env talk b' ∧
      (b'.desk.snapshot ≠ b.desk.snapshot ∨ cached b'.outside ≠ cached b.outside →
        a = .runQuery ∧ ∃ s, b'.desk.snapshot = some s ∧ RefusedAfter talk s e) ∧
      (∀ key, stored b'.outside key ≠ stored b.outside key → a = .runQuery ∧ key = queryKey) ∧
      (b.desk.gate.isHeld = true → e = .busy ∧ b' = b) ∧
      (e = .busy → b' = b ∨ ∃ x ∈ talk, x.SaysBusy) := by
  intro b'
  cases hHeld : b.desk.gate.isHeld with
  | true =>
    have hRun : trigger env a b = (.error .busy, b) := trigger_held env a hHeld
    have hSame : b' = b := congrArg Prod.snd hRun
    rw [hRun] at hFailed
    cases hFailed
    rw [hSame]
    refine ⟨⟨rfl, rfl, rfl, rfl⟩, [], .refl env b, ?_, ?_, fun _ => ⟨rfl, rfl⟩,
      fun _ => Or.inl rfl⟩
    · rintro (hChanged | hChanged)
      · exact absurd rfl hChanged
      · exact absurd rfl hChanged
    · intro key hChanged
      exact absurd rfl hChanged
  | false =>
    obtain ⟨talk, d', hMakes, hEnds, hDesk⟩ := trigger_ends env a hHeld
    rw [hFailed] at hEnds hDesk
    have hSnapshot : b'.desk.snapshot = d'.snapshot := (congrArg Desk.snapshot hDesk).trans rfl
    obtain ⟨hResult, hToken, hEditor⟩ := hEnds.desk_of_error
    refine ⟨⟨?_, ?_, ?_, ?_⟩, talk, hMakes, ?_, ?_, ?_, ?_⟩
    · exact (congrArg Desk.result hDesk).trans hResult
    · exact (congrArg Desk.token hDesk).trans hToken
    · exact (congrArg Desk.editor hDesk).trans hEditor
    · exact hMakes.answered.view_eq hCopied fun x hMem => hEnds.not_copies_of_error hMem
    · rw [hSnapshot]
      intro hChanged
      rcases hEnds.spares_or_refusedAfter with ⟨hSame, hNone⟩ | hRefused
      · rcases hChanged with hChanged | hChanged
        · exact absurd hSame hChanged
        · exact absurd (hMakes.answered.view_eq hCached hNone) hChanged
      · exact hRefused
    · intro key hChanged
      by_cases hAllowed : a = .runQuery ∧ key = queryKey
      · exact hAllowed
      · exact absurd (hMakes.answered.view_eq (hStored key) fun x hMem hSets =>
          hAllowed (hEnds.sets_of_error hMem hSets)) hChanged
    · rintro ⟨⟩
    · rintro rfl
      exact Or.inr hEnds.saysBusy_of_error

/-- A query is ready to run, on a page that can be captured, for an agent that answers none. -/
def unansweredQuery : Bench Script where
  desk := { Desk.new .standard with token := "t", editor := .ofText "q".toList }
  outside :=
    { Script.ofSettings [] with
      tab := .ok 3
      replies := [.ok (.captured ⟨none, .preferred, "<main/>", none⟩)] }
  trace := []

theorem checkInputs_unansweredQuery : checkInputs unansweredQuery.desk = .ok ("t", "q") := by
  have hText : unansweredQuery.desk.editor.text = "q".toList := Query.Editor.text_render _ _
  have hToken : trim unansweredQuery.desk.token = "t" := by decide
  have hQuery : trim (String.ofList unansweredQuery.desk.editor.text) = "q" := by
    rw [hText]
    decide
  simp [checkInputs, hToken, hQuery]

/-- The page is captured for the query and its snapshot is kept. The query is remembered, and nothing
else is changed in the settings or on the clipboard. -/
theorem trigger_failure_of_unanswered_query :
    let b' := (trigger Script.environment .runQuery unansweredQuery).2
    (trigger Script.environment .runQuery unansweredQuery).1 = .error Script.noResult ∧
      b'.desk.result = none ∧ b'.desk.token = "t" ∧ b'.outside.copies = [] ∧
      (∃ talk s, b'.desk.snapshot = some s ∧ s.html = "<main/>" ∧
        RefusedAfter talk s Script.noResult) ∧
      b'.outside.settings.get? queryKey = some "q" ∧
      ∀ key, key ≠ queryKey → b'.outside.settings.get? key = none := by
  intro b'
  let held : Bench Script :=
    { unansweredQuery with desk := { unansweredQuery.desk with gate := ⟨true⟩ } }
  have hRun : trigger Script.environment .runQuery unansweredQuery =
      let (outcome, after) := runChecked Script.environment "t" "q" held
      (outcome, { after with desk := after.desk.afterWork outcome }) := by
    have hWork : Action.work Script.environment .runQuery held =
        runChecked Script.environment "t" "q" held := runQuery_of_checked _ checkInputs_unansweredQuery
    rw [trigger_free _ _ rfl, hWork]
    rfl
  have hFailed : (trigger Script.environment .runQuery unansweredQuery).1 =
      .error Script.noResult := by
    rw [hRun]
    rfl
  have hTaken : b'.desk.snapshot = some ⟨"<main/>", .full, .preferred, 7⟩ := by
    show (trigger Script.environment .runQuery unansweredQuery).2.desk.snapshot = _
    rw [hRun]
    rfl
  have hRemembered : b'.outside.settings.get? queryKey = some "q" := by
    show (trigger Script.environment .runQuery unansweredQuery).2.outside.settings.get? _ = _
    rw [hRun]
    rfl
  obtain ⟨⟨hResult, hToken, -, hCopies⟩, talk, -, hSnapshot, hSettings, -, -⟩ :=
    trigger_failure Script.settings_changesBy Script.session_changesBy Script.copies_changesBy
      hFailed
  have hChanged : b'.desk.snapshot ≠ unansweredQuery.desk.snapshot := by
    rw [hTaken]
    exact Option.some_ne_none _
  obtain ⟨-, s, hKept, hRefused⟩ := hSnapshot (Or.inl hChanged)
  have hHtml : s.html = "<main/>" :=
    congrArg Snapshot.html (Option.some.inj (hKept.symm.trans hTaken))
  refine ⟨hFailed, hResult, hToken, hCopies, ⟨talk, s, hKept, hHtml, hRefused⟩, hRemembered, ?_⟩
  intro key hOther
  by_cases hSame : b'.outside.settings.get? key = unansweredQuery.outside.settings.get? key
  · exact hSame
  · exact absurd (hSettings key hSame).2 hOther

/-- A page that itself answers that another action is running, at a bench whose gate is free. -/
def busyPage : Bench Script where
  desk := Desk.new .standard
  outside := { Script.ofSettings [] with tab := .error .busy }
  trace := []

/-- Then the action ends in that error with nobody at the gate, and the status tells of it. -/
theorem trigger_of_busyPage :
    let b' := (trigger Script.environment .capture busyPage).2
    busyPage.desk.gate.isHeld = false ∧
      (trigger Script.environment .capture busyPage).1 = .error .busy ∧
      busyPage.desk.status = "Ready." ∧
      b'.desk.status = "Error: another action is still running" ∧ b' ≠ busyPage := by
  intro b'
  have hBefore : busyPage.desk.status = "Ready." := rfl
  have hAfter : b'.desk.status = "Error: another action is still running" := by decide +kernel
  refine ⟨rfl, rfl, hBefore, hAfter, fun hSame => ?_⟩
  rw [hSame, hBefore] at hAfter
  exact absurd hAfter (by decide)

end PageQuery
