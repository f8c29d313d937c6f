import PageQuery.Proofs.Workbench.Scripted
/-!
How a capture goes.

A capture that does not use the snapshot at hand asks for a tab and sends it one request or two.
`IsPursuit` says which requests these are, and `Captures` what is said in all and what the capture
comes to, one case for each way it can end. `capture_contract` draws from these what can be relied on:
when nothing happens at all, when a capture succeeds, and what then becomes of the current snapshot and
of the session cache.
-/

namespace PageQuery

variable {σ : Type}

/-! ## 1. Requests -/

/-- A capture request and how it was answered. -/
structure Sent where
  request : CaptureRequest
  answer : Except ClientError CaptureReply

namespace Sent

def exchange (x : Sent) : Exchange := ⟨.capture x.request, x.answer⟩

/-- What a request comes to: a snapshot, or the reason why there is none. -/
def outcome (x : Sent) : Except ClientError Snapshot :=
  x.answer.bind fun reply => reply.snapshot x.request.scope

/-- A request fails if it is not delivered, and if the reply to it is a failure. -/
def Fails (x : Sent) : Prop := (∃ e, x.answer = .error e) ∨ ∃ m, x.answer = .ok (.failed m)

theorem fails_iff (x : Sent) : x.Fails ↔ ∃ e, x.outcome = .error e := by
  obtain ⟨request, answer⟩ := x
  cases answer with
  | error e => simp [Fails, outcome, Except.bind]
  | ok reply =>
    cases reply with
    | failed m => simp [Fails, outcome, Except.bind, CaptureReply.snapshot]
    | captured page => simp [Fails, outcome, Except.bind, CaptureReply.snapshot]

theorem not_fails_iff (x : Sent) : ¬ x.Fails ↔ ∃ s, x.outcome = .ok s := by
  rw [fails_iff]
  cases x.outcome with
  | error e => simp
  | ok s => simp

theorem sparesSession (x : Sent) : x.exchange.SparesSession := by
  rintro ⟨entries, h⟩
  cases h

end Sent

/-- The requests of one capture: the first for the primary scope, and a second one to the same tab
for the fallback scope exactly if the first fails and the fallback is another scope. -/
inductive IsPursuit (o : WorkbenchOptions) (tab : Nat) : List Sent → Prop
  | once {x : Sent} : x.request = ⟨tab, o.primary⟩ → ¬ (x.Fails ∧ o.fallback ≠ o.primary) →
      IsPursuit o tab [x]
  | twice {x y : Sent} : x.request = ⟨tab, o.primary⟩ → x.Fails → o.fallback ≠ o.primary →
      y.request = ⟨tab, o.fallback⟩ → IsPursuit o tab [x, y]

/-- Only the last of the requests can have succeeded. -/
theorem IsPursuit.exists_ok_iff {o : WorkbenchOptions} {tab : Nat} {sent : List Sent} {last : Sent}
    (h : IsPursuit o tab sent) (hLast : sent.getLast? = some last) :
    (∃ x ∈ sent, ¬ x.Fails) ↔ ∃ s, last.outcome = .ok s := by
  rw [← last.not_fails_iff]
  cases h with
  | once _ _ =>
    obtain rfl : _ = last := by simpa using hLast
    simp
  | twice _ hFails _ _ =>
    obtain rfl : _ = last := by simpa using hLast
    simp [hFails]

theorem requestSnapshot_spec (env : Environment σ) (tab : Nat) (scope : Scope) (b : Bench σ) :
    ∃ x : Sent, ∃ b', requestSnapshot env tab scope b = (x.outcome, b') ∧
      x.request = ⟨tab, scope⟩ ∧ b.Makes env [x.exchange] b' ∧ b'.desk = b.desk := by
  let x : Sent := ⟨⟨tab, scope⟩, (b.ask env (.capture ⟨tab, scope⟩)).1⟩
  refine ⟨x, (b.ask env (.capture ⟨tab, scope⟩)).2, ?_, rfl, .ask env _ b, rfl⟩
  rw [requestSnapshot, Task.bind_ok (ask_run env _ b)]
  show _ = ((b.ask env (.capture ⟨tab, scope⟩)).1.bind fun reply => reply.snapshot scope, _)
  cases (b.ask env (.capture ⟨tab, scope⟩)).1 with
  | error e => rfl
  | ok reply =>
    cases reply with
    | failed m => rfl
    | captured page => rfl

/-- Asking a tab for a snapshot sends the requests of a pursuit, and ends as the last of them does. -/
theorem requestEither_spec (env : Environment σ) (tab : Nat) (b : Bench σ) :
    ∃ sent last b' status, requestEither env tab b = (last.outcome, b') ∧
      IsPursuit b.desk.options tab sent ∧ sent.getLast? = some last ∧
      b.Makes env (sent.map Sent.exchange) b' ∧ b'.desk = { b.desk with status := status } := by
  obtain ⟨x, b₁, hFirst, hRequest, hMakes, hDesk⟩ :=
    requestSnapshot_spec env tab b.desk.options.primary b
  rw [requestEither, Task.bind_ok (theDesk_run b), Task.bind_ok (attempt_run hFirst)]
  cases hOutcome : x.outcome with
  | ok s =>
    have hOnce : ¬ (x.Fails ∧ b.desk.options.fallback ≠ b.desk.options.primary) := by
      rintro ⟨hFails, -⟩
      exact x.not_fails_iff.mpr ⟨s, hOutcome⟩ hFails
    refine ⟨[x], x, b₁, b.desk.status, ?_, .once hRequest hOnce, rfl, hMakes, hDesk⟩
    rw [hOutcome]
    rfl
  | error e =>
    have hFails : x.Fails := x.fails_iff.mpr ⟨e, hOutcome⟩
    by_cases hSame : b.desk.options.fallback = b.desk.options.primary
    · refine ⟨[x], x, b₁, b.desk.status, ?_, .once hRequest fun h => h.2 hSame, rfl, hMakes, hDesk⟩
      simp only [if_pos hSame, hOutcome]
      rfl
    · let status := retryingStatus b.desk.options.primary b.desk.options.fallback
      obtain ⟨y, b₂, hSecond, hRequest', hMakes', hDesk'⟩ :=
        requestSnapshot_spec env tab b.desk.options.fallback
          { b₁ with desk := { b₁.desk with status := status } }
      refine ⟨[x, y], y, b₂, status, ?_, .twice hRequest hFails hSame hRequest', rfl, ?_, ?_⟩
      · simp only [if_neg hSame]
        rw [setStatus, Task.bind_ok (onDesk_run _ b₁)]
        exact hSecond
      · exact (hMakes.thenDesk _).trans hMakes'
      · rw [hDesk', hDesk]

/-! ## 2. Captures -/

/-- What a snapshot is in the session cache. -/
def cacheEntries (s : Snapshot) : List (String × String) :=
  [(snapshotKey, s.html), (scopeKey, s.scope.name)]

/-- The ways a new capture can go: what is said, what it comes to, and the desk that it leaves. -/
inductive Captures (d : Desk) : List Exchange → Except ClientError Snapshot → Desk → Prop
  /-- There is no tab to ask. -/
  | noTab {e : ClientError} {status : String} :
      Captures d [⟨.activeTab, .error e⟩] (.error e) { d with status := status }
  /-- No request succeeds. -/
  | failed {tab : Nat} {sent : List Sent} {last : Sent} {e : ClientError} {status : String} :
      IsPursuit d.options tab sent → sent.getLast? = some last → last.outcome = .error e →
      Captures d (⟨.activeTab, .ok tab⟩ :: sent.map Sent.exchange) (.error e)
        { d with status := status }
  /-- A snapshot is taken and offered to the session cache, which may refuse it. -/
  | taken {tab : Nat} {sent : List Sent} {last : Sent} {s : Snapshot} (stored : Except Fault Unit) :
      IsPursuit d.options tab sent → sent.getLast? = some last → last.outcome = .ok s →
      Captures d
        (⟨.activeTab, .ok tab⟩ ::
          (sent.map Sent.exchange ++ [⟨.writeSession (cacheEntries s), stored⟩]))
        (.ok s) { d with status := capturedStatus s stored.isOk, snapshot := some s }

/-- A capture changes nothing on the desk but the status and the snapshot. -/
theorem Captures.desk_eq {d d' : Desk} {talk : List Exchange}
    {outcome : Except ClientError Snapshot} (h : Captures d talk outcome d') :
    d' = { d with status := d'.status, snapshot := d'.snapshot } := by
  cases h with
  | noTab => rfl
  | failed _ _ _ => rfl
  | taken _ _ _ _ => rfl

theorem persistSnapshot_run (env : Environment σ) (s : Snapshot) (b : Bench σ) :
    persistSnapshot env s b =
      (.ok (b.ask env (.writeSession (cacheEntries s))).1.isOk,
        (b.ask env (.writeSession (cacheEntries s))).2) := by
  rw [persistSnapshot, Task.bind_ok (ask_run env _ b)]
  show (match (b.ask env (.writeSession (cacheEntries s))).1 with
    | .ok _ => pure true
    | .error _ => pure false : Task σ Bool) (b.ask env (.writeSession (cacheEntries s))).2 = _
  cases (b.ask env (.writeSession (cacheEntries s))).1 with
  | ok _ => rfl
  | error f => rfl

theorem captureAfresh_spec (env : Environment σ) (b : Bench σ) :
    ∃ talk outcome b', captureAfresh env b = (outcome, b') ∧ b.Makes env talk b' ∧
      Captures b.desk talk outcome b'.desk := by
  let d := { b.desk with status := capturingStatus b.desk.options.primary }
  have hStatus : setStatus (σ := σ) (capturingStatus b.desk.options.primary) b =
      (.ok (), { b with desk := d }) := rfl
  have hAsked : b.Makes env [⟨.activeTab, (({ b with desk := d } : Bench σ).ask env .activeTab).1⟩]
      (({ b with desk := d } : Bench σ).ask env .activeTab).2 :=
    (Bench.Makes.desk env b d).trans (.ask env .activeTab { b with desk := d })
  rw [captureAfresh, Task.bind_ok (theDesk_run b), Task.bind_ok hStatus,
    Task.bind_ok (ask_run env _ _)]
  have hDesk : (({ b with desk := d } : Bench σ).ask env .activeTab).2.desk = d := rfl
  generalize (({ b with desk := d } : Bench σ).ask env .activeTab).2 = b₁ at hAsked hDesk ⊢
  generalize (({ b with desk := d } : Bench σ).ask env .activeTab).1 = found at hAsked ⊢
  cases found with
  | error e =>
    refine ⟨_, .error e, b₁, rfl, hAsked, ?_⟩
    rw [hDesk]
    exact .noTab
  | ok tab =>
    obtain ⟨sent, last, b₂, status, hRun, hPursuit, hLast, hMakes, hDesk'⟩ :=
      requestEither_spec env tab b₁
    have hTab : orFail (.ok tab) b₁ = (.ok tab, b₁) := rfl
    rw [hDesk] at hPursuit hDesk'
    rw [Task.bind_ok hTab]
    cases hOutcome : last.outcome with
    | error e =>
      rw [hOutcome] at hRun
      refine ⟨_, .error e, b₂, Task.bind_error hRun _, hAsked.trans hMakes, ?_⟩
      rw [hDesk']
      exact .failed hPursuit hLast hOutcome
    | ok s =>
      rw [hOutcome] at hRun
      rw [Task.bind_ok hRun, Task.bind_ok (persistSnapshot_run env s b₂)]
      let stored := (b₂.ask env (.writeSession (cacheEntries s))).1
      have hSaid := (hAsked.trans hMakes).trans (.ask env (.writeSession (cacheEntries s)) b₂)
      rw [List.append_assoc] at hSaid
      refine ⟨_, .ok s, _, rfl, hSaid.thenDesk _, ?_⟩
      show Captures b.desk _ _
        { b₂.desk with status := capturedStatus s stored.isOk, snapshot := some s }
      rw [hDesk']
      exact .taken stored hPursuit hLast hOutcome

/-! ## 3. The status of a capture -/

/-- The status says that the session cache was passed over. -/
def SaysSkipped (status : String) : Prop := "cache skipped".toList <:+: status.toList

theorem capturedStatus_eq (s : Snapshot) (cached : Bool) :
    capturedStatus s cached =
      "Captured " ++ natText s.sizeBytes ++ " bytes (" ++ s.scope.name ++ "/" ++ s.source.name ++
        ")" ++ (if cached then "" else " | cache skipped") ++ "." := rfl

theorem not_mem_natText {c : Char} (h : c.isDigit = false) (n : Nat) : c ∉ (natText n).toList := by
  intro hMem
  rw [natText, String.toList_ofList] at hMem
  have hDigit : c.isDigit = true := Nat.isDigit_of_mem_toDigits (by omega) (by omega) hMem
  rw [h] at hDigit
  exact absurd hDigit Bool.false_ne_true

/-- Of the letters that tell the words apart, only the name of the source can bring one in. -/
theorem mem_source_of_mem_capturedStatus {s : Snapshot} {c : Char} (hLetter : c = 'h' ∨ c = 'k')
    (hMem : c ∈ (capturedStatus s true).toList) : c ∈ s.source.name.toList := by
  have hDigit : c.isDigit = false := by
    rcases hLetter with rfl | rfl
    · decide
    · decide
  have hSize := not_mem_natText hDigit s.sizeBytes
  have hScope : c ∉ s.scope.name.toList := by
    rcases hLetter with rfl | rfl
    · cases s.scope <;> decide
    · cases s.scope <;> decide
  simp only [capturedStatus_eq, String.toList_append, List.mem_append] at hMem
  rcases hLetter with rfl | rfl
  · simpa [hSize, hScope] using hMem
  · simpa [hSize, hScope] using hMem

/-- A capture says so exactly if the cache refused the snapshot. The names of scopes and sources are
fixed, and none of them can be taken for these words. -/
theorem saysSkipped_capturedStatus (s : Snapshot) (cached : Bool) :
    SaysSkipped (capturedStatus s cached) ↔ cached = false := by
  cases cached with
  | false =>
    simp only [iff_true]
    refine ⟨("Captured " ++ natText s.sizeBytes ++ " bytes (" ++ s.scope.name ++ "/" ++
      s.source.name ++ ")" ++ " | ").toList, ['.'], ?_⟩
    simp [capturedStatus_eq]
  | true =>
    simp only [Bool.true_eq_false, iff_false]
    intro hSays
    have hFirst : 'h' ∈ s.source.name.toList :=
      mem_source_of_mem_capturedStatus (Or.inl rfl) (hSays.subset (by decide))
    have hSecond : 'k' ∈ s.source.name.toList :=
      mem_source_of_mem_capturedStatus (Or.inr rfl) (hSays.subset (by decide))
    revert hFirst hSecond
    cases s.source <;> decide

/-! ## 4. What a capture guarantees -/

/-- The snapshot at hand is used again: none is forced, and it is of the primary scope and not
empty. -/
def Desk.Reuses (d : Desk) (force : Bool) : Prop :=
  force = false ∧ ∃ s, d.snapshot = some s ∧ s.scope = d.options.primary ∧ s.html ≠ ""

theorem reusable?_eq_some_iff {d : Desk} {s : Snapshot} :
    d.reusable? = some s ↔ d.snapshot = some s ∧ s.scope = d.options.primary ∧ s.html ≠ "" := by
  simp [Desk.reusable?, Option.filter_eq_some_iff]

theorem capture_of_reuses (env : Environment σ) {force : Bool} {b : Bench σ}
    (h : b.desk.Reuses force) :
    ∃ s, b.desk.snapshot = some s ∧ capture env force b = (.ok s, b) := by
  obtain ⟨rfl, s, hSnapshot, hScope, hHtml⟩ := h
  have hReusable : b.desk.reusable? = some s :=
    reusable?_eq_some_iff.mpr ⟨hSnapshot, hScope, hHtml⟩
  refine ⟨s, hSnapshot, ?_⟩
  rw [capture, Task.bind_ok (theDesk_run b)]
  simp only [Bool.false_eq_true, if_false, hReusable]
  rfl

theorem capture_of_not_reuses (env : Environment σ) {force : Bool} {b : Bench σ}
    (h : ¬ b.desk.Reuses force) : capture env force b = captureAfresh env b := by
  rw [capture, Task.bind_ok (theDesk_run b)]
  cases force with
  | true => rfl
  | false =>
    have hNone : b.desk.reusable? = none := by
      cases hReusable : b.desk.reusable? with
      | none => rfl
      | some s => exact absurd ⟨rfl, s, reusable?_eq_some_iff.mp hReusable⟩ h
    simp only [Bool.false_eq_true, if_false, hNone]

/-- A new capture begins with a question, so it does not go unnoticed. -/
theorem Captures.talk_ne_nil {d d' : Desk} {talk : List Exchange}
    {outcome : Except ClientError Snapshot} (h : Captures d talk outcome d') : talk ≠ [] := by
  cases h with
  | noTab => simp
  | failed _ _ _ => simp
  | taken _ _ _ _ => simp

/-- What the session cache holds after an accepted snapshot: its markup and its scope, and all else
as before. -/
theorem entriesOver_cacheEntries (s : Snapshot) (held : String → Option String) :
    entriesOver (cacheEntries s) held snapshotKey = some s.html ∧
      entriesOver (cacheEntries s) held scopeKey = some s.scope.name ∧
      ∀ key, key ≠ snapshotKey → key ≠ scopeKey →
        entriesOver (cacheEntries s) held key = held key := by
  have hKeys : scopeKey ≠ snapshotKey := by decide
  refine ⟨?_, ?_, fun key hHtml hScope => ?_⟩
  · simp [entriesOver, cacheEntries, hKeys]
  · simp [entriesOver, cacheEntries]
  · simp [entriesOver, cacheEntries, Ne.symm hHtml, Ne.symm hScope]

/-- What becomes of the session cache while requests are sent. -/
theorem foldl_sessionAfter_sent (sent : List Sent) (held : String → Option String) :
    (sent.map Sent.exchange).foldl Exchange.sessionAfter held = held := by
  refine foldl_sessionAfter_of_spares (fun x hMem => ?_) held
  obtain ⟨y, -, rfl⟩ := List.mem_map.mp hMem
  exact y.sparesSession

/-- A new capture, told by its end: which requests were sent, which of them decided, and what was
written to the session cache. -/
theorem Captures.account {d d' : Desk} {talk : List Exchange}
    {outcome : Except ClientError Snapshot} (h : Captures d talk outcome d') :
    ∃ found sent writes, talk = ⟨.activeTab, found⟩ :: (sent.map Sent.exchange ++ writes) ∧
      (∀ e, found = .error e → sent = [] ∧ outcome = .error e) ∧
      (∀ tab, found = .ok tab → IsPursuit d.options tab sent ∧
        ∃ last, sent.getLast? = some last ∧ outcome = last.outcome) ∧
      ((∃ s, outcome = .ok s) ↔ ∃ x ∈ sent, ¬ x.Fails) ∧
      (∀ s, outcome = .ok s → d'.snapshot = some s ∧
        ∃ stored, writes = [⟨.writeSession (cacheEntries s), stored⟩] ∧
          d'.status = capturedStatus s stored.isOk) ∧
      ∀ e, outcome = .error e → writes = [] ∧ d'.snapshot = d.snapshot := by
  cases h with
  | @noTab e status =>
    refine ⟨.error e, [], [], rfl, ?_, ?_, ?_, ?_, ?_⟩
    · rintro _ ⟨⟩
      exact ⟨rfl, rfl⟩
    · rintro _ ⟨⟩
    · simp
    · rintro _ ⟨⟩
    · rintro _ -
      exact ⟨rfl, rfl⟩
  | @failed tab sent last e status hPursuit hLast hOutcome =>
    refine ⟨.ok tab, sent, [], by simp, ?_, ?_, ?_, ?_, ?_⟩
    · rintro _ ⟨⟩
    · rintro _ ⟨⟩
      exact ⟨hPursuit, last, hLast, hOutcome.symm⟩
    · rw [hPursuit.exists_ok_iff hLast, hOutcome]
    · rintro _ ⟨⟩
    · rintro _ -
      exact ⟨rfl, rfl⟩
  | @taken tab sent last s stored hPursuit hLast hOutcome =>
    refine ⟨.ok tab, sent, [⟨.writeSession (cacheEntries s), stored⟩], rfl, ?_, ?_, ?_, ?_, ?_⟩
    · rintro _ ⟨⟩
    · rintro _ ⟨⟩
      exact ⟨hPursuit, last, hLast, hOutcome.symm⟩
    · rw [hPursuit.exists_ok_iff hLast, hOutcome]
    · rintro _ ⟨⟩
      exact ⟨rfl, stored, rfl, rfl⟩
    · rintro _ ⟨⟩

/-- The calls that a capture makes: for a tab, to it, and to the session cache. -/
def Call.IsOfCapture : Call → Prop
  | activeTab | capture _ | writeSession _ => True
  | _ => False

theorem Captures.isOfCapture {d d' : Desk} {talk : List Exchange}
    {outcome : Except ClientError Snapshot} (h : Captures d talk outcome d') :
    ∀ x ∈ talk, x.call.IsOfCapture := by
  obtain ⟨found, sent, writes, rfl, -, -, -, hTaken, hFailed⟩ := h.account
  intro x hMem
  rcases List.mem_cons.mp hMem with rfl | hMem
  · trivial
  rcases List.mem_append.mp hMem with hSent | hWrite
  · obtain ⟨y, -, rfl⟩ := List.mem_map.mp hSent
    trivial
  cases outcome with
  | ok s =>
    obtain ⟨-, stored, rfl, -⟩ := hTaken s rfl
    rw [List.mem_singleton.mp hWrite]
    trivial
  | error e =>
    rw [(hFailed e rfl).1] at hWrite
    cases hWrite

/-- What a conversation of this form does to the session cache is the work of its writes. -/
theorem foldl_sessionAfter_capture (found : Except ClientError Nat) (sent : List Sent)
    (writes : List Exchange) (held : String → Option String) :
    (⟨.activeTab, found⟩ :: (sent.map Sent.exchange ++ writes)).foldl Exchange.sessionAfter held =
      writes.foldl Exchange.sessionAfter held := by
  rw [List.foldl_cons, List.foldl_append, foldl_sessionAfter_sent]
  rfl

/-- A reply read off the wire is a failure unless it claims success and has a text of markup. -/
theorem ofJson_failed_iff (v : Json) : (∃ m, CaptureReply.ofJson v = .failed m) ↔
    ¬ (v.get? "ok" = some (.bool true) ∧ ∃ html, v.get? "html" = some (.str html)) := by
  have hOk : (v.get? "ok").bind Json.asBool? = some true ↔ v.get? "ok" = some (.bool true) := by
    simp [Option.bind_eq_some_iff, Json.asBool?_eq_some_iff]
  simp only [← hOk, ← Json.string?_eq_some_iff, CaptureReply.ofJson]
  split
  · next html hClaims hGiven => simp [hClaims, hGiven]
  · next hNot =>
    refine ⟨fun _ h => ?_, fun _ => ⟨_, rfl⟩⟩
    obtain ⟨hClaims, html, hGiven⟩ := h
    exact hNot html hClaims hGiven

/-- **What a capture guarantees.** With any channel, and with any session cache that stores a write
whole or not at all: if the snapshot at hand is used again, nothing is asked and nothing changes, and
conversely. Otherwise the capture asks for the active tab once. Without a tab it sends no request and
fails as that question did; with one it sends the requests of a pursuit, and ends as the last of them.
It succeeds exactly if one of them did not fail. The snapshot is then the current one, and it is in the
session cache, or else the status says `cache skipped` and the cache is as it was. After a failure
snapshot and cache are as they were. The last part says which replies count as failures when they are
read off the wire. -/
theorem capture_contract {env : Environment σ} {held : σ → String → Option String}
    (hKeeps : KeepsSession env held) (force : Bool) (b : Bench σ) :
    let outcome := (capture env force b).1
    let b' := (capture env force b).2
    ∃ talk, b.Makes env talk b' ∧
      (talk = [] ↔ b.desk.Reuses force) ∧
      (b' = b ↔ b.desk.Reuses force) ∧
      (b.desk.Reuses force → ∃ s, b.desk.snapshot = some s ∧ outcome = .ok s) ∧
      (¬ b.desk.Reuses force → ∃ found sent writes,
        talk = ⟨.activeTab, found⟩ :: (sent.map Sent.exchange ++ writes) ∧
        (∀ e, found = .error e → sent = [] ∧ outcome = .error e) ∧
        (∀ tab, found = .ok tab → IsPursuit b.desk.options tab sent ∧
          ∃ last, sent.getLast? = some last ∧ outcome = last.outcome) ∧
        ((∃ s, outcome = .ok s) ↔ ∃ x ∈ sent, ¬ x.Fails) ∧
        (∀ s, outcome = .ok s → b'.desk.snapshot = some s ∧
          ∃ stored, writes = [⟨.writeSession (cacheEntries s), stored⟩] ∧
            (SaysSkipped b'.desk.status ↔ ∃ f, stored = .error f) ∧
            (SaysSkipped b'.desk.status → held b'.outside = held b.outside) ∧
            (¬ SaysSkipped b'.desk.status →
              held b'.outside snapshotKey = some s.html ∧
              held b'.outside scopeKey = some s.scope.name ∧
              ∀ key, key ≠ snapshotKey → key ≠ scopeKey →
                held b'.outside key = held b.outside key)) ∧
        (∀ e, outcome = .error e → writes = [] ∧ b'.desk.snapshot = b.desk.snapshot ∧
          held b'.outside = held b.outside)) ∧
      (∀ v, (∃ m, CaptureReply.ofJson v = .failed m) ↔
        ¬ (v.get? "ok" = some (.bool true) ∧ ∃ html, v.get? "html" = some (.str html))) := by
  intro outcome b'
  by_cases hReuses : b.desk.Reuses force
  · obtain ⟨s, hSnapshot, hRun⟩ := capture_of_reuses env hReuses
    have hSame : b' = b := congrArg Prod.snd hRun
    have hOutcome : outcome = .ok s := congrArg Prod.fst hRun
    refine ⟨[], ?_, by simp [hReuses], by simp [hReuses, hSame],
      fun _ => ⟨s, hSnapshot, hOutcome⟩, fun h => absurd hReuses h, ofJson_failed_iff⟩
    rw [hSame]
    exact .refl env b
  · obtain ⟨talk, outcome', b₁, hRun, hMakes, hCaptures⟩ := captureAfresh_spec env b
    have hRun' : capture env force b = (outcome', b₁) :=
      (capture_of_not_reuses env hReuses).trans hRun
    obtain rfl : outcome' = outcome := (congrArg Prod.fst hRun').symm
    obtain rfl : b₁ = b' := (congrArg Prod.snd hRun').symm
    have hNotNil : talk ≠ [] := hCaptures.talk_ne_nil
    have hChanged : b' ≠ b := by
      intro hSame
      exact hNotNil (Bench.Makes.eq_nil (b := b) (by rw [hSame] at hMakes; exact hMakes))
    have hHeld : held b'.outside = talk.foldl Exchange.sessionAfter (held b.outside) :=
      hMakes.answered.held_eq hKeeps
    obtain ⟨found, sent, writes, hTalk, hNoTab, hPursued, hSuccess, hTaken, hFailed⟩ :=
      hCaptures.account
    rw [hTalk, foldl_sessionAfter_capture] at hHeld
    refine ⟨talk, hMakes, by simp [hReuses, hNotNil], by simp [hReuses, hChanged],
      fun h => absurd h hReuses, fun _ => ?_, ofJson_failed_iff⟩
    refine ⟨found, sent, writes, hTalk, hNoTab, hPursued, hSuccess, fun s hOutcome => ?_,
      fun e hOutcome => ?_⟩
    · obtain ⟨hSnapshot, stored, hWrites, hStatus⟩ := hTaken s hOutcome
      have hSays : SaysSkipped b'.desk.status ↔ stored.isOk = false := by
        rw [hStatus]
        exact saysSkipped_capturedStatus s stored.isOk
      rw [hWrites] at hHeld
      refine ⟨hSnapshot, stored, hWrites, ?_, fun hSkipped => ?_, fun hKept => ?_⟩
      · rw [hSays]
        cases stored <;> simp [Except.isOk, Except.toBool]
      · cases stored with
        | ok _ => exact absurd (hSays.mp hSkipped) (by simp [Except.isOk, Except.toBool])
        | error f => exact hHeld
      · cases stored with
        | ok _ =>
          rw [hHeld]
          exact entriesOver_cacheEntries s (held b.outside)
        | error f => exact absurd (hSays.mpr rfl) hKept
    · obtain ⟨hWrites, hSnapshot⟩ := hFailed e hOutcome
      rw [hWrites] at hHeld
      exact ⟨hWrites, hSnapshot, hHeld⟩

/-- A tab that refuses the whole page and gives its main content. -/
def refusesFull : Script :=
  { Script.ofSettings [] with
    tab := .ok 3
    replies := [.ok (.failed "frame blocked"), .ok (.captured ⟨none, .preferred, "<main/>", none⟩)]
    session := .empty 100 }

/-- The main content is captured in the place of the page, and is in the session cache. -/
theorem capture_of_refused_page :
    let b := Bench.new .standard refusesFull
    let b' := (capture Script.environment true b).2
    KeepsSession Script.environment (fun s => s.session.get?) ∧ ¬ b.desk.Reuses true ∧
      ∃ s, (capture Script.environment true b).1 = .ok s ∧ b'.desk.snapshot = some s ∧
        b'.outside.session.get? snapshotKey = some s.html ∧
        b'.outside.session.get? scopeKey = some s.scope.name := by
  intro b b'
  have hAfresh : ¬ b.desk.Reuses true := fun h => Bool.false_ne_true h.1.symm
  obtain ⟨talk, -, -, -, -, hNew, -⟩ := capture_contract Script.keepsSession true b
  obtain ⟨found, sent, writes, -, -, -, -, hTaken, -⟩ := hNew hAfresh
  have hOutcome : (capture Script.environment true b).1 =
      .ok ⟨"<main/>", .main, .preferred, 7⟩ := rfl
  obtain ⟨hSnapshot, stored, -, -, -, hHeld⟩ := hTaken _ hOutcome
  have hStatus : (capture Script.environment true b).2.desk.status =
      capturedStatus ⟨"<main/>", .main, .preferred, 7⟩ true := rfl
  have hKept : ¬ SaysSkipped (capture Script.environment true b).2.desk.status := by
    rw [hStatus, saysSkipped_capturedStatus]
    simp
  obtain ⟨hHtml, hScope, -⟩ := hHeld hKept
  exact ⟨Script.keepsSession, hAfresh, _, hOutcome, hSnapshot, hHtml, hScope⟩

/-- Without a tab no request is sent, though the snapshot at hand is not used. -/
theorem capture_without_tab :
    let b := Bench.new .standard (Script.ofSettings [])
    let b' := (capture Script.environment true b).2
    ¬ b.desk.Reuses true ∧ b'.calls = [.activeTab] ∧
      (capture Script.environment true b).1 = .error Script.noReply := by
  exact ⟨fun h => Bool.false_ne_true h.1.symm, rfl, rfl⟩

end PageQuery
