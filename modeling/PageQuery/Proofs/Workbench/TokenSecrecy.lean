import PageQuery.Proofs.Text.Basic
import PageQuery.Proofs.Workbench.FallibleSettings
/-!
Where the token goes.

Two workbenches with different tokens are worked side by side. `Concurs` says of a task and its
counterpart that between benches which differ in the token alone the same is said, but for the token
itself, and that both come to the same; it holds of single steps and goes on over binds, so each task is
followed once. What is asked of the outsides is `AnswersAlike`: no answer tells which token is in use. Then
nothing else does, which is `token_is_secret`.
-/

namespace PageQuery

open Text

variable {σ σ' α α' β β' : Type}

/-! ## 1. Twins -/

def Desk.withToken (d : Desk) (token : String) : Desk := { d with token := token }

/-- Desks that differ in the token alone, which is not blank on either. -/
inductive Desk.IsTwin (d : Desk) : Desk → Prop
  | differing {token : String} : isAllBlank d.token = false → isAllBlank token = false →
      IsTwin d (d.withToken token)

theorem Desk.IsTwin.status_eq {d d' : Desk} (h : d.IsTwin d') : d'.status = d.status := by
  cases h
  rfl

/-- Exchanges that differ in the token alone: it is an argument of a query, and the value of its own
setting. -/
inductive Exchange.IsTwin : Exchange → Exchange → Prop
  | same (x : Exchange) : IsTwin x x
  | query (token token' : String) (r : QueryRequest) (reply : Except ClientError QueryResult) :
      IsTwin ⟨.query token r, reply⟩ ⟨.query token' r, reply⟩
  | saved (token token' : String) (reply : Except Fault Unit) :
      IsTwin ⟨.writeSetting tokenKey token, reply⟩ ⟨.writeSetting tokenKey token', reply⟩

/-- Two outsides answer alike, and go on doing so. They need not hold the same token, as long as nobody
reads it. -/
structure AnswersAlike (env : Environment σ) (env' : Environment σ') (R : σ → σ' → Prop) : Prop where
  same {c : Call} {s : σ} {s' : σ'} : R s s' → c ≠ .readSetting tokenKey →
    (env c s).1 = (env' c s').1 ∧ R (env c s).2 (env' c s').2
  query (token token' : String) (r : QueryRequest) {s : σ} {s' : σ'} : R s s' →
    (env (.query token r) s).1 = (env' (.query token' r) s').1 ∧
      R (env (.query token r) s).2 (env' (.query token' r) s').2
  saved (token token' : String) {s : σ} {s' : σ'} : R s s' →
    (env (.writeSetting tokenKey token) s).1 = (env' (.writeSetting tokenKey token') s').1 ∧
      R (env (.writeSetting tokenKey token) s).2 (env' (.writeSetting tokenKey token') s').2

/-- Outcomes agree: either both succeed, or both fail for the same reason. -/
inductive OutcomesAgree (V : α → α' → Prop) :
    Except ClientError α → Except ClientError α' → Prop
  | ok {a : α} {a' : α'} : V a a' → OutcomesAgree V (.ok a) (.ok a')
  | error (e : ClientError) : OutcomesAgree V (.error e) (.error e)

theorem OutcomesAgree.refl (outcome : Except ClientError α) : OutcomesAgree Eq outcome outcome := by
  cases outcome with
  | ok a => exact .ok rfl
  | error e => exact .error e

theorem OutcomesAgree.eq {outcome outcome' : Except ClientError α}
    (h : OutcomesAgree Eq outcome outcome') : outcome' = outcome := by
  cases h with
  | ok hValue => rw [hValue]
  | error e => rfl

/-- Between twin benches two tasks say the same, but for tokens, come to outcomes that agree, and leave
twins. -/
def Task.Concurs (env : Environment σ) (env' : Environment σ') (R : σ → σ' → Prop)
    (V : α → α' → Prop) (t : Task σ α) (t' : Task σ' α') : Prop :=
  ∀ b b', b.desk.IsTwin b'.desk → R b.outside b'.outside →
    ∃ talk talk', b.Makes env talk (t b).2 ∧ b'.Makes env' talk' (t' b').2 ∧
      List.Forall₂ Exchange.IsTwin talk talk' ∧ OutcomesAgree V (t b).1 (t' b').1 ∧
      (t b).2.desk.IsTwin (t' b').2.desk ∧ R (t b).2.outside (t' b').2.outside

/-! ## 2. Single steps -/

namespace Task.Concurs

variable {env : Environment σ} {env' : Environment σ'} {R : σ → σ' → Prop}
variable {V : α → α' → Prop} {W : β → β' → Prop}

theorem bind {t : Task σ α} {t' : Task σ' α'} {f : α → Task σ β} {f' : α' → Task σ' β'}
    (ht : Concurs env env' R V t t') (hf : ∀ a a', V a a' → Concurs env env' R W (f a) (f' a')) :
    Concurs env env' R W (t >>= f) (t' >>= f') := by
  intro b b' hDesk hOutside
  obtain ⟨talk, talk', hMakes, hMakes', hTalk, hOutcome, hDesk₁, hOutside₁⟩ :=
    ht b b' hDesk hOutside
  rw [Task.bind_run, Task.bind_run]
  rcases hRun : t b with ⟨outcome, b₁⟩
  rcases hRun' : t' b' with ⟨outcome', b₁'⟩
  rw [hRun] at hMakes hOutcome hDesk₁ hOutside₁
  rw [hRun'] at hMakes' hOutcome hDesk₁ hOutside₁
  cases hOutcome with
  | error e => exact ⟨talk, talk', hMakes, hMakes', hTalk, .error e, hDesk₁, hOutside₁⟩
  | ok hValue =>
    obtain ⟨more, more', hMore, hMore', hTalk', hOutcome', hDesk₂, hOutside₂⟩ :=
      hf _ _ hValue b₁ b₁' hDesk₁ hOutside₁
    exact ⟨talk ++ more, talk' ++ more', hMakes.trans hMore, hMakes'.trans hMore',
      List.rel_append hTalk hTalk', hOutcome', hDesk₂, hOutside₂⟩

/-- What comes to the same goes on from there. -/
theorem bind_same {t : Task σ α} {t' : Task σ' α} {f : α → Task σ β} {f' : α → Task σ' β'}
    (ht : Concurs env env' R Eq t t') (hf : ∀ a, Concurs env env' R W (f a) (f' a)) :
    Concurs env env' R W (t >>= f) (t' >>= f') := by
  refine ht.bind ?_
  rintro a _ rfl
  exact hf a

/-- Without a question and without a change, what counts are the outcomes. -/
theorem of_outcome {outcome : Except ClientError α} {outcome' : Except ClientError α'}
    (h : OutcomesAgree V outcome outcome') :
    Concurs env env' R V (fun b => (outcome, b)) (fun b => (outcome', b)) :=
  fun b b' hDesk hOutside =>
    ⟨[], [], .refl env b, .refl env' b', .nil, h, hDesk, hOutside⟩

theorem pure {a : α} {a' : α'} (h : V a a') : Concurs env env' R V (Pure.pure a) (Pure.pure a') :=
  of_outcome (.ok h)

theorem throw (e : ClientError) :
    Concurs env env' R V (throw e : Task σ α) (MonadExcept.throw e : Task σ' α') :=
  of_outcome (.error e)

theorem orFail {answer : Except ClientError α} {answer' : Except ClientError α'}
    (h : OutcomesAgree V answer answer') :
    Concurs env env' R V (PageQuery.orFail answer) (PageQuery.orFail answer') := by
  cases h with
  | ok hValue => exact pure hValue
  | error e => exact throw e

theorem orStorage (answer : Except Fault α) :
    Concurs env env' R Eq (PageQuery.orStorage answer) (PageQuery.orStorage answer) := by
  cases answer with
  | ok a => exact pure rfl
  | error f => exact throw _

theorem theDesk : Concurs env env' R Desk.IsTwin theDesk PageQuery.theDesk :=
  fun b b' hDesk hOutside =>
    ⟨[], [], .refl env b, .refl env' b', .nil, .ok hDesk, hDesk, hOutside⟩

theorem attempt {t : Task σ α} {t' : Task σ' α'} (h : Concurs env env' R V t t') :
    Concurs env env' R (OutcomesAgree V) (attempt t) (PageQuery.attempt t') := by
  intro b b' hDesk hOutside
  obtain ⟨talk, talk', hMakes, hMakes', hTalk, hOutcome, hTwins⟩ := h b b' hDesk hOutside
  exact ⟨talk, talk', hMakes, hMakes', hTalk, .ok hOutcome, hTwins⟩

/-- Changes of the desk that take twins to twins. -/
theorem onDesk {f f' : Desk → Desk} (h : ∀ d d', d.IsTwin d' → (f d).IsTwin (f' d')) :
    Concurs env env' R Eq (onDesk f) (PageQuery.onDesk f') :=
  fun b b' hDesk hOutside =>
    ⟨[], [], .desk env b _, .desk env' b' _, .nil, .ok rfl, h _ _ hDesk, hOutside⟩

/-- A change that has nothing to do with the token. -/
theorem onDesk_other {f : Desk → Desk}
    (h : ∀ d token, f (d.withToken token) = (f d).withToken token) :
    Concurs env env' R Eq (PageQuery.onDesk f) (PageQuery.onDesk f) := by
  refine onDesk fun d d' hTwin => ?_
  cases hTwin with
  | @differing token hLeft hRight =>
    have hSelf : f d = (f d).withToken d.token := h d d.token
    have hToken : (f d).token = d.token := (congrArg Desk.token hSelf).trans rfl
    rw [h]
    exact .differing (hToken ▸ hLeft) hRight

theorem setStatus (s : String) : Concurs env env' R Eq (setStatus s) (PageQuery.setStatus s) :=
  onDesk_other fun _ _ => rfl

variable (hAlike : AnswersAlike env env' R)

include hAlike

/-- The same question, unless it is for the token. -/
theorem ask {c : Call} (h : c ≠ .readSetting tokenKey) :
    Concurs env env' R Eq (ask env c) (PageQuery.ask env' c) := by
  intro b b' hDesk hOutside
  obtain ⟨hReply, hAfter⟩ := hAlike.same hOutside h
  refine ⟨_, _, .ask env c b, .ask env' c b', .cons ?_ .nil, ?_, hDesk, hAfter⟩
  · rw [show (b'.ask env' c).1 = (b.ask env c).1 from hReply.symm]
    exact .same _
  · exact .ok hReply

theorem askQuery (token token' : String) (r : QueryRequest) :
    Concurs env env' R Eq (PageQuery.ask env (.query token r))
      (PageQuery.ask env' (.query token' r)) := by
  intro b b' hDesk hOutside
  obtain ⟨hReply, hAfter⟩ := hAlike.query token token' r hOutside
  refine ⟨_, _, .ask env _ b, .ask env' _ b', .cons ?_ .nil, .ok hReply, hDesk, hAfter⟩
  rw [show (b'.ask env' (.query token' r)).1 = (b.ask env (.query token r)).1 from hReply.symm]
  exact .query token token' r _

theorem askSaved (token token' : String) :
    Concurs env env' R Eq (PageQuery.ask env (.writeSetting tokenKey token))
      (PageQuery.ask env' (.writeSetting tokenKey token')) := by
  intro b b' hDesk hOutside
  obtain ⟨hReply, hAfter⟩ := hAlike.saved token token' hOutside
  refine ⟨_, _, .ask env _ b, .ask env' _ b', .cons ?_ .nil, .ok hReply, hDesk, hAfter⟩
  rw [show (b'.ask env' (.writeSetting tokenKey token')).1 =
    (b.ask env (.writeSetting tokenKey token)).1 from hReply.symm]
  exact .saved token token' _

/-! ## 3. Captures -/

theorem requestSnapshot (tab : Nat) (scope : Scope) :
    Concurs env env' R Eq (requestSnapshot env tab scope) (PageQuery.requestSnapshot env' tab scope) := by
  refine (ask hAlike (by simp)).bind_same fun answer => ?_
  refine (orFail (.refl answer)).bind_same fun reply => ?_
  exact orFail (.refl _)

theorem requestEither (tab : Nat) :
    Concurs env env' R Eq (requestEither env tab) (PageQuery.requestEither env' tab) := by
  refine theDesk.bind fun d d' hTwin => ?_
  cases hTwin with
  | differing hLeft hRight =>
    refine (attempt (requestSnapshot hAlike tab d.options.primary)).bind fun _ _ hOutcome => ?_
    cases hOutcome with
    | ok hSame => exact pure hSame
    | error e =>
      by_cases hFallback : d.options.fallback = d.options.primary
      · simp only [Desk.withToken, hFallback, if_true]
        exact throw e
      · simp only [Desk.withToken, hFallback, if_false]
        refine (setStatus _).bind_same fun _ => ?_
        exact requestSnapshot hAlike tab _

theorem persistSnapshot (s : Snapshot) :
    Concurs env env' R Eq (persistSnapshot env s) (PageQuery.persistSnapshot env' s) := by
  refine (ask hAlike (by simp)).bind_same fun answer => ?_
  cases answer with
  | ok _ => exact pure rfl
  | error f => exact pure rfl

theorem capture (force : Bool) :
    Concurs env env' R Eq (capture env force) (PageQuery.capture env' force) := by
  refine theDesk.bind fun d d' hTwin => ?_
  cases hTwin with
  | @differing token hLeft hRight =>
    have hReusable : (d.withToken token).reusable? = d.reusable? := rfl
    rw [hReusable]
    cases (if force then none else d.reusable?) with
    | some s => exact pure rfl
    | none =>
      refine theDesk.bind fun d d' hTwin => ?_
      cases hTwin with
      | differing hLeft hRight =>
        refine (setStatus _).bind_same fun _ => ?_
        refine (ask hAlike (by simp)).bind_same fun answer => ?_
        refine (orFail (.refl answer)).bind_same fun tab => ?_
        refine (requestEither hAlike tab).bind_same fun s => ?_
        refine (persistSnapshot hAlike s).bind_same fun cached => ?_
        refine (setStatus _).bind_same fun _ => ?_
        exact (onDesk_other fun _ _ => rfl).bind_same fun _ => pure rfl

end Task.Concurs

/-! ## 4. Queries, copies and the token -/

/-- The check of a token that is not blank is one of the query. -/
theorem checkInputs_of_token {d : Desk} (h : isAllBlank d.token = false) :
    checkInputs d =
      if trim (String.ofList d.editor.text) = "" then .error .emptyQuery
      else .ok (trim d.token, trim (String.ofList d.editor.text)) := by
  simp only [checkInputs, if_neg (trim_ne_empty h)]

/-- Both queries are blank, or both tokens go with the same query. -/
theorem Desk.IsTwin.checkInputs {d d' : Desk} (h : d.IsTwin d') :
    OutcomesAgree (fun p p' => p.2 = p'.2) (checkInputs d) (PageQuery.checkInputs d') := by
  cases h with
  | @differing token hLeft hRight =>
    rw [checkInputs_of_token hLeft, checkInputs_of_token (d := d.withToken token) hRight]
    show OutcomesAgree _ _ (if trim (String.ofList d.editor.text) = "" then _ else _)
    by_cases hQuery : trim (String.ofList d.editor.text) = ""
    · rw [if_pos hQuery, if_pos hQuery]
      exact .error _
    · rw [if_neg hQuery, if_neg hQuery]
      exact .ok rfl

/-- The editor of a saved token does not tell which token it is. -/
theorem TokenEditor.forToken_trim {token : String} (h : isAllBlank token = false) :
    TokenEditor.forToken (trim token) false = ⟨false, ""⟩ := by
  rw [forToken, isAllBlank_trim h]
  rfl

/-- A copy, step by step. -/
theorem deliver_copy_eq (env : Environment σ) (format : ExportFormat) :
    deliver env ⟨format, none, true⟩ = theDesk >>= fun d =>
      match d.result with
      | none => throw .noResult
      | some r => ask env (.copy (format.render r)) >>= fun reply =>
        orFail ((reply.map fun _ => (⟨format.render r, r.rows.length, none, true⟩ : Exported)).mapError
          fun f => .clipboard f.message) := by
  funext b
  rw [Task.bind_ok (theDesk_run b)]
  cases hResult : b.desk.result with
  | none =>
    rw [deliver, hResult]
    rfl
  | some r =>
    rw [deliver_copy env format hResult]
    simp only
    rw [Task.bind_ok (ask_run env _ b)]
    cases (b.ask env (.copy (format.render r))).1 with
    | ok _ => rfl
    | error f => rfl

namespace Task.Concurs

variable {env : Environment σ} {env' : Environment σ'} {R : σ → σ' → Prop}

/-- Noting that a token is missing opens its editor, whatever else was checked. -/
theorem noteMissingToken {V : String × String → String × String → Prop}
    {checked checked' : Except ClientError (String × String)} (h : OutcomesAgree V checked checked') :
    Concurs env env' R Eq (noteMissingToken checked) (PageQuery.noteMissingToken checked') := by
  cases h with
  | ok _ => exact pure rfl
  | error e =>
    rw [noteMissingToken.eq_def, noteMissingToken.eq_def]
    split
    · exact onDesk_other fun _ _ => rfl
    · exact pure rfl

/-- A saved token stays, without the blanks around it, and its editor closes. -/
theorem noteSaved {token token' : String} (h : isAllBlank token = false)
    (h' : isAllBlank token' = false) :
    Concurs env env' R Eq (noteSaved (trim token)) (PageQuery.noteSaved (trim token')) := by
  rw [PageQuery.noteSaved, PageQuery.noteSaved, if_neg (trim_ne_empty h), if_neg (trim_ne_empty h'),
    TokenEditor.forToken_trim h, TokenEditor.forToken_trim h']
  refine onDesk fun d d' hTwin => ?_
  cases hTwin with
  | differing _ _ => exact .differing (isAllBlank_trim h) (isAllBlank_trim h')

variable (hAlike : AnswersAlike env env' R)

include hAlike

theorem askAgent (token token' query : String) (s : Snapshot) :
    Concurs env env' R Eq (PageQuery.askAgent env token query s)
      (PageQuery.askAgent env' token' query s) := by
  refine theDesk.bind fun d d' hTwin => ?_
  cases hTwin with
  | differing _ _ =>
    refine (onDesk_other fun _ _ => rfl).bind_same fun _ => ?_
    refine (askQuery hAlike token token' _).bind_same fun answer => ?_
    refine (orFail (.refl answer)).bind_same fun result => ?_
    exact onDesk_other fun _ _ => rfl

theorem runChecked (token token' query : String) :
    Concurs env env' R Eq (runChecked env token query) (PageQuery.runChecked env' token' query) := by
  refine (ask hAlike (by simp)).bind_same fun answer => ?_
  refine (orStorage answer).bind_same fun _ => ?_
  refine (capture hAlike false).bind_same fun s => ?_
  exact askAgent hAlike token token' query s

theorem runQuery : Concurs env env' R Eq (runQuery env) (PageQuery.runQuery env') := by
  rw [runQuery_eq, runQuery_eq]
  refine theDesk.bind fun d d' hTwin => ?_
  refine (noteMissingToken hTwin.checkInputs).bind_same fun _ => ?_
  refine (orFail hTwin.checkInputs).bind ?_
  rintro ⟨token, query⟩ ⟨token', _⟩ rfl
  exact runChecked hAlike token token' query

theorem deliverCopy (format : ExportFormat) :
    Concurs env env' R Eq (deliver env ⟨format, none, true⟩) (deliver env' ⟨format, none, true⟩) := by
  rw [deliver_copy_eq, deliver_copy_eq]
  refine theDesk.bind fun d d' hTwin => ?_
  cases hTwin with
  | @differing token _ _ =>
    rw [show (d.withToken token).result = d.result from rfl]
    cases d.result with
    | none => exact throw _
    | some r =>
      refine (ask hAlike (by simp)).bind_same fun reply => ?_
      exact orFail (.refl _)

theorem copyExport (format : ExportFormat) :
    Concurs env env' R Eq (copyExport env format) (PageQuery.copyExport env' format) := by
  refine (deliverCopy hAlike format).bind_same fun e => ?_
  exact (setStatus _).bind_same fun _ => pure rfl

theorem saveToken : Concurs env env' R Eq (saveToken env) (PageQuery.saveToken env') := by
  rw [saveToken_eq, saveToken_eq]
  refine theDesk.bind fun d d' hTwin => ?_
  cases hTwin with
  | @differing token hLeft hRight =>
    refine (askSaved hAlike (trim d.token) (trim token)).bind_same fun answer => ?_
    exact (orStorage answer).bind_same fun _ => noteSaved hLeft hRight

/-! ## 5. Triggered actions -/

theorem work (a : Action) : Concurs env env' R Eq (a.work env) (a.work env') := by
  cases a with
  | capture => exact (capture hAlike true).bind_same fun _ => pure rfl
  | runQuery => exact runQuery hAlike
  | copyCsv => exact (copyExport hAlike .csv).bind_same fun _ => pure rfl
  | copyJson => exact (copyExport hAlike .json).bind_same fun _ => pure rfl
  | saveToken => exact saveToken hAlike

theorem trigger (a : Action) : Concurs env env' R Eq (trigger env a) (PageQuery.trigger env' a) := by
  refine theDesk.bind fun d d' hTwin => ?_
  cases hTwin with
  | differing _ _ =>
    refine (orFail (.refl d.gate.acquire)).bind_same fun held => ?_
    refine (onDesk_other fun _ _ => rfl).bind_same fun _ => ?_
    refine (attempt (work hAlike a)).bind fun outcome outcome' hOutcome => ?_
    cases hOutcome with
    | ok _ =>
      refine (pure (V := Eq) rfl).bind_same fun _ => ?_
      exact (onDesk_other fun _ _ => rfl).bind_same fun _ => pure rfl
    | error e =>
      refine (setStatus (errorStatus e)).bind_same fun _ => ?_
      exact (onDesk_other fun _ _ => rfl).bind_same fun _ => throw e

/-- What goes on alike goes on alike over a run of actions. -/
theorem run : ∀ (actions : List Action) {b : Bench σ} {b' : Bench σ'},
    b.desk.IsTwin b'.desk → R b.outside b'.outside →
    ∃ talk talk', b.Makes env talk (Bench.run env (actions.map .trigger) b) ∧
      b'.Makes env' talk' (Bench.run env' (actions.map .trigger) b') ∧
      List.Forall₂ Exchange.IsTwin talk talk' ∧
      (Bench.run env (actions.map .trigger) b).desk.IsTwin
        (Bench.run env' (actions.map .trigger) b').desk ∧
      R (Bench.run env (actions.map .trigger) b).outside
        (Bench.run env' (actions.map .trigger) b').outside
  | [], b, b', hDesk, hOutside => ⟨[], [], .refl env b, .refl env' b', .nil, hDesk, hOutside⟩
  | a :: rest, b, b', hDesk, hOutside => by
    obtain ⟨talk, talk', hMakes, hMakes', hTalk, -, hDesk₁, hOutside₁⟩ :=
      trigger hAlike a b b' hDesk hOutside
    obtain ⟨more, more', hMore, hMore', hTalk', hLast⟩ := run rest hDesk₁ hOutside₁
    exact ⟨talk ++ more, talk' ++ more', hMakes.trans hMore, hMakes'.trans hMore',
      List.rel_append hTalk hTalk', hLast⟩

end Task.Concurs

/-! ## 6. What the stores hold -/

/-- What is in the session cache, in the settings and on the clipboard. -/
structure Stores where
  session : String → Option String
  settings : String → Option String
  clipboard : Option String

/-- What is on the clipboard after an exchange, from what was there before. -/
def Exchange.clipboardAfter (held : Option String) : Exchange → Option String
  | ⟨.copy text, .ok _⟩ => some text
  | _ => held

def Stores.after (s : Stores) (x : Exchange) : Stores where
  session := x.sessionAfter s.session
  settings := x.settingsAfter s.settings
  clipboard := x.clipboardAfter s.clipboard

/-- An outside with stores, whose writes and copies are accepted and then are there, or are refused and
change nothing. -/
def KeepsStores (env : Environment σ) (stores : σ → Stores) : Prop :=
  ∀ (c : Call) (s : σ), stores (env c s).2 = (stores s).after ⟨c, (env c s).1⟩

/-- Stores that hold the same, except for a token under its own key. -/
structure Stores.IsTwin (s s' : Stores) : Prop where
  session_eq : s'.session = s.session
  settings_eq {key : String} : key ≠ tokenKey → s'.settings key = s.settings key
  clipboard_eq : s'.clipboard = s.clipboard

/-- Exchanges that differ in the token alone do the same to the stores, but for the token. -/
theorem Stores.IsTwin.after {s s' : Stores} {x x' : Exchange} (h : s.IsTwin s') (hTwin : x.IsTwin x') :
    (s.after x).IsTwin (s'.after x') := by
  cases hTwin with
  | query token token' r reply => exact h
  | saved token token' reply =>
    refine ⟨h.session_eq, fun {key} hKey => ?_, h.clipboard_eq⟩
    cases reply with
    | error f => exact h.settings_eq hKey
    | ok _ =>
      show (if key = tokenKey then _ else s'.settings key) = if key = tokenKey then _ else _
      rw [if_neg hKey, if_neg hKey, h.settings_eq hKey]
  | same x =>
    refine ⟨?_, fun {key} hKey => ?_, ?_⟩
    · rw [Stores.after, Stores.after, h.session_eq]
    · obtain ⟨c, reply⟩ := x
      cases c with
      | writeSetting other value =>
        cases reply with
        | error f => exact h.settings_eq hKey
        | ok _ =>
          show (if key = other then _ else s'.settings key) = if key = other then _ else _
          rw [h.settings_eq hKey]
      | _ => exact h.settings_eq hKey
    · rw [Stores.after, Stores.after, h.clipboard_eq]

/-- After twin conversations the stores are twins. -/
theorem Stores.IsTwin.of_answered {env : Environment σ} {env' : Environment σ'} {stores : σ → Stores}
    {stores' : σ' → Stores} (hKept : KeepsStores env stores) (hKept' : KeepsStores env' stores')
    {talk talk' : List Exchange} (hTalk : List.Forall₂ Exchange.IsTwin talk talk') {s t : σ} {s' t' : σ'}
    (h : Answered env s talk t) (h' : Answered env' s' talk' t')
    (hTwin : (stores s).IsTwin (stores' s')) : (stores t).IsTwin (stores' t') := by
  induction hTalk generalizing s s' with
  | nil =>
    cases h
    cases h'
    exact hTwin
  | cons hFirst _ ih =>
    cases h with
    | next c hRest =>
      cases h' with
      | next c' hRest' =>
        refine ih hRest hRest' ?_
        rw [hKept, hKept']
        exact hTwin.after hFirst

/-! ## 7. The token is kept -/

/-- **The token goes nowhere but to the agent and into its own setting.** Take two workbenches that differ
in the token alone, neither of them blank, over outsides that answer both alike and whose stores differ in
the stored token alone. Trigger the same actions on both, one after the other. Whatever came before, the
next action comes to the same on both, and leaves desks and stores that again differ in the token alone;
and all that is said by then is the same but for the token, which is told to the agent with a query and
written under its own key. -/
theorem token_is_secret {env : Environment σ} {env' : Environment σ'} {R : σ → σ' → Prop}
    (hAlike : AnswersAlike env env' R) {stores : σ → Stores} {stores' : σ' → Stores}
    (hKept : KeepsStores env stores) (hKept' : KeepsStores env' stores') {b : Bench σ} {b' : Bench σ'}
    (hDesks : b.desk.IsTwin b'.desk) (hOutsides : R b.outside b'.outside)
    (hStores : (stores b.outside).IsTwin (stores' b'.outside)) (before : List Action) (a : Action) :
    let run := trigger env a (Bench.run env (before.map .trigger) b)
    let run' := trigger env' a (Bench.run env' (before.map .trigger) b')
    run'.1 = run.1 ∧ run.2.desk.IsTwin run'.2.desk ∧
      (stores run.2.outside).IsTwin (stores' run'.2.outside) ∧
      ∃ talk talk', b.Makes env talk run.2 ∧ b'.Makes env' talk' run'.2 ∧
        List.Forall₂ Exchange.IsTwin talk talk' := by
  intro run run'
  obtain ⟨talk, talk', hMakes, hMakes', hTalk, hDesk, hOutside⟩ :=
    Task.Concurs.run hAlike before hDesks hOutsides
  obtain ⟨more, more', hMore, hMore', hTalk', hOutcome, hDesk', -⟩ :=
    Task.Concurs.trigger hAlike a _ _ hDesk hOutside
  have hAll := List.rel_append hTalk hTalk'
  exact ⟨hOutcome.eq, hDesk', .of_answered hKept hKept' hAll (hMakes.trans hMore).answered
    (hMakes'.trans hMore').answered hStores, _, _, hMakes.trans hMore, hMakes'.trans hMore', hAll⟩

namespace Script

/-- The same script over other settings. -/
def withSettings (s : Script) (m : SettingsMap) : Script := { s with settings := m }

/-- Scripts whose settings differ in the token alone. -/
def IsTwin (s s' : Script) : Prop :=
  ∃ m, s' = s.withSettings m ∧ ∀ key ≠ tokenKey, m.get? key = s.settings.get? key

/-- Questions that are not about settings are answered whatever the settings are. -/
theorem environment_withSettings {c : Call} (hRead : ∀ key, c ≠ .readSetting key)
    (hWrite : ∀ key value, c ≠ .writeSetting key value) (s : Script) (m : SettingsMap) :
    environment c (s.withSettings m) = ((environment c s).1, (environment c s).2.withSettings m) := by
  cases c with
  | readSetting key => exact absurd rfl (hRead key)
  | writeSetting key value => exact absurd rfl (hWrite key value)
  | activeTab | readSession | writeFile => rfl
  | capture r =>
    obtain ⟨tab, replies, pages, results, settings, _⟩ := s
    cases pages with
    | some p => rfl
    | none =>
      cases replies with
      | cons reply rest => rfl
      | nil => rfl
  | query token r =>
    obtain ⟨tab, replies, pages, results, settings, _⟩ := s
    cases results with
    | cons result rest => rfl
    | nil => rfl
  | writeSession entries =>
    simp only [environment, writeSession, withSettings]
    by_cases hFault : (entries.any fun e => s.sessionFaults.writes.contains e.1) = true
    · simp only [hFault, if_true]
    · simp only [hFault]
      cases s.session.setMany entries with
      | ok session => rfl
      | error f => rfl
  | copy text =>
    simp only [environment, copy, withSettings]
    cases hRefusal : s.refusal with
    | some f => simp only [hRefusal]
    | none => rfl

/-- A write that differs at most in the token leaves scripts that differ at most in the token. -/
theorem writeSetting_withSettings {key value value' : String} (hValue : key = tokenKey ∨ value' = value)
    {s : Script} {m : SettingsMap} (h : ∀ key ≠ tokenKey, m.get? key = s.settings.get? key) :
    (s.writeSetting key value).1 = ((s.withSettings m).writeSetting key value').1 ∧
      (s.writeSetting key value).2.IsTwin ((s.withSettings m).writeSetting key value').2 := by
  rw [writeSetting, writeSetting, show (s.withSettings m).settingsFaults = s.settingsFaults from rfl]
  by_cases hFault : s.settingsFaults.writes.contains key = true
  · rw [if_pos hFault, if_pos hFault]
    exact ⟨rfl, m, rfl, h⟩
  · rw [if_neg hFault, if_neg hFault]
    refine ⟨rfl, m.insert key value', rfl, fun other hOther => ?_⟩
    show _ = (s.settings.insert key value).get? other
    rw [SettingsMap.get?_insert, SettingsMap.get?_insert, h other hOther]
    rcases hValue with rfl | rfl
    · rw [if_neg hOther.symm, if_neg hOther.symm]
    · rfl

theorem answersAlike : AnswersAlike environment environment IsTwin where
  same {c s _} := by
    rintro ⟨m, rfl, hSame⟩ hToken
    by_cases hRead : ∃ key, c = .readSetting key
    · obtain ⟨key, rfl⟩ := hRead
      refine ⟨?_, m, rfl, hSame⟩
      show s.readSetting key = (s.withSettings m).readSetting key
      rw [readSetting, readSetting, ← hSame key fun hKey => hToken (by rw [hKey])]
      rfl
    by_cases hWrite : ∃ key value, c = .writeSetting key value
    · obtain ⟨key, value, rfl⟩ := hWrite
      exact writeSetting_withSettings (Or.inr rfl) hSame
    · rw [environment_withSettings (by simpa using hRead) (by simpa using hWrite)]
      refine ⟨rfl, m, rfl, fun key hKey => ?_⟩
      rw [hSame key hKey, (spares c s).settings hWrite]
  query token _ r s _ := by
    rintro ⟨m, rfl, hSame⟩
    rw [environment_withSettings (by simp) (by simp)]
    refine ⟨rfl, m, rfl, fun key hKey => ?_⟩
    rw [hSame key hKey, (spares (.query token r) s).settings (by simp)]
  saved _ _ _ _ := by
    rintro ⟨m, rfl, hSame⟩
    exact writeSetting_withSettings (Or.inl rfl) hSame

/-- What a script holds. -/
def stores (s : Script) : Stores := ⟨s.session.get?, s.settings.get?, s.copies.head?⟩

theorem IsTwin.stores {s s' : Script} (h : s.IsTwin s') : s.stores.IsTwin s'.stores := by
  obtain ⟨m, rfl, hSame⟩ := h
  exact ⟨rfl, fun {key} hKey => hSame key hKey, rfl⟩

theorem keepsStores : KeepsStores environment stores := by
  intro c s
  have hClipboard : (environment c s).2.copies.head? =
      (Exchange.mk c (environment c s).1).clipboardAfter s.copies.head? := by
    by_cases hCopy : ∃ text, c = .copy text
    · obtain ⟨text, rfl⟩ := hCopy
      show (s.copy text).2.copies.head? =
        (Exchange.mk (.copy text) (s.copy text).1).clipboardAfter s.copies.head?
      rw [copy]
      cases s.refusal with
      | some f => rfl
      | none => rfl
    · rw [(spares c s).copies hCopy]
      cases c with
      | copy text => exact absurd ⟨text, rfl⟩ hCopy
      | _ => rfl
  exact congr (congr (congrArg Stores.mk (keepsSession c s)) (storesSettings.after c s)) hClipboard

end Script

/-- A workbench with a token, over a page and an agent that returns one row. -/
def atPage (token stored : String) : Bench Script :=
  let b := Bench.new .standard
    { Script.ofSettings [(tokenKey, stored)] with
      tab := .ok 3
      replies := [.ok (.captured ⟨some .full, .full, "<p/>", none⟩)]
      results := [.ok ⟨["n"], [[.int 7]], 0, false, none⟩]
      session := .empty 100 }
  { b with desk := { b.desk with token := token, editor := .ofText "SELECT n".toList } }

/-- Two tokens are saved and used in a query, whose result is then copied. -/
theorem two_tokens_stay_secret :
    let run := trigger Script.environment .copyCsv
      (Bench.run Script.environment ([.saveToken, .runQuery].map .trigger) (atPage "left " "old"))
    let run' := trigger Script.environment .copyCsv
      (Bench.run Script.environment ([.saveToken, .runQuery].map .trigger) (atPage "right" "older"))
    run'.1 = .ok () ∧ run.1 = .ok () ∧ run.2.desk.status = "Copied CSV (1 rows)." ∧
      run'.2.desk.status = "Copied CSV (1 rows)." ∧
      run.2.outside.copies = ["n\n7"] ∧ run'.2.outside.copies.head? = some "n\n7" ∧
      run.2.desk.token = "left" ∧ run'.2.desk.token = "right" ∧
      (∀ key ≠ tokenKey,
        run'.2.outside.settings.get? key = run.2.outside.settings.get? key) := by
  intro run run'
  have hDesks : (atPage "left " "old").desk.IsTwin (atPage "right" "older").desk :=
    .differing (by decide) (by decide)
  have hOutsides : (atPage "left " "old").outside.IsTwin (atPage "right" "older").outside := by
    refine ⟨[(tokenKey, "older")], rfl, fun key hKey => ?_⟩
    show SettingsMap.get? [(tokenKey, "older")] key = SettingsMap.get? [(tokenKey, "old")] key
    rw [SettingsMap.get?_cons, SettingsMap.get?_cons, if_neg hKey.symm, if_neg hKey.symm]
  have hSecret := token_is_secret Script.answersAlike Script.keepsStores Script.keepsStores hDesks
    hOutsides hOutsides.stores [.saveToken, .runQuery] .copyCsv
  obtain ⟨hOutcome, hDesk, hStores, -⟩ :
    run'.1 = run.1 ∧ run.2.desk.IsTwin run'.2.desk ∧
      run.2.outside.stores.IsTwin run'.2.outside.stores ∧ _ := hSecret
  have hOk : run.1 = .ok () := by decide +kernel
  have hCopies : run.2.outside.copies = ["n\n7"] := by decide +kernel
  have hStatus : run.2.desk.status = "Copied CSV (1 rows)." := by decide +kernel
  have hLeft : run.2.desk.token = "left" := by decide +kernel
  have hRight : run'.2.desk.token = "right" := by decide +kernel
  clear_value run run'
  exact ⟨hOutcome.trans hOk, hOk, hStatus, hDesk.status_eq.trans hStatus, hCopies,
    hStores.clipboard_eq.trans (congrArg List.head? hCopies), hLeft, hRight,
    fun _ hKey => hStores.settings_eq hKey⟩

end PageQuery
