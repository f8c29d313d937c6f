import PageQuery.Agent.Client
import Mathlib.Data.List.Basic
/-!
What comes of asking the agent.

`Gives` says what a piece of JSON gives for a field that it is to have alone, and `SaysWhy` what the body of
a refusal gives as its text. Neither mentions a decoder. The decoder finds that text if it is not empty
(`refusalText?_eq_some_iff`), and no fault is without words (`AgentFault.message_ne_empty`). So every answer
ends in one of two ways, which `query_ends_in_result_or_words` tells apart.
-/

namespace PageQuery

open Net Json Draft

/-! ## 1. Fields that stand alone -/

/-- What a piece of JSON gives for the one field of a record: the value of that name in an object where it
comes once and every name denotes something, or the only item of an array. -/
inductive Gives (name : String) : Draft → Draft → Prop
  | field {before after : List (Option String × Draft)} (d : Draft)
      (hNames : ∀ f ∈ before ++ after, f.1.isSome)
      (hOnce : ∀ f ∈ before ++ after, f.1 ≠ some name) :
    Gives name (.obj (before ++ (some name, d) :: after)) d
  | item (d : Draft) : Gives name (.arr [d]) d

theorem named_eq_singleton_iff {name : String} {fields : List (Option String × Draft)} {d : Draft} :
    named name fields = [d] ↔
      ∃ before after, fields = before ++ (some name, d) :: after ∧
        ∀ f ∈ before ++ after, f.1 ≠ some name := by
  unfold named
  constructor
  · intro h
    obtain ⟨⟨k, d'⟩, hFilter, rfl⟩ := List.map_eq_singleton_iff.mp h
    obtain ⟨before, after, rfl, hBefore, hName, hAfter⟩ := List.filter_eq_cons_iff.mp hFilter
    obtain rfl : k = some name := by simpa using hName
    refine ⟨before, after, rfl, fun f hMem => ?_⟩
    rcases List.mem_append.mp hMem with hMem | hMem
    · simpa using hBefore f hMem
    · simpa using List.filter_eq_nil_iff.mp hAfter f hMem
  · rintro ⟨before, after, rfl, hOnce⟩
    have hBefore : before.filter (fun f => f.1 == some name) = [] := by
      simpa [List.filter_eq_nil_iff] using fun k d hMem => hOnce (k, d) (by simp [hMem])
    have hAfter : after.filter (fun f => f.1 == some name) = [] := by
      simpa [List.filter_eq_nil_iff] using fun k d hMem => hOnce (k, d) (by simp [hMem])
    simp [List.filter_append, hBefore, hAfter]

theorem namedOnce?_eq_some_some_iff {name : String} {fields : List (Option String × Draft)} {d : Draft} :
    namedOnce? name fields = some (some d) ↔ named name fields = [d] := by
  unfold namedOnce?
  rcases named name fields with _ | ⟨x, _ | ⟨y, rest⟩⟩ <;> simp

theorem gives_arr_iff {name : String} {items : List Draft} {value : Draft} :
    Gives name (.arr items) value ↔ items = [value] := by
  constructor
  · rintro ⟨⟩
    rfl
  · rintro rfl
    exact .item value

theorem gives_obj_iff {name : String} {fields : List (Option String × Draft)} {value : Draft} :
    Gives name (.obj fields) value ↔
      fields.all (fun f => f.1.isSome) = true ∧ named name fields = [value] := by
  rw [named_eq_singleton_iff]
  constructor
  · rintro ⟨_, hNames, hOnce⟩
    refine ⟨?_, _, _, rfl, hOnce⟩
    simpa [or_imp, forall_and] using hNames
  · rintro ⟨hNames, before, after, rfl, hOnce⟩
    refine .field value (fun f hMem => ?_) hOnce
    refine List.all_eq_true.mp hNames f ?_
    rcases List.mem_append.mp hMem with hMem | hMem <;> simp [hMem]

/-- A record of one field reads what is given for it, if one more level may be opened. -/
theorem record?_eq_some_iff_gives {levels inner : Levels} {name : String} {d value : Draft} :
    record? levels [name] d = some (inner, [some value]) ↔
      levels.inside = some inner ∧ Gives name d value := by
  cases d with
  | leaf v =>
    refine iff_of_false (by simp [record?]) ?_
    rintro ⟨-, ⟨⟩⟩
  | arr items =>
    rw [gives_arr_iff]
    cases hInside : levels.inside with
    | none => simp [record?, hInside]
    | some inside => rcases items with _ | ⟨x, _ | ⟨y, rest⟩⟩ <;> simp [record?, hInside]
  | obj fields =>
    rw [gives_obj_iff, ← namedOnce?_eq_some_some_iff]
    cases hInside : levels.inside with
    | none => simp [record?, hInside]
    | some inside =>
      by_cases hNames : fields.all (fun f => f.1.isSome) = true
      · cases hField : namedOnce? name fields <;> simp [record?, hInside, hField, hNames]
      · simp [record?, hInside, hNames]

/-! ## 2. What a refusal says -/

/-- The body of a refusal says why: it is JSON that gives an `error`, and that gives the text as its
`message`. -/
def SaysWhy (body message : String) : Prop :=
  ∃ d error, Draft.ofText? body.toList = some d ∧ Gives "error" d error ∧
    Gives "message" error (.leaf (some (.str message)))

theorem string?_eq_some_iff_leaf {d : Draft} {s : String} :
    Draft.string? d = some s ↔ d = .leaf (some (.str s)) := by
  unfold Draft.string?
  split
  · simp
  · next h =>
    refine iff_of_false (by simp) ?_
    rintro rfl
    exact h s rfl

/-- `null` is put for nothing only where no value is read from it. -/
theorem nullable?_eq_some_some_iff {α : Type} {value? : Draft → Option α} {d : Draft} {a : α}
    (hNull : value? (.leaf (some .null)) = none) :
    nullable? value? d = some (some a) ↔ value? d = some a := by
  unfold nullable?
  split
  · simp [hNull]
  · simp

/-- What a record of one field has there. The field may be left out, and may be `null`. -/
def optionalField? {α : Type} (levels : Levels) (name : String) (value? : Levels → Draft → Option α)
    (d : Draft) : Option (Option α) := do
  let (inner, fields) ← record? levels [name] d
  match fields with
  | [field] => orElse none (nullable? (value? inner)) field
  | _ => none

theorem optionalField?_eq_some_some_iff {α : Type} {levels inner : Levels} {name : String}
    {value? : Levels → Draft → Option α} (hInside : levels.inside = some inner)
    (hNull : value? inner (.leaf (some .null)) = none) {d : Draft} {a : α} :
    optionalField? levels name value? d = some (some a) ↔
      ∃ value, Gives name d value ∧ value? inner value = some a := by
  unfold optionalField?
  constructor
  · intro h
    obtain ⟨⟨inner', fields⟩, hRecord, h⟩ := Option.bind_eq_some_iff.mp h
    rcases fields with _ | ⟨_ | value, _ | ⟨_, _⟩⟩
    · cases h
    · simp [orElse] at h
    · cases h
    · obtain ⟨hInside', hGives⟩ := record?_eq_some_iff_gives.mp hRecord
      obtain rfl : inner' = inner := Option.some.inj (hInside'.symm.trans hInside)
      exact ⟨value, hGives, (nullable?_eq_some_some_iff hNull).mp h⟩
    · cases h
  · rintro ⟨value, hGives, hValue⟩
    rw [record?_eq_some_iff_gives.mpr ⟨hInside, hGives⟩]
    exact (nullable?_eq_some_some_iff hNull).mpr hValue

theorem refusalText?_eq (body : String) :
    refusalText? body = (Draft.ofText? body.toList).bind fun d =>
      (optionalField? Levels.document "error"
        (fun inner => optionalField? inner "message" fun _ => Draft.string?) d).bind fun text =>
          text.join.filter (· ≠ "") := by
  unfold refusalText? optionalField?
  cases Draft.ofText? body.toList with
  | none => rfl
  | some d =>
    show (record? _ _ d).bind _ = ((record? _ _ d).bind _).bind _
    rcases record? Levels.document ["error"] d with _ | ⟨inner, _ | ⟨field, _ | ⟨_, _⟩⟩⟩
    · rfl
    · rfl
    · rfl
    · rfl

/-- The text of a refusal is what its body says, but for the empty text. -/
theorem refusalText?_eq_some_iff {body message : String} :
    refusalText? body = some message ↔ message ≠ "" ∧ SaysWhy body message := by
  have hText : ∀ d, optionalField? Levels.document "error"
      (fun inner => optionalField? inner "message" fun _ => Draft.string?) d =
        some (some (some message)) ↔
      ∃ error, Gives "error" d error ∧ Gives "message" error (.leaf (some (.str message))) := by
    intro d
    rw [optionalField?_eq_some_some_iff rfl rfl]
    refine exists_congr fun error => and_congr_right fun _ => ?_
    have hInside : Levels.inside (some 126) = some (some 125) := rfl
    rw [optionalField?_eq_some_some_iff hInside rfl]
    simp [string?_eq_some_iff_leaf]
  rw [refusalText?_eq]
  unfold SaysWhy
  constructor
  · intro h
    obtain ⟨d, hDraft, h⟩ := Option.bind_eq_some_iff.mp h
    obtain ⟨text, hRead, h⟩ := Option.bind_eq_some_iff.mp h
    obtain ⟨hJoin, hSome⟩ := Option.filter_eq_some_iff.mp h
    obtain rfl : text = some (some message) := by
      simpa [Option.join_eq_some_iff] using hJoin
    obtain ⟨error, hError, hMessage⟩ := (hText d).mp hRead
    exact ⟨by simpa using hSome, d, error, hDraft, hError, hMessage⟩
  · rintro ⟨hSome, d, error, hDraft, hError, hMessage⟩
    rw [hDraft, Option.bind_some, (hText d).mpr ⟨error, hError, hMessage⟩]
    simp [hSome]

-- Arrays stand for records all the way.
example : SaysWhy "[[\"no\"]]" "no" := ⟨_, _, rfl, .item _, .item _⟩

/-! ## 3. What a response comes to -/

/-- Among the statuses, a success is one of 200 to 299. -/
def IsSuccess (status : Nat) : Prop := 200 ≤ status ∧ status < 300

/-- A fault has words, unless the agent refused with an empty text. -/
theorem AgentFault.message_ne_empty {f : AgentFault} (h : f ≠ .refused "") : f.message ≠ "" := by
  cases f with
  | refused m =>
    rintro rfl
    exact h rfl
  | unanswered _ | unread | status _ | undecodable _ =>
    intro hBlank
    exact absurd (String.append_eq_empty_iff.mp hBlank).1 (by decide)

section Meaning

variable (a : Agent)

theorem Agent.answerOf_eq_ok_iff {status : Nat} {body : String} {result : QueryResult} :
    a.answerOf status body = .ok result ↔
      IsSuccess status ∧ QueryResult.ofText? body = some result := by
  unfold answerOf IsSuccess
  split
  · next hSuccess =>
    cases QueryResult.ofText? body <;> simp [hSuccess]
  · next hFailure =>
    cases refusalText? body <;> simp [hFailure]

theorem Agent.answerOf_of_says {status : Nat} {body message : String} (hFailure : ¬ IsSuccess status)
    (hSome : message ≠ "") (hSays : SaysWhy body message) :
    a.answerOf status body = .error (.refused message) := by
  unfold IsSuccess at hFailure
  unfold answerOf
  rw [if_neg hFailure, refusalText?_eq_some_iff.mpr ⟨hSome, hSays⟩]

theorem Agent.answerOf_of_silent {status : Nat} {body : String} (hFailure : ¬ IsSuccess status)
    (hSilent : ∀ message, SaysWhy body message → message = "") :
    a.answerOf status body = .error (.status status) := by
  have hNone : refusalText? body = none := by
    refine Option.eq_none_iff_forall_ne_some.mpr fun message hText => ?_
    obtain ⟨hSome, hSays⟩ := refusalText?_eq_some_iff.mp hText
    exact hSome (hSilent message hSays)
  unfold IsSuccess at hFailure
  unfold answerOf
  rw [if_neg hFailure, hNone]

theorem Agent.answerOf_ne_blank (status : Nat) (body : String) :
    a.answerOf status body ≠ .error (.refused "") := by
  unfold answerOf
  split
  · cases QueryResult.ofText? body <;> simp
  · cases hText : refusalText? body with
    | none => simp
    | some message =>
      have hSome := (refusalText?_eq_some_iff.mp hText).1
      simpa using hSome

end Meaning

/-! ## 4. Asking -/

section Asking

variable (a : Agent) (token : String) (r : QueryRequest) (n : Network)

/-- The agent's reply to a query has this status, and this is the text of its body. -/
def Agent.Replies (status : Nat) (body : String) : Prop :=
  ∃ response, (n.fetch "POST" a.endpoint (queryHeaders a token) r.toJson.render).1 = .ok response ∧
    response.status = status ∧ response.text? = some body

/-- What the asker gets to know. -/
def Agent.outcome : Except ClientError QueryResult :=
  (a.query token r n).1.mapError AgentFault.toError

variable {a token r n}

/-- A request that can be built gets the answer that every request gets. -/
theorem fetch_of_sendable {method url body : String} {headers : List (String × String)}
    (h : (buildRequest method url headers body).toBool = true) (response : Response) :
    (Network.fetch ⟨fun _ => some response, []⟩ method url headers body).1 = .ok response := by
  unfold Network.fetch
  cases hBuilt : buildRequest method url headers body with
  | ok request => rfl
  | error e => simp [hBuilt, Except.toBool] at h

/-- What is learned from a reply is what it means. -/
theorem Agent.query_of_replies {status : Nat} {body : String} (h : a.Replies token r n status body) :
    (a.query token r n).1 = a.answerOf status body := by
  obtain ⟨response, hFetch, rfl, hText⟩ := h
  unfold query
  split
  · next hFault => simp [hFault] at hFetch
  · next response' _ hReply =>
    obtain rfl : response' = response := by simpa [hReply] using hFetch
    rw [hText]

/-- Either a reply came, and what is learned is what it means, or none came or not all of it, and a fault says
so. -/
theorem Agent.query_cases :
    (∃ status body, a.Replies token r n status body ∧
      (a.query token r n).1 = a.answerOf status body) ∨
    ∃ f, (a.query token r n).1 = .error f ∧ f ≠ .refused "" := by
  unfold query
  split
  · exact .inr ⟨_, rfl, by simp⟩
  · next response _ hReply =>
    cases hText : response.text? with
    | none => exact .inr ⟨.unread, rfl, by simp⟩
    | some body => exact .inl ⟨response.status, body, ⟨response, by rw [hReply], rfl, hText⟩, rfl⟩

theorem Agent.outcome_eq_ok_iff {result : QueryResult} :
    a.outcome token r n = .ok result ↔ (a.query token r n).1 = .ok result := by
  unfold outcome
  cases (a.query token r n).1 <;> simp [Except.mapError]

/-- A result comes of a reply that means one. -/
theorem Agent.query_eq_ok_iff {result : QueryResult} :
    (a.query token r n).1 = .ok result ↔
      ∃ status body, a.Replies token r n status body ∧ IsSuccess status ∧
        QueryResult.ofText? body = some result := by
  constructor
  · intro h
    rcases query_cases with ⟨status, body, hReplies, hMeans⟩ | ⟨f, hFault, -⟩
    · exact ⟨status, body, hReplies, (a.answerOf_eq_ok_iff).mp (hMeans.symm.trans h)⟩
    · rw [hFault] at h
      cases h
  · rintro ⟨status, body, hReplies, hMeans⟩
    rw [query_of_replies hReplies, (a.answerOf_eq_ok_iff).mpr hMeans]

/-- No query ends in a refusal without a text. -/
theorem Agent.query_ne_blank : (a.query token r n).1 ≠ .error (.refused "") := by
  rcases query_cases with ⟨status, body, -, hMeans⟩ | ⟨f, hFault, hSome⟩
  · rw [hMeans]
    exact a.answerOf_ne_blank status body
  · rw [hFault]
    simpa using hSome

/-- What a query without a result ends in has words. -/
theorem Agent.exists_message {e : ClientError} (h : a.outcome token r n = .error e) :
    ∃ message, message ≠ "" ∧ e = .network message := by
  unfold outcome at h
  cases hQuery : (a.query token r n).1 with
  | ok result => simp [hQuery, Except.mapError] at h
  | error f =>
    obtain rfl : f.toError = e := by simpa [hQuery, Except.mapError] using h
    refine ⟨f.message, AgentFault.message_ne_empty ?_, rfl⟩
    rintro rfl
    exact query_ne_blank hQuery

variable (a token r n)

/-- **Every answer ends in a result or in words.** A query has a result if the reply's status is a success
and the body decodes, and then that result; it has none otherwise. What it has then is a network error with
a message that is not empty. If a reply came whose status is no success, the message is the text that the
body gives at `error` and `message`, if it gives one that is not empty, and the status otherwise. -/
theorem Agent.query_ends_in_result_or_words :
    (∀ result, a.outcome token r n = .ok result ↔
      ∃ status body, a.Replies token r n status body ∧ IsSuccess status ∧
        QueryResult.ofText? body = some result) ∧
    (∀ e, a.outcome token r n = .error e → ∃ message, message ≠ "" ∧ e = .network message) ∧
    ∀ status body, a.Replies token r n status body → ¬ IsSuccess status →
      (∀ message, message ≠ "" → SaysWhy body message →
        a.outcome token r n = .error (.network message)) ∧
      ((∀ message, SaysWhy body message → message = "") →
        a.outcome token r n =
          .error (.network ("HTTP " ++ String.ofList (Number.naturalDigits status)))) := by
  refine ⟨fun result => ?_, fun e => exists_message, fun status body hReplies hFailure => ⟨?_, ?_⟩⟩
  · rw [outcome_eq_ok_iff, query_eq_ok_iff]
  · intro message hSome hSays
    rw [outcome, query_of_replies hReplies, a.answerOf_of_says hFailure hSome hSays]
    rfl
  · intro hSilent
    rw [outcome, query_of_replies hReplies, a.answerOf_of_silent hFailure hSilent]
    rfl

/-- An agent that refuses a token in its own words is quoted. -/
theorem Agent.refusal_is_quoted :
    let a := Agent.ofBaseUrl (fun _ => "") defaultAgentUrl
    let n : Network :=
      ⟨fun _ => some ⟨401, "\x7b\"error\":\x7b\"message\":\"Invalid token\"\x7d\x7d", true⟩, []⟩
    a.outcome "t" ⟨"<p/>", "SELECT p", .standard⟩ n = .error (.network "Invalid token") := by
  intro a n
  have hSent : (buildRequest "POST" a.endpoint (queryHeaders a "t")
      (QueryRequest.toJson ⟨"<p/>", "SELECT p", .standard⟩).render).toBool = true := by
    decide +kernel
  have hReplies : a.Replies "t" ⟨"<p/>", "SELECT p", .standard⟩ n 401 _ :=
    ⟨_, fetch_of_sendable hSent _, rfl, rfl⟩
  have hSays : SaysWhy "\x7b\"error\":\x7b\"message\":\"Invalid token\"\x7d\x7d" "Invalid token" :=
    ⟨_, _, rfl, gives_obj_iff.mpr ⟨rfl, rfl⟩, gives_obj_iff.mpr ⟨rfl, rfl⟩⟩
  obtain ⟨-, -, hWords⟩ := a.query_ends_in_result_or_words "t" ⟨"<p/>", "SELECT p", .standard⟩ n
  exact (hWords 401 _ hReplies (by simp [IsSuccess])).1 _ (by decide) hSays

end Asking

end PageQuery
