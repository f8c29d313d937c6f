import PageQuery.Capture.Pages
import Mathlib.Logic.Function.Iterate
/-!
Captures over the wire, and replies that are passed on.

A request and its reply can cross a boundary as JSON. What is written is read back but for two
things: a reply's size is always given, since it is worked out where it was left open, and a failure
always says something. `CaptureReply.received` is a reply after that, and `ofJson_toJson` says that
writing and reading come to nothing else.

So a channel can be asked through `relay` as well as directly. `relay_delivers` says that this is the
same capture: the channel is asked once and for the same thing, the answer reads as its reply, and
the same snapshot comes of it.

Sizes are numbers of at most 64 bits, as tab ids are of 32. A number that is longer is not one on the
wire, which is what `IsSized` and `isTabId` are for.

Whoever passes a reply on reads it and writes what was read. That is not the identity, not even on replies:
a size that was left open is written out, a scope that names none is left out, a source that is not known
is called so, and a failure without words gets some. But all of this happens the first time, and none of
it shows. `told` is what shows of a reply; it is the same before and after (`told_passedOn`), and both the
snapshot and the written form are made from it alone. So `passing_on_is_harmless`, however often a reply
is passed on.
-/

namespace PageQuery

open Json

/-! ## 1. Requests -/

namespace CaptureRequest

theorem messageType?_toJson (r : CaptureRequest) :
    messageType? r.toJson = some captureMessage := by
  simp [messageType?, string?, toJson, asString?]

/-- A scope is named so that it is understood. -/
theorem messageScope_toJson (r : CaptureRequest) : messageScope r.toJson = r.scope := by
  cases hScope : r.scope with
  | full => simp [messageScope, string?, toJson, asString?, hScope, Scope.name]
  | main => simp [messageScope, string?, toJson, asString?, hScope, Scope.name]

theorem tab?_nat {tab : Nat} (h : isTabId tab = true) : tab? (.nat tab) = some tab := by
  have hShort : tab < Nat.pow 2 32 := of_decide_eq_true h
  have hNat : (Json.nat tab).asNat? = some tab :=
    asNat?_nat (Nat.lt_trans hShort (by decide))
  rw [tab?, hNat, Option.filter_some, if_pos h]

end CaptureRequest

/-! ## 2. Replies -/

namespace CaptureReply

/-- The size that goes with a reply has at most 64 bits. -/
def IsSized : CaptureReply → Prop
  | .captured p => p.size < Nat.pow 2 64
  | .failed _ => True

/-- The error that is read where this one was written. -/
def worded (error : String) : String := if error = "" then genericCaptureFailure else error

/-- A reply once it went over the wire. -/
def received : CaptureReply → CaptureReply
  | .captured p => .captured { p with sizeBytes := some p.size }
  | .failed error => .failed (worded error)

/-- The fields of a page that was written. -/
theorem fields_toJson_captured (p : CapturedPage) :
    (toJson (.captured p)).get? "ok" = some (.bool true) ∧
      (toJson (.captured p)).get? "source" = some (.str p.source.name) ∧
      (toJson (.captured p)).get? "html" = some (.str p.html) ∧
      (toJson (.captured p)).get? "size_bytes" = some (.nat p.size) ∧
      (toJson (.captured p)).get? "scope" = p.scope.map fun scope => .str scope.name := by
  cases hScope : p.scope with
  | none => simp [toJson, hScope]
  | some scope => simp [toJson, hScope]

/-- The fields of a failure that was written. -/
theorem fields_toJson_failed (error : String) :
    (toJson (.failed error)).get? "ok" = some (.bool false) ∧
      (toJson (.failed error)).get? "error" = some (.str error) := by
  simp [toJson]

theorem ofJson_toJson_failed (error : String) :
    ofJson (toJson (.failed error)) = .failed (worded error) := by
  obtain ⟨hOk, hError⟩ := fields_toJson_failed error
  simp [ofJson, errorOf, worded, string?, asString?, asBool?, hOk, hError]

/-- What is read where a page was written. The size is there if it has at most 64 bits, and all else
is. -/
theorem pageOf_toJson_captured (p : CapturedPage) :
    pageOf (toJson (.captured p)) p.html = { p with sizeBytes := (nat p.size).asNat? } := by
  obtain ⟨-, hSource, -, hSize, hScope⟩ := fields_toJson_captured p
  have hScopeRead : ((toJson (.captured p)).string? "scope").bind Scope.parse? = p.scope := by
    rw [string?, hScope]
    cases p.scope with
    | none => rfl
    | some scope =>
      show (some scope.name).bind Scope.parse? = some scope
      rw [Option.bind_some, scope.parse?_name]
  have hSourceRead : (toJson (.captured p)).string? "source" = some p.source.name := by
    rw [string?, hSource]
    rfl
  rw [pageOf, hScopeRead, hSourceRead, hSize, Option.bind_some, Option.map_some,
    Option.getD_some, Source.ofName_name]

theorem ofJson_toJson_captured (p : CapturedPage) :
    ofJson (toJson (.captured p)) = .captured { p with sizeBytes := (nat p.size).asNat? } := by
  obtain ⟨hOk, -, hHtml, -, -⟩ := fields_toJson_captured p
  have hClaims : ((toJson (.captured p)).get? "ok").bind asBool? = some true := by
    rw [hOk]
    rfl
  have hGiven : (toJson (.captured p)).string? "html" = some p.html := by
    rw [string?, hHtml]
    rfl
  rw [ofJson, hClaims, hGiven]
  exact congrArg CaptureReply.captured (pageOf_toJson_captured p)

/-- **Reading a written reply** completes it and changes nothing else. -/
theorem ofJson_toJson {reply : CaptureReply} (h : reply.IsSized) :
    ofJson reply.toJson = reply.received := by
  cases reply with
  | captured p => rw [ofJson_toJson_captured, asNat?_nat h, received]
  | failed error => exact ofJson_toJson_failed error

/-- A page that was received yields the snapshot that it yields where it is sent. -/
theorem snapshot_received (reply : CaptureReply) (requested : Scope) :
    reply.received.snapshot requested =
      match reply.snapshot requested with
      | .ok s => .ok s
      | .error e => .error (.capture (worded e.message)) := by
  cases reply with
  | captured p => rfl
  | failed error => rfl

end CaptureReply

/-! ## 3. The relay -/

variable {σ : Type}

/-- A message that asks for a capture of a tab is passed on once, and its answer is the reply. -/
theorem relay_eq (send : Sender σ) {message : Json} {tab : Nat}
    (hType : messageType? message = some captureMessage)
    (hTab : (message.get? "tabId").bind CaptureRequest.tab? = some tab) (s : σ) :
    relay send message s =
      (some (replyOf (send ⟨tab, messageScope message⟩ s).1).toJson,
        (send ⟨tab, messageScope message⟩ s).2) := by
  rw [relay, if_pos hType, hTab]

theorem relay_toJson (send : Sender σ) {r : CaptureRequest} (hTab : isTabId r.tab = true) (s : σ) :
    relay send r.toJson s = (some (replyOf (send r s).1).toJson, (send r s).2) := by
  have hFound : (r.toJson.get? "tabId").bind CaptureRequest.tab? = some r.tab := by
    have hField : r.toJson.get? "tabId" = some (.nat r.tab) := by simp [CaptureRequest.toJson]
    rw [hField, Option.bind_some, CaptureRequest.tab?_nat hTab]
  rw [relay_eq send r.messageType?_toJson hFound, r.messageScope_toJson]

/-- A request that was not delivered is told as a failure, and a failure has no snapshot. -/
theorem snapshot_replyOf (outcome : Except ClientError CaptureReply) (requested : Scope) :
    (replyOf outcome).received.snapshot requested =
      match outcome.bind fun reply => reply.snapshot requested with
      | .ok s => .ok s
      | .error e => .error (.capture (CaptureReply.worded e.message)) := by
  cases outcome with
  | error e => rfl
  | ok reply => exact reply.snapshot_received requested

/-- **A capture through the relay is the capture itself.** The written request reaches the channel
once and unchanged. Its answer reads as the same page, with the size that the page has if none was
given; or as the same failure; or, where the request was not delivered, as a failure in the words of
that error. Only an empty error is replaced. So every scope that may be asked for yields the same
snapshot, and where there is none, there is none either way. -/
theorem relay_delivers (send : Sender σ) (r : CaptureRequest) (s : σ)
    (hTab : isTabId r.tab = true)
    (hSized : ∀ reply, (send r s).1 = .ok reply → reply.IsSized) :
    ∃ answer, relay send r.toJson s = (some answer, (send r s).2) ∧
      (∀ page, (send r s).1 = .ok (.captured page) →
        CaptureReply.ofJson answer =
          .captured ⟨page.scope, page.source, page.html,
            some (page.sizeBytes.getD page.html.utf8ByteSize)⟩) ∧
      (∀ error, (send r s).1 = .ok (.failed error) →
        CaptureReply.ofJson answer = .failed (if error = "" then "Capture failed" else error)) ∧
      (∀ e, (send r s).1 = .error e →
        CaptureReply.ofJson answer =
          .failed (if e.message = "" then "Capture failed" else e.message)) ∧
      ∀ requested, (CaptureReply.ofJson answer).snapshot requested =
        match (send r s).1.bind fun reply => reply.snapshot requested with
        | .ok snapshot => .ok snapshot
        | .error e => .error (.capture (if e.message = "" then "Capture failed" else e.message)) := by
  have hReceived : CaptureReply.ofJson (replyOf (send r s).1).toJson =
      (replyOf (send r s).1).received := by
    apply CaptureReply.ofJson_toJson
    cases hOutcome : (send r s).1 with
    | ok reply => exact hSized reply hOutcome
    | error e => trivial
  refine ⟨_, relay_toJson send hTab s, fun page hPage => ?_, fun error hFailed => ?_,
    fun e hLost => ?_, fun requested => ?_⟩
  · rw [hReceived, hPage]
    rfl
  · rw [hReceived, hFailed]
    rfl
  · rw [hReceived, hLost]
    rfl
  · rw [hReceived]
    exact snapshot_replyOf (send r s).1 requested

/-- A channel that counts its requests. It gives the page without scope and size, and says nothing
about why it has no main content. -/
def tersePage : Sender Nat := fun r asked =>
  match r.scope with
  | .full => (.ok (.captured ⟨none, .unknown, "<p>é</p>", none⟩), asked + 1)
  | .main => (.ok (.failed ""), asked + 1)

theorem relay_delivers_tersePage :
    isTabId 7 = true ∧ (∀ reply, (tersePage ⟨7, .full⟩ 0).1 = .ok reply → reply.IsSized) ∧
      ∃ answer, relay tersePage (CaptureRequest.toJson ⟨7, .full⟩) 0 = (some answer, 1) ∧
        CaptureReply.ofJson answer = .captured ⟨none, .unknown, "<p>é</p>", some 9⟩ ∧
        (CaptureReply.ofJson answer).snapshot .main = .ok ⟨"<p>é</p>", .main, .unknown, 9⟩ := by
  have hTab : isTabId 7 = true := by decide
  have hSized : ∀ reply, (tersePage ⟨7, .full⟩ 0).1 = .ok reply → reply.IsSized := by
    rintro _ ⟨⟩
    show 9 < Nat.pow 2 64
    decide
  obtain ⟨answer, hRelay, hPage, -, -, hSnapshot⟩ :=
    relay_delivers tersePage ⟨7, .full⟩ 0 hTab hSized
  exact ⟨hTab, hSized, answer, hRelay, hPage _ rfl, hSnapshot .main⟩

namespace CaptureReply

/-! ## 4. What shows of a reply -/

/-- A reply with its size spelled out. -/
def told : CaptureReply → CaptureReply
  | .captured p => .captured { p with sizeBytes := some p.size }
  | .failed error => .failed error

@[simp] theorem toJson_told (reply : CaptureReply) : reply.told.toJson = reply.toJson := by
  cases reply <;> rfl

@[simp] theorem snapshot_told (reply : CaptureReply) (requested : Scope) :
    reply.told.snapshot requested = reply.snapshot requested := by
  cases reply <;> rfl

/-! ## 5. Replies that can have been read -/

/-- Of a reply that was read a given size has at most 64 bits, and a failure says something. -/
def IsReadable : CaptureReply → Prop
  | .captured p => ∀ n, p.sizeBytes = some n → n < Nat.pow 2 64
  | .failed error => error ≠ ""

theorem lt_of_asNat? {v : Json} {n : Nat} (h : v.asNat? = some n) : n < Nat.pow 2 64 := by
  cases v with
  | int i =>
    simp only [asNat?, Option.ite_none_right_eq_some, Option.some.injEq] at h
    obtain ⟨hRange, rfl⟩ := h
    exact (Int.toNat_lt hRange.1).mpr hRange.2
  | null | bool | double | str | arr | obj => cases h

/-- A number is read back, or not at all where it is too long. -/
theorem getD_asNat?_nat (n : Nat) : (nat n).asNat?.getD n = n := by
  cases hRead : (nat n).asNat? with
  | none => rfl
  | some m =>
    simp only [nat, asNat?, Option.ite_none_right_eq_some, Option.some.injEq] at hRead
    exact hRead.2.symm.trans (Int.toNat_natCast n)

theorem errorOf_ne_empty (v : Json) : errorOf v ≠ "" := by
  unfold errorOf
  split
  · split
    · decide
    · assumption
  · decide

/-- Whatever is read, well formed or not, can be read. -/
theorem isReadable_ofJson (v : Json) : (ofJson v).IsReadable := by
  unfold ofJson
  split
  · intro n hSize
    obtain ⟨size, -, hNat⟩ := Option.bind_eq_some_iff.mp hSize
    exact lt_of_asNat? hNat
  · exact errorOf_ne_empty v

/-- The size that was written is the one that is read. If it was given it is not too long, and if it was
left open it is that of the markup, which is still at hand where the number is not read. -/
theorem size_of_written {p : CapturedPage} (h : (captured p).IsReadable) :
    (nat p.size).asNat?.getD p.html.utf8ByteSize = p.size := by
  unfold CapturedPage.size
  cases hSize : p.sizeBytes with
  | none => exact getD_asNat?_nat _
  | some n =>
    have hShort : n < Nat.pow 2 64 := h n hSize
    rw [Option.getD_some, asNat?_nat hShort, Option.getD_some]

/-- Writing and reading leaves what shows. -/
theorem told_ofJson_toJson {reply : CaptureReply} (h : reply.IsReadable) :
    (ofJson reply.toJson).told = reply.told := by
  cases reply with
  | captured p =>
    have hSize := size_of_written h
    rw [ofJson_toJson_captured]
    generalize (nat p.size).asNat? = size at hSize
    exact congrArg (fun n => captured { p with sizeBytes := some n }) hSize
  | failed error =>
    have hWorded : worded error = error := if_neg h
    rw [ofJson_toJson_failed, hWorded]

/-! ## 6. Passing on -/

/-- A reply as it is passed on: read, and written again. -/
def passedOn (v : Json) : Json := (ofJson v).toJson

theorem told_passedOn (v : Json) : (ofJson (passedOn v)).told = (ofJson v).told :=
  told_ofJson_toJson (isReadable_ofJson v)

theorem snapshot_passedOn (v : Json) (requested : Scope) :
    (ofJson (passedOn v)).snapshot requested = (ofJson v).snapshot requested := by
  rw [← snapshot_told, told_passedOn, snapshot_told]

theorem passedOn_passedOn (v : Json) : passedOn (passedOn v) = passedOn v := by
  show (ofJson (passedOn v)).toJson = (ofJson v).toJson
  rw [← toJson_told, told_passedOn, toJson_told]

/-- **Passing a reply on is harmless**, whatever value it is and whatever scope was asked for: read after
it was read and written, it yields the very snapshot or the very error that it yields at once, and written
once more it is the same JSON. So it is after any number of passes. -/
theorem passing_on_is_harmless (v : Json) (requested : Scope) :
    (ofJson (ofJson v).toJson).snapshot requested = (ofJson v).snapshot requested ∧
    (ofJson (ofJson v).toJson).toJson = (ofJson v).toJson ∧
    ∀ passes : Nat,
      (ofJson (passedOn^[passes] v)).snapshot requested = (ofJson v).snapshot requested ∧
      passedOn^[passes + 1] v = (ofJson v).toJson := by
  refine ⟨snapshot_passedOn v requested, passedOn_passedOn v, fun passes => ?_⟩
  induction passes with
  | zero => exact ⟨rfl, rfl⟩
  | succ passes ih =>
    obtain ⟨hSnapshot, hWritten⟩ := ih
    have hStep : passedOn^[passes + 2] v = passedOn (passedOn^[passes + 1] v) :=
      Function.iterate_succ_apply' passedOn (passes + 1) v
    refine ⟨?_, ?_⟩
    · rw [Function.iterate_succ_apply', snapshot_passedOn, hSnapshot]
    · rw [hStep, hWritten]
      exact passedOn_passedOn v

end CaptureReply

end PageQuery
