import PageQuery.CommandLine.Run
import PageQuery.Proofs.Capture.Dispatch
import PageQuery.Proofs.Json.Lexing
import PageQuery.Proofs.Text.Basic
/-!
Every line has its own answer.

The relay goes through its input with one set of tabs, and what it has seen leaves its traces there. Yet
a line is answered as it would be answered first: that is what a single line preserves, and
`answerLines_eq_map` says it of all of them. An answer is compact JSON and so takes one line. Together:
the lines that are printed are the answers of the lines that hold messages, one for one
(`relay_answers_each_line`).
-/

namespace PageQuery.CommandLine

open Text Json Pages

/-! ## 1. One line -/

variable (refusal : String → String)

/-- What a line is answered with if it is the first. -/
def lineAnswer (pages : List PageSource) (w : World) (line : String) : String :=
  (answerLine refusal line (.ofSources pages, w)).1

/-- A line leaves the same pages, and handlers that make no difference. -/
theorem answerLine_keeps (line : String) {s : Pages × World} (h : Handled s) :
    SamePages s (answerLine refusal line s).2 ∧ Handled (answerLine refusal line s).2 := by
  rw [answerLine]
  cases Json.ofText? Levels.document line with
  | none => exact ⟨.refl s, h⟩
  | some message => exact ⟨samePages_dispatch message s, handled_dispatch h message⟩

/-- A line is answered alike wherever the pages are the same. -/
theorem answerLine_eq_of_same {s t : Pages × World} (h : SamePages s t) (hs : Handled s)
    (ht : Handled t) (line : String) :
    (answerLine refusal line t).1 = (answerLine refusal line s).1 := by
  rw [answerLine, answerLine]
  cases Json.ofText? Levels.document line with
  | none => rfl
  | some message =>
    have hReply := dispatch_eq_of_same h hs ht message
    show (((dispatch message t).1).getD .null).render = (((dispatch message s).1).getD .null).render
    rw [hReply]

/-- What a line is answered with is compact JSON. -/
theorem lineAnswer_eq (pages : List PageSource) (w : World) (line : String) :
    lineAnswer refusal pages w line =
      ((Json.ofText? Levels.document line).elim (invalidMessage (refusal line)) fun message =>
        (dispatch message (.ofSources pages, w)).1.getD .null).render := by
  rw [lineAnswer, answerLine]
  cases Json.ofText? Levels.document line with
  | none => rfl
  | some message => rfl

theorem newline_not_mem_lineAnswer (pages : List PageSource) (w : World) (line : String) :
    '\n' ∉ (lineAnswer refusal pages w line).toList := by
  rw [lineAnswer_eq]
  exact newline_not_mem_render _

/-- What can be made of a message: null, a refusal of its tab, or a reply that reports a page or
refuses. -/
theorem answer_cases (message : Json) (s : Pages × World) :
    let answer := ((dispatch message s).1.getD .null).render
    (¬ AsksPage message ∧ ¬ AsksRelay message → answer = "null") ∧
    (AsksRelay message → (message.get? "tabId").bind CaptureRequest.tab? = none →
      answer = invalidTab.toJson.render) ∧
    (AsksPage message ∨ AsksRelay message → ∃ reply, answer = reply.render ∧
      (Reports reply (messageScope message) ∨ Refuses reply)) := by
  refine ⟨fun hForeign => ?_, fun hRelay hTab => ?_, fun hAsks => ?_⟩
  · rw [dispatch_other hForeign.1 hForeign.2]
    rfl
  · rw [dispatch_invalidTab hRelay hTab]
    rfl
  · rcases dispatch_spec message s with ⟨reply, hReply, -, -, hKind⟩ | ⟨-, hPage, hRelay⟩
    · exact ⟨reply, by rw [hReply]; rfl, hKind⟩
    · exact absurd hAsks (not_or.mpr ⟨hPage, hRelay⟩)

/-! ## 2. All lines -/

/-- **Each line is answered on its own**, whatever came before it. -/
theorem answerLines_eq_map {s : Pages × World} (hs : Handled s) :
    ∀ (lines : List String) {t : Pages × World}, SamePages s t → Handled t →
      (answerLines refusal lines t).1 = lines.map (fun line => (answerLine refusal line s).1) ∧
        SamePages s (answerLines refusal lines t).2
  | [], _, hSame, _ => ⟨rfl, hSame⟩
  | line :: rest, t, hSame, ht => by
      obtain ⟨hStep, hHandled⟩ := answerLine_keeps refusal line ht
      obtain ⟨hRest, hKept⟩ := answerLines_eq_map hs rest (hSame.trans hStep) hHandled
      refine ⟨?_, hKept⟩
      show (answerLine refusal line t).1 :: (answerLines refusal rest (answerLine refusal line t).2).1 = _
      rw [hRest, answerLine_eq_of_same refusal hSame hs ht, List.map_cons]

/-! ## 3. What is printed -/

/-- Texts with a line feed behind each. -/
def closedLines (texts : List String) : List Char :=
  texts.flatMap fun text => text.toList ++ ['\n']

/-- Texts without line feeds are the lines that they are printed as. -/
theorem lines_closedLines {texts : List String} (h : ∀ text ∈ texts, '\n' ∉ text.toList) :
    lines (closedLines texts) = texts.map String.toList ++ [[]] := by
  induction texts with
  | nil => rfl
  | cons text rest ih =>
    obtain ⟨hFirst, hRest⟩ := List.forall_mem_cons.mp h
    rw [closedLines, List.flatMap_cons, List.append_assoc, List.singleton_append, lines,
      pieces_append_self, pieces_of_not_mem hFirst, List.map_cons]
    exact congrArg (text.toList :: ·) (ih hRest)

theorem emit_all {σ : Type} (texts : List String) (s : Shell σ) :
    ∃ out, (texts.forM emit : Job σ Unit) s = (.ok (), { s with printed := { s.printed with out } }) ∧
      out.toList = s.printed.out.toList ++ closedLines texts := by
  induction texts generalizing s with
  | nil => exact ⟨s.printed.out, rfl, by simp [closedLines]⟩
  | cons text rest ih =>
    obtain ⟨out, hRun, hOut⟩ :=
      ih { s with printed := { s.printed with out := s.printed.out ++ text ++ "\n" } }
    refine ⟨out, hRun, ?_⟩
    rw [hOut]
    simp [closedLines, String.toList_append]

/-- The relay answers all lines, and then prints the answers. -/
theorem relayJob_run (s : Surroundings) (pages : List PageSource) (w : World) :
    let answered := answerLines s.words.message (messageLines s.input) (.ofSources pages, w)
    ∃ out, relayJob s pages ⟨w, .nothing⟩ = (.ok (), ⟨answered.2.2, ⟨out, []⟩⟩) ∧
      out.toList = closedLines answered.1 := by
  intro answered
  obtain ⟨out, hRun, hOut⟩ := emit_all answered.1 ⟨answered.2.2, .nothing⟩
  exact ⟨out, hRun, by simpa [Printed.nothing] using hOut⟩

/-- **The relay answers each line on a line of its own, and by itself.** Let the program be started as a
relay, over pages of any kind and with any input. It succeeds, and what it prints are the answers to the
lines that are not blank, in their order and each on one line; and the answer to a line is made from this
line and the pages alone. A line that is no JSON is answered with what the parser says of it, whatever
that is, a message that is for no one by null, and a message to a bad tab as such; any other message is
answered with a page, or with the reason why there is none. What the pages are made of is as it was. -/
theorem relay_answers_each_line {s : Surroundings} {args : List String} {w : World} {i : Invocation}
    {pages : List PageSource} (hParse : parse s.token args = .ok i)
    (hRelay : i.command = .relay pages) :
    let outcome := (run s args w).1
    let after := (run s args w).2
    let answer := lineAnswer s.words.message pages w
    outcome.code = 0 ∧ outcome.printed.notes = [] ∧
    lines outcome.printed.out.toList =
      (messageLines s.input).map (fun line => (answer line).toList) ++ [[]] ∧
    (∀ line,
      match Json.ofText? Levels.document line with
      | none => answer line = (invalidMessage (s.words.message line)).render
      | some message =>
        (¬ AsksPage message ∧ ¬ AsksRelay message → answer line = "null") ∧
        (AsksRelay message → (message.get? "tabId").bind CaptureRequest.tab? = none →
          answer line = invalidTab.toJson.render) ∧
        (AsksPage message ∨ AsksRelay message → ∃ reply, answer line = reply.render ∧
          (Reports reply (messageScope message) ∨ Refuses reply))) ∧
    after.disk = w.disk ∧ after.network.answer = w.network.answer := by
  have hFresh : Handled (.ofSources pages, w) := handled_ofSources pages w
  obtain ⟨hAnswers, hSame⟩ :=
    answerLines_eq_map s.words.message hFresh (messageLines s.input) (.refl _) hFresh
  obtain ⟨out, hRun, hOut⟩ := relayJob_run s pages w
  have hOutcome : run s args w = (⟨0, out, []⟩,
      (answerLines s.words.message (messageLines s.input) (.ofSources pages, w)).2.2) := by
    rw [run, hParse]
    simp only [hRelay, Command.job, hRun, outcomeOf]
  have hText : out.toList =
      closedLines ((messageLines s.input).map (lineAnswer s.words.message pages w)) := by
    rw [hOut, hAnswers]
    rfl
  have hOneLine : ∀ text ∈ (messageLines s.input).map (lineAnswer s.words.message pages w),
      '\n' ∉ text.toList := by
    intro text hMem
    obtain ⟨line, -, rfl⟩ := List.mem_map.mp hMem
    exact newline_not_mem_lineAnswer s.words.message pages w line
  rw [hOutcome]
  refine ⟨rfl, rfl, ?_, fun line => ?_, hSame.disk_eq, hSame.answer_eq⟩
  · rw [hText, lines_closedLines hOneLine, List.map_map]
    rfl
  · rw [lineAnswer_eq]
    cases Json.ofText? Levels.document line with
    | none => rfl
    | some message => exact answer_cases message _

/-- Lines from a terminal: two messages, one of them to a page that is gone, and between them a blank line
and one that is no JSON, with what a JSON parser says of it. -/
def terminalInput : Surroundings where
  home := none
  overrides := ⟨none, none⟩
  token := none
  input := "\x7b\"type\":\"captureSnapshot\",\"tabId\":1\x7d\r\n \nnonsense\n[]"
  words := ⟨fun _ => "expected ident at line 1 column 2", fun _ => "", fun _ => "", fun _ => ""⟩

/-- There are three answers, one below the other. -/
theorem terminalInput_answered :
    let w : World := ⟨⟨[], []⟩, .silent, .absent⟩
    let outcome := (run terminalInput ["relay", "gone.html"] w).1
    parse terminalInput.token ["relay", "gone.html"] = .ok ⟨0, .relay [.file "gone.html"]⟩ ∧
      outcome.code = 0 ∧ (lines outcome.printed.out.toList).map String.ofList =
        ["\x7b\"ok\":false,\"error\":\"Could not establish connection: gone.html not found\"\x7d",
          "\x7b\"ok\":false,\"error\":\"invalid message: expected ident at line 1 column 2\"\x7d",
          "null", ""] := by
  intro w outcome
  have hParse : parse terminalInput.token ["relay", "gone.html"] =
      .ok ⟨0, .relay [.file "gone.html"]⟩ := by decide +kernel
  obtain ⟨hCode, -, hLines, -⟩ := relay_answers_each_line (w := w) hParse rfl
  refine ⟨hParse, hCode, ?_⟩
  rw [hLines]
  decide +kernel

end PageQuery.CommandLine
