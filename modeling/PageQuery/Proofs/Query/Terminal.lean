import PageQuery.Proofs.Number.Exact
import PageQuery.Proofs.Text.Basic
import PageQuery.Query.Style
/-!
Coloured query text, read by a terminal.

`Terminal` reads one character at a time. It shows the character in the look of its pen, or collects a
control sequence, and `Style.obeying` is what a complete sequence does to the pen. `Terminal.read_text`
and `Terminal.read_control` are what a plain text and a sequence do, `Terminal.read_ansiText` puts them
together for one coloured text, and `Terminal.read_coloured` is the induction over the tokens: the
invariant is that the terminal is at rest between them. `withoutControls` takes the sequences out again
without looking at what they mean. The main statement is `colours_stay_in_tokens`.
-/

namespace PageQuery.Query

open Number Text

/-! ## 1. A terminal -/

/-- The look of a pen after the numbers of a control sequence. Numbers that do not concern colour,
bold or italic are passed over. -/
def Style.obeying : Style → List Nat → Style
  | pen, [] => pen
  | _, 0 :: rest => obeying .plain rest
  | pen, 1 :: rest => obeying { pen with bold := true } rest
  | pen, 3 :: rest => obeying { pen with italic := true } rest
  | pen, 22 :: rest => obeying { pen with bold := false } rest
  | pen, 23 :: rest => obeying { pen with italic := false } rest
  | pen, 38 :: 2 :: red :: green :: blue :: rest =>
    obeying { pen with colour := some ⟨red, green, blue⟩ } rest
  | pen, 39 :: rest => obeying { pen with colour := none } rest
  | pen, _ :: rest => obeying pen rest

/-- Where a terminal is in what it reads. -/
inductive Terminal.Place where
  /-- In text. -/
  | text
  /-- Behind an escape character. -/
  | escape
  /-- In a control sequence, behind these parameters. -/
  | control (parameters : List Char)

/-- A terminal: the characters it has shown, each in its look, the pen, and what is being read. -/
structure Terminal where
  shown : List (Char × Style)
  pen : Style
  place : Terminal.Place

/-- The numbers that the parameters of a control sequence are. -/
def numbersOf (parameters : List Char) : List Nat := (pieces ';' parameters).map naturalOf

def isParameter (c : Char) : Bool := isDigit c || c == ';'

namespace Terminal

/-- A terminal that has shown nothing. -/
def fresh : Terminal := ⟨[], .plain, .text⟩

/-- Read a character. A sequence that ends otherwise than in `m` is not about the pen. -/
def step (t : Terminal) (c : Char) : Terminal :=
  match t.place with
  | .text =>
    if c = '\x1b' then { t with place := .escape }
    else { t with shown := t.shown ++ [(c, t.pen)] }
  | .escape => { t with place := if c = '[' then .control [] else .text }
  | .control parameters =>
    if c = 'm' then { t with pen := t.pen.obeying (numbersOf parameters), place := .text }
    else if isParameter c then { t with place := .control (parameters ++ [c]) }
    else { t with place := .text }

theorem step_text (shown : List (Char × Style)) (pen : Style) {c : Char} (h : c ≠ '\x1b') :
    step ⟨shown, pen, .text⟩ c = ⟨shown ++ [(c, pen)], pen, .text⟩ := by
  simp [step, h]

theorem step_parameter (shown : List (Char × Style)) (pen : Style) (before : List Char) {c : Char}
    (h : isParameter c = true) :
    step ⟨shown, pen, .control before⟩ c = ⟨shown, pen, .control (before ++ [c])⟩ := by
  have hm : c ≠ 'm' := by
    rintro rfl
    exact absurd h (by decide)
  simp [step, h, hm]

/-- Read a text. -/
def read (t : Terminal) (cs : List Char) : Terminal := cs.foldl step t

@[simp] theorem read_nil (t : Terminal) : t.read [] = t := rfl

@[simp] theorem read_cons (t : Terminal) (c : Char) (cs : List Char) :
    t.read (c :: cs) = (t.step c).read cs := rfl

@[simp] theorem read_append (t : Terminal) (a b : List Char) :
    t.read (a ++ b) = (t.read a).read b := by
  simp [read]

/-! ## 2. Texts and control sequences -/

/-- A text in one look. -/
def inked (style : Style) (text : List Char) : List (Char × Style) := text.map fun c => (c, style)

theorem read_text (shown : List (Char × Style)) (pen : Style) {cs : List Char} (h : '\x1b' ∉ cs) :
    read ⟨shown, pen, .text⟩ cs = ⟨shown ++ inked pen cs, pen, .text⟩ := by
  induction cs generalizing shown with
  | nil => simp [inked]
  | cons c cs ih =>
    have hc : c ≠ '\x1b' := fun heq => h (heq ▸ List.mem_cons_self)
    have hcs : '\x1b' ∉ cs := fun hmem => h (List.mem_cons_of_mem c hmem)
    rw [read_cons, step_text shown pen hc, ih _ hcs]
    simp [inked]

theorem read_parameters (shown : List (Char × Style)) (pen : Style) (before : List Char)
    {parameters : List Char} (h : ∀ c ∈ parameters, isParameter c = true) :
    read ⟨shown, pen, .control before⟩ parameters
      = ⟨shown, pen, .control (before ++ parameters)⟩ := by
  induction parameters generalizing before with
  | nil => simp
  | cons c cs ih =>
    have hc := h c List.mem_cons_self
    have hcs : ∀ d ∈ cs, isParameter d = true := fun d hd => h d (List.mem_cons_of_mem c hd)
    rw [read_cons, step_parameter shown pen before hc, ih _ hcs]
    simp

/-- A control sequence shows nothing and changes the pen as its numbers say. -/
theorem read_control (shown : List (Char × Style)) (pen : Style) {parameters : List Char}
    (h : ∀ c ∈ parameters, isParameter c = true) :
    read ⟨shown, pen, .text⟩ (control parameters)
      = ⟨shown, pen.obeying (numbersOf parameters), .text⟩ := by
  have hopen : read ⟨shown, pen, .text⟩ ['\x1b', '['] = ⟨shown, pen, .control []⟩ := rfl
  have hsplit : control parameters = ['\x1b', '['] ++ (parameters ++ ['m']) := rfl
  rw [hsplit, read_append, read_append, hopen, read_parameters shown pen [] h]
  rfl

end Terminal

/-! ## 3. The colour of a sequence -/

/-- The parameters of the sequence that sets a colour. -/
def colourParameters (c : Rgb) : List Char :=
  ['3', '8'] ++ ';' :: (['2'] ++ ';' :: (naturalDigits c.red ++ ';' ::
    (naturalDigits c.green ++ ';' :: naturalDigits c.blue)))

theorem colourSequence_eq (c : Rgb) : colourSequence c = control (colourParameters c) := by
  have hstart : "38;2;".toList = ['3', '8', ';', '2', ';'] := by decide
  rw [colourSequence, colourParameters, hstart]
  simp

theorem isParameter_of_mem_naturalDigits (n : Nat) :
    ∀ c ∈ naturalDigits n, isParameter c = true := by
  intro c hc
  rw [isParameter, isDigit_of_mem_naturalDigits hc, Bool.true_or]

theorem isParameter_of_mem_colourParameters (colour : Rgb) :
    ∀ c ∈ colourParameters colour, isParameter c = true := by
  have hsemicolon : isParameter ';' = true := by decide
  simp only [colourParameters, List.forall_mem_append, List.forall_mem_cons, List.not_mem_nil,
    false_imp_iff, implies_true, and_true]
  exact ⟨⟨by decide, by decide⟩, hsemicolon, by decide, hsemicolon,
    isParameter_of_mem_naturalDigits _, hsemicolon, isParameter_of_mem_naturalDigits _, hsemicolon,
    isParameter_of_mem_naturalDigits _⟩

theorem semicolon_not_mem_naturalDigits (n : Nat) : ';' ∉ naturalDigits n := by
  intro h
  exact absurd (isDigit_of_mem_naturalDigits h) (by decide)

/-- The numbers of a sequence are those it was written from. -/
theorem numbersOf_colourParameters (c : Rgb) :
    numbersOf (colourParameters c) = [38, 2, c.red, c.green, c.blue] := by
  have hnumbers (n : Nat) : pieces ';' (naturalDigits n) = [naturalDigits n] :=
    pieces_of_not_mem (semicolon_not_mem_naturalDigits n)
  have hstart : (pieces ';' ['3', '8'] ++ pieces ';' ['2']).map naturalOf = [38, 2] := by decide
  rw [numbersOf, colourParameters, pieces_append_self, pieces_append_self, pieces_append_self,
    pieces_append_self, hnumbers, hnumbers, hnumbers, ← List.append_assoc, List.map_append, hstart]
  simp [naturalOf_naturalDigits]

/-- A look without a colour has no weight either, so a text in it needs no reset. -/
def Style.IsSound (s : Style) : Prop := s.colour = none → s = .plain

theorem isSound_styleOf (kind : TokenKind) : (styleOf kind).IsSound := by
  unfold Style.IsSound
  cases kind <;> simp [styleOf]

namespace Terminal

theorem read_colourSequence (shown : List (Char × Style)) (pen : Style) (c : Rgb) :
    read ⟨shown, pen, .text⟩ (colourSequence c) = ⟨shown, { pen with colour := some c }, .text⟩ := by
  have hcontrol := read_control shown pen (isParameter_of_mem_colourParameters c)
  rw [numbersOf_colourParameters, ← colourSequence_eq] at hcontrol
  exact hcontrol

theorem read_bold (shown : List (Char × Style)) (colour : Option Rgb) (bold : Bool) :
    read ⟨shown, ⟨colour, false, false⟩, .text⟩ (if bold then control ['1'] else [])
      = ⟨shown, ⟨colour, bold, false⟩, .text⟩ := by
  cases bold <;> rfl

theorem read_italic (shown : List (Char × Style)) (colour : Option Rgb) (bold italic : Bool) :
    read ⟨shown, ⟨colour, bold, false⟩, .text⟩ (if italic then control ['3'] else [])
      = ⟨shown, ⟨colour, bold, italic⟩, .text⟩ := by
  cases italic <;> rfl

/-- Either form of reset brings back the default look: the short one is only written for a text
without weight. -/
theorem read_reset (shown : List (Char × Style)) (colour : Option Rgb) (bold italic : Bool) :
    read ⟨shown, ⟨colour, bold, italic⟩, .text⟩
        (if bold || italic then control ['0'] else control ['3', '9'])
      = ⟨shown, .plain, .text⟩ := by
  cases bold <;> cases italic <;> rfl

/-! ## 4. Tokens -/

/-- A text in a style is shown in that style, and the terminal is at rest again. -/
theorem read_ansiText (shown : List (Char × Style)) {style : Style} (hstyle : style.IsSound)
    {text : List Char} (h : '\x1b' ∉ text) :
    read ⟨shown, .plain, .text⟩ (ansiText style text)
      = ⟨shown ++ inked style text, .plain, .text⟩ := by
  obtain ⟨_ | colour, bold, italic⟩ := style
  · rw [hstyle rfl]
    exact read_text shown .plain h
  · have hcolour := read_colourSequence shown .plain colour
    simp only [Style.plain] at hcolour
    simp only [ansiText, read_append, Style.plain, hcolour, read_bold, read_italic]
    rw [read_text _ _ h, read_reset]
    rfl

end Terminal

/-- Tokens as they are printed. -/
def coloured (ts : List Token) : List Char := ts.flatMap fun t => ansiText (styleOf t.kind) t.text

/-- Tokens as they are to be shown: each character in the look of its token's kind. -/
def display (ts : List Token) : List (Char × Style) :=
  ts.flatMap fun t => Terminal.inked (styleOf t.kind) t.text

/-- Between tokens the terminal is at rest, with the default look. -/
theorem Terminal.read_coloured (shown : List (Char × Style)) {ts : List Token}
    (h : '\x1b' ∉ plainText ts) :
    read ⟨shown, .plain, .text⟩ (coloured ts) = ⟨shown ++ display ts, .plain, .text⟩ := by
  induction ts generalizing shown with
  | nil => simp [coloured, display]
  | cons t ts ih =>
    rw [plainText_cons, List.mem_append, not_or] at h
    have hfirst := read_ansiText shown (isSound_styleOf t.kind) h.1
    have hcoloured : coloured (t :: ts) = ansiText (styleOf t.kind) t.text ++ coloured ts := rfl
    rw [hcoloured, read_append, hfirst, ih _ h.2]
    simp [display]

theorem map_fst_display (ts : List Token) : (display ts).map (·.1) = plainText ts := by
  induction ts with
  | nil => rfl
  | cons t ts ih =>
    have hdisplay : display (t :: ts) = Terminal.inked (styleOf t.kind) t.text ++ display ts := rfl
    rw [hdisplay, List.map_append, ih, plainText_cons]
    simp [Terminal.inked, Function.comp_def]

/-! ## 5. Taking the sequences out -/

/-- A text without its control sequences: what stands from an escape character to the next `m` goes.
The flag says that such a stretch has begun. -/
def withoutControls : Bool → List Char → List Char
  | _, [] => []
  | true, c :: rest => withoutControls (c ≠ 'm') rest
  | false, c :: rest =>
    if c = '\x1b' then withoutControls true rest else c :: withoutControls false rest

theorem withoutControls_text {cs : List Char} (h : '\x1b' ∉ cs) (rest : List Char) :
    withoutControls false (cs ++ rest) = cs ++ withoutControls false rest := by
  induction cs with
  | nil => rfl
  | cons c cs ih =>
    rw [List.mem_cons, not_or] at h
    rw [List.cons_append, withoutControls, if_neg (Ne.symm h.1), ih h.2, List.cons_append]

theorem withoutControls_inside {cs : List Char} (h : 'm' ∉ cs) (rest : List Char) :
    withoutControls true (cs ++ 'm' :: rest) = withoutControls false rest := by
  induction cs with
  | nil => simp [withoutControls]
  | cons c cs ih =>
    rw [List.mem_cons, not_or] at h
    have hc : decide (c ≠ 'm') = true := decide_eq_true (Ne.symm h.1)
    rw [List.cons_append, withoutControls, hc, ih h.2]

theorem withoutControls_control {parameters : List Char}
    (h : ∀ c ∈ parameters, isParameter c = true) (rest : List Char) :
    withoutControls false (control parameters ++ rest) = withoutControls false rest := by
  have hm : 'm' ∉ '[' :: parameters := by
    intro hmem
    rcases List.mem_cons.mp hmem with heq | hmem
    · exact absurd heq (by decide)
    · exact absurd (h 'm' hmem) (by decide)
  have hcontrol : control parameters ++ rest = '\x1b' :: (('[' :: parameters) ++ 'm' :: rest) := by
    simp [control]
  rw [hcontrol, withoutControls, if_pos rfl, withoutControls_inside hm]

theorem withoutControls_ansiText (style : Style) {text : List Char} (h : '\x1b' ∉ text)
    (rest : List Char) :
    withoutControls false (ansiText style text ++ rest) = text ++ withoutControls false rest := by
  obtain ⟨_ | colour, bold, italic⟩ := style
  · exact withoutControls_text h rest
  · have hweight (c : Char) (hc : isParameter c = true) (set : Bool) (cs : List Char) :
        withoutControls false ((if set then control [c] else []) ++ cs) = withoutControls false cs := by
      cases set with
      | false => rfl
      | true => exact withoutControls_control (List.forall_mem_singleton.mpr hc) cs
    have hreset : withoutControls false
        ((if bold || italic then control ['0'] else control ['3', '9']) ++ rest)
          = withoutControls false rest := by
      split
      · exact withoutControls_control (List.forall_mem_singleton.mpr (by decide)) rest
      · exact withoutControls_control
          (List.forall_mem_cons.mpr ⟨by decide, List.forall_mem_singleton.mpr (by decide)⟩) rest
    simp only [ansiText, List.append_assoc]
    rw [colourSequence_eq, withoutControls_control (isParameter_of_mem_colourParameters colour),
      hweight '1' (by decide), hweight '3' (by decide), withoutControls_text h, hreset]

theorem withoutControls_coloured {ts : List Token} (h : '\x1b' ∉ plainText ts) :
    withoutControls false (coloured ts) = plainText ts := by
  induction ts with
  | nil => rfl
  | cons t ts ih =>
    rw [plainText_cons, List.mem_append, not_or] at h
    have hcoloured : coloured (t :: ts) = ansiText (styleOf t.kind) t.text ++ coloured ts := rfl
    rw [hcoloured, withoutControls_ansiText _ h.1, ih h.2, plainText_cons]

/-! ## 6. Queries -/

/-- **Colours stay in their tokens.** A query that is printed without an escape character of its own is
got back by taking the control sequences out. A terminal that reads it shows every character in the
look of its token's kind, and is back at the default look after each token. -/
theorem colours_stay_in_tokens {query : List Char} (h : '\x1b' ∉ query) :
    withoutControls false (ansi query) = query ∧
      Terminal.fresh.read (ansi query) = ⟨display (tokenize query), .plain, .text⟩ ∧
      (display (tokenize query)).map (·.1) = query ∧
      ∀ before after, tokenize query = before ++ after →
        Terminal.fresh.read (coloured before) = ⟨display before, .plain, .text⟩ ∧
          ansi query = coloured before ++ coloured after := by
  have hansi : ansi query = coloured (tokenize query) := rfl
  have hread {ts : List Token} (hts : '\x1b' ∉ plainText ts) :
      Terminal.fresh.read (coloured ts) = ⟨display ts, .plain, .text⟩ := Terminal.read_coloured [] hts
  rw [← plainText_tokenize query] at h
  refine ⟨?_, hread h, ?_, ?_⟩
  · rw [hansi, withoutControls_coloured h, plainText_tokenize]
  · rw [map_fst_display, plainText_tokenize]
  · intro before after hsplit
    rw [hsplit, plainText_append, List.mem_append, not_or] at h
    refine ⟨hread h.1, ?_⟩
    rw [hansi, hsplit]
    exact List.flatMap_append

/-- A comment before a number: its slant is gone behind it, and the number has its own colour. -/
theorem colours_stay_in_comment :
    '\x1b' ∉ "/*!*/7".toList ∧
      tokenize "/*!*/7".toList = [⟨.comment, "/*!*/".toList⟩] ++ [⟨.number, ['7']⟩] ∧
      Terminal.fresh.read (coloured [⟨.comment, "/*!*/".toList⟩])
        = ⟨"/*!*/".toList.map fun c => (c, styleOf .comment), .plain, .text⟩ ∧
      withoutControls false (ansi "/*!*/7".toList) = "/*!*/7".toList := by
  have h : '\x1b' ∉ "/*!*/7".toList := by decide
  have hsplit : tokenize "/*!*/7".toList
      = [⟨.comment, "/*!*/".toList⟩] ++ [⟨.number, ['7']⟩] := by
    have hcomment : firstToken '/' "*!*/7".toList = (⟨.comment, "/*!*/".toList⟩, ['7']) := by decide
    have hnumber : firstToken '7' [] = (⟨.number, ['7']⟩, []) := by decide
    have hquery : "/*!*/7".toList = '/' :: "*!*/7".toList := by decide
    rw [hquery, tokenize_cons, hcomment, tokenize_cons, hnumber, tokenize_nil]
    rfl
  obtain ⟨hback, -, -, htokens⟩ := colours_stay_in_tokens h
  exact ⟨h, hsplit, (htokens _ _ hsplit).1, hback⟩

end PageQuery.Query
