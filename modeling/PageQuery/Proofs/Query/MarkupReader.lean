import Mathlib.Logic.Relation
import PageQuery.Proofs.Text.Basic
import PageQuery.Query.Style
/-!
Highlighted markup, read back.

The reader here takes a text apart at its tags and undoes the three references; it knows nothing of
tokens. It is strict: a tag other than that of a span, a span inside a span, a bracket that belongs to
no tag and an ampersand that begins no reference are refused.

What it can recover of a token list is each text with its class. Texts without a class have no border
between them and leave nothing where they are empty, so they are recovered as far as that goes:
`Condenses` is the step by which an empty one is left out or two neighbours become one. The main
statement is `read_markup`. It holds of every list of tokens, so no text can open, close or forge a
span.
-/

namespace PageQuery.Query.Markup

open Text

/-! ## 1. Pieces of text -/

/-- A text and the class of the span that it stands in, if it stands in one. -/
structure Piece where
  css : Option String
  text : List Char
  deriving DecidableEq, Repr

/-- What a token is to a reader. -/
def Piece.ofToken (t : Token) : Piece := ⟨cssClass? t.kind, t.text⟩

/-- A text outside spans, unless it is empty. -/
def loose (text : List Char) : List Piece := if text = [] then [] else [⟨none, text⟩]

/-- One step of what cannot be told apart outside spans: an empty text is left out, or two texts next
to each other become one. -/
inductive Condenses : List Piece → List Piece → Prop
  | drop (before after : List Piece) :
      Condenses (before ++ ⟨none, []⟩ :: after) (before ++ after)
  | merge (before after : List Piece) (a b : List Char) :
      Condenses (before ++ ⟨none, a⟩ :: ⟨none, b⟩ :: after) (before ++ ⟨none, a ++ b⟩ :: after)

/-- No step is left. -/
def IsCondensed (ps : List Piece) : Prop := ∀ qs, ¬ Condenses ps qs

/-- The pieces with what is outside spans gathered up to the next span, where some of it was gathered
before. -/
def gather (pending : List Char) : List Piece → List Piece
  | [] => loose pending
  | ⟨none, text⟩ :: rest => gather (pending ++ text) rest
  | ⟨some name, text⟩ :: rest => loose pending ++ ⟨some name, text⟩ :: gather [] rest

/-! ## 2. The reader -/

/-- Undo the references. There are three. -/
def unescape? : List Char → Option (List Char)
  | '&' :: 'a' :: 'm' :: 'p' :: ';' :: rest => (unescape? rest).map ('&' :: ·)
  | '&' :: 'l' :: 't' :: ';' :: rest => (unescape? rest).map ('<' :: ·)
  | '&' :: 'g' :: 't' :: ';' :: rest => (unescape? rest).map ('>' :: ·)
  | c :: rest => if c = '&' then none else (unescape? rest).map (c :: ·)
  | [] => some []

def spanStart : List Char := "span class=\"".toList

def spanEnd : List Char := "/span".toList

/-- The class that the inside of a tag gives a span. -/
def spanClass? (tag : List Char) : Option String :=
  let name := (tag.drop spanStart.length).takeWhile (· ≠ '"')
  if tag = spanStart ++ (name ++ ['"']) then some (String.ofList name) else none

/-- The class of the span that is open, the inside of the tag being read, the text since the last tag
as it is written, and the pieces before it. -/
structure Reader where
  css : Option String
  tag : Option (List Char)
  text : List Char
  done : List Piece

namespace Reader

/-- The pieces once the text has ended. -/
def endText? (s : Reader) : Option (List Piece) :=
  (unescape? s.text).map fun text =>
    s.done ++ match s.css with
      | none => loose text
      | some name => [⟨some name, text⟩]

/-- A tag is read: outside spans it must open one, and inside of one it must close it. -/
def endTag? (s : Reader) (tag : List Char) : Option Reader :=
  match s.css with
  | none =>
    (spanClass? tag).bind fun name => s.endText?.map fun done => ⟨some name, none, [], done⟩
  | some _ => if tag = spanEnd then s.endText?.map fun done => ⟨none, none, [], done⟩ else none

/-- One character; none where no reading is right. -/
def step? (s : Reader) (c : Char) : Option Reader :=
  match s.tag with
  | some tag => if c = '>' then s.endTag? tag else some { s with tag := some (tag ++ [c]) }
  | none =>
    if c = '<' then some { s with tag := some [] }
    else if c = '>' then none
    else some { s with text := s.text ++ [c] }

def run? (s : Reader) (cs : List Char) : Option Reader := cs.foldlM step? s

/-- The pieces once everything is read. No tag and no span may be open. -/
def finish? (s : Reader) : Option (List Piece) :=
  match s.css, s.tag with
  | none, none => s.endText?
  | _, _ => none

end Reader

/-- The pieces of a highlighted text; none if it is not one. -/
def read (cs : List Char) : Option (List Piece) :=
  (Reader.run? ⟨none, none, [], []⟩ cs).bind Reader.finish?

/-! ## 3. References -/

/-- Three characters are written as references, and every other one as itself. -/
theorem escapeMarkupChar_cases (c : Char) :
    c = '&' ∨ c = '<' ∨ c = '>' ∨ (c ≠ '&' ∧ c ≠ '<' ∧ c ≠ '>' ∧ escapeMarkupChar c = [c]) := by
  by_cases hAmpersand : c = '&'
  · exact Or.inl hAmpersand
  by_cases hLess : c = '<'
  · exact Or.inr (Or.inl hLess)
  by_cases hGreater : c = '>'
  · exact Or.inr (Or.inr (Or.inl hGreater))
  refine Or.inr (Or.inr (Or.inr ⟨hAmpersand, hLess, hGreater, ?_⟩))
  rw [escapeMarkupChar, if_neg hAmpersand, if_neg hLess, if_neg hGreater]

theorem unescape?_cons {c : Char} (h : c ≠ '&') (rest : List Char) :
    unescape? (c :: rest) = (unescape? rest).map (c :: ·) := by
  rw [unescape?.eq_def]
  split <;> simp_all

theorem unescape?_escapeMarkupChar (c : Char) (rest : List Char) :
    unescape? (escapeMarkupChar c ++ rest) = (unescape? rest).map (c :: ·) := by
  rcases escapeMarkupChar_cases c with rfl | rfl | rfl | ⟨hAmpersand, -, -, hSelf⟩
  · rfl
  · rfl
  · rfl
  · rw [hSelf, List.singleton_append, unescape?_cons hAmpersand]

/-- A written text is read back, whatever it looks like. -/
theorem unescape?_escapeMarkup (cs : List Char) : unescape? (escapeMarkup cs) = some cs := by
  induction cs with
  | nil => rfl
  | cons c rest ih =>
    have hSplit : escapeMarkup (c :: rest) = escapeMarkupChar c ++ escapeMarkup rest := rfl
    rw [hSplit, unescape?_escapeMarkupChar, ih, Option.map_some]

theorem not_mem_escapeMarkupChar (d : Char) :
    '<' ∉ escapeMarkupChar d ∧ '>' ∉ escapeMarkupChar d := by
  rcases escapeMarkupChar_cases d with rfl | rfl | rfl | ⟨-, hLess, hGreater, hSelf⟩
  · decide
  · decide
  · decide
  · simp [hSelf, Ne.symm hLess, Ne.symm hGreater]

/-- A written text holds no bracket of a tag. -/
theorem ne_bracket_of_mem_escapeMarkup {cs : List Char} :
    ∀ c ∈ escapeMarkup cs, c ≠ '<' ∧ c ≠ '>' := by
  intro c hMem
  obtain ⟨d, -, hIn⟩ := List.mem_flatMap.mp hMem
  obtain ⟨hLess, hGreater⟩ := not_mem_escapeMarkupChar d
  constructor
  · rintro rfl
    exact hLess hIn
  · rintro rfl
    exact hGreater hIn

theorem escapeMarkup_append (as bs : List Char) :
    escapeMarkup (as ++ bs) = escapeMarkup as ++ escapeMarkup bs := by
  simp [escapeMarkup]

/-! ## 4. Tags -/

/-- The names of classes hold nothing that ends a name or a tag. -/
theorem not_mem_cssClass {kind : TokenKind} {name : String} (h : cssClass? kind = some name) :
    '"' ∉ name.toList ∧ '>' ∉ name.toList := by
  cases kind with
  | identifier | whitespace | other => cases h
  | comment | string | operator | punctuation | number | keyword | function =>
    cases h
    decide

/-- A token with a class is written as its text between two tags. -/
theorem tokenMarkup_classed {t : Token} {name : String} (h : cssClass? t.kind = some name) :
    tokenMarkup t =
      '<' :: (spanStart ++ (name.toList ++ ['"']) ++ ['>']) ++
        (escapeMarkup t.text ++ '<' :: (spanEnd ++ ['>'])) := by
  have hOpening : "<span class=\"".toList = '<' :: spanStart := by decide
  have hMiddle : "\">".toList = ['"', '>'] := by decide
  have hClosing : "</span>".toList = '<' :: (spanEnd ++ ['>']) := by decide
  rw [tokenMarkup, h]
  simp only [hOpening, hMiddle, hClosing, List.append_assoc, List.cons_append, List.nil_append]

theorem spanClass?_spanStart {name : String} (h : '"' ∉ name.toList) :
    spanClass? (spanStart ++ (name.toList ++ ['"'])) = some name := by
  have hName : (name.toList ++ ['"']).takeWhile (· ≠ '"') = name.toList := by
    rw [takeWhile_ne_append h]
    simp
  rw [spanClass?, List.drop_left, hName, if_pos rfl, String.ofList_toList]

namespace Reader

theorem run?_cons (s : Reader) (c : Char) (rest : List Char) :
    s.run? (c :: rest) = (s.step? c).bind fun t => t.run? rest := List.foldlM_cons

theorem run?_append (s : Reader) (as bs : List Char) :
    s.run? (as ++ bs) = (s.run? as).bind fun t => t.run? bs := List.foldlM_append

/-- Text without brackets is read as it stands. -/
theorem run?_text (css : Option String) (done : List Piece) : ∀ (cs text : List Char),
    (∀ c ∈ cs, c ≠ '<' ∧ c ≠ '>') →
    run? ⟨css, none, text, done⟩ cs = some ⟨css, none, text ++ cs, done⟩
  | [], text, _ => by
      rw [List.append_nil]
      rfl
  | c :: rest, text, h => by
      obtain ⟨hLess, hGreater⟩ := h c List.mem_cons_self
      have hStep : step? ⟨css, none, text, done⟩ c = some ⟨css, none, text ++ [c], done⟩ := by
        simp [step?, hLess, hGreater]
      rw [run?_cons, hStep, Option.bind_some,
        run?_text css done rest (text ++ [c]) fun d hMem => h d (List.mem_cons_of_mem c hMem),
        List.append_assoc]
      rfl

/-- The inside of a tag is read up to the bracket that ends it. -/
theorem run?_inside (css : Option String) (text : List Char) (done : List Piece) :
    ∀ (tag seen : List Char), '>' ∉ tag →
    run? ⟨css, some seen, text, done⟩ tag = some ⟨css, some (seen ++ tag), text, done⟩
  | [], seen, _ => by
      rw [List.append_nil]
      rfl
  | c :: rest, seen, h => by
      simp only [List.mem_cons, not_or] at h
      have hStep : step? ⟨css, some seen, text, done⟩ c =
          some ⟨css, some (seen ++ [c]), text, done⟩ := by
        simp [step?, Ne.symm h.1]
      rw [run?_cons, hStep, Option.bind_some, run?_inside css text done rest (seen ++ [c]) h.2,
        List.append_assoc]
      rfl

/-- A tag is read as a whole. -/
theorem run?_tag (css : Option String) (text : List Char) (done : List Piece) {tag : List Char}
    (h : '>' ∉ tag) :
    run? ⟨css, none, text, done⟩ ('<' :: (tag ++ ['>'])) =
      endTag? ⟨css, some tag, text, done⟩ tag := by
  have hOpen : step? ⟨css, none, text, done⟩ '<' = some ⟨css, some [], text, done⟩ := rfl
  have hClose : step? ⟨css, some tag, text, done⟩ '>' =
      endTag? ⟨css, some tag, text, done⟩ tag := rfl
  rw [run?_cons, hOpen, Option.bind_some, run?_append, run?_inside css text done tag [] h,
    Option.bind_some, List.nil_append, run?_cons, hClose]
  exact Option.bind_fun_some _

/-! ## 5. Tokens -/

theorem endText?_loose (tag : Option (List Char)) (pending : List Char) (done : List Piece) :
    endText? ⟨none, tag, escapeMarkup pending, done⟩ = some (done ++ loose pending) := by
  rw [endText?, unescape?_escapeMarkup]
  rfl

theorem endText?_span (name : String) (tag : Option (List Char)) (text : List Char)
    (done : List Piece) :
    endText? ⟨some name, tag, escapeMarkup text, done⟩ = some (done ++ [⟨some name, text⟩]) := by
  rw [endText?, unescape?_escapeMarkup]
  rfl

/-- A token without a class adds to the text that is pending. -/
theorem run?_unclassed {t : Token} (h : cssClass? t.kind = none) (pending : List Char)
    (done : List Piece) :
    run? ⟨none, none, escapeMarkup pending, done⟩ (tokenMarkup t) =
      some ⟨none, none, escapeMarkup (pending ++ t.text), done⟩ := by
  have hMarkup : tokenMarkup t = escapeMarkup t.text := by rw [tokenMarkup, h]
  rw [hMarkup, run?_text none done _ _ ne_bracket_of_mem_escapeMarkup, escapeMarkup_append]

/-- A token with a class ends the text that is pending and is a span of its own. -/
theorem run?_classed {t : Token} {name : String} (h : cssClass? t.kind = some name)
    (pending : List Char) (done : List Piece) :
    run? ⟨none, none, escapeMarkup pending, done⟩ (tokenMarkup t) =
      some ⟨none, none, [], done ++ loose pending ++ [⟨some name, t.text⟩]⟩ := by
  obtain ⟨hQuote, hBracket⟩ := not_mem_cssClass h
  have hStart : '>' ∉ spanStart ++ (name.toList ++ ['"']) := by
    have hFixed : '>' ∉ spanStart := by decide
    simp [hFixed, hBracket]
  have hOpened : endTag? ⟨none, some (spanStart ++ (name.toList ++ ['"'])), escapeMarkup pending,
      done⟩ (spanStart ++ (name.toList ++ ['"'])) =
        some ⟨some name, none, [], done ++ loose pending⟩ := by
    rw [endTag?]
    simp only [spanClass?_spanStart hQuote, endText?_loose, Option.bind_some, Option.map_some]
  have hClosed : endTag? ⟨some name, some spanEnd, escapeMarkup t.text, done ++ loose pending⟩
      spanEnd = some ⟨none, none, [], done ++ loose pending ++ [⟨some name, t.text⟩]⟩ := by
    rw [endTag?]
    simp only [if_pos, endText?_span, Option.map_some]
  rw [tokenMarkup_classed h, run?_append, run?_tag none _ _ hStart, hOpened, Option.bind_some,
    run?_append, run?_text (some name) _ _ [] ne_bracket_of_mem_escapeMarkup, Option.bind_some,
    List.nil_append, run?_tag (some name) _ _ (by decide), hClosed]

/-- Written tokens are read one by one, after what was read before. -/
theorem run?_markup (tokens : List Token) : ∀ (pending : List Char) (done : List Piece),
    (run? ⟨none, none, escapeMarkup pending, done⟩ (markup tokens)).bind finish? =
      some (done ++ gather pending (tokens.map Piece.ofToken)) := by
  -- Between tokens the reader holds the written form of all that stands since the last span.
  induction tokens with
  | nil =>
    intro pending done
    exact endText?_loose none pending done
  | cons t rest ih =>
    intro pending done
    rw [markup_cons, run?_append, List.map_cons, Piece.ofToken]
    cases hClass : cssClass? t.kind with
    | none =>
      rw [run?_unclassed hClass, Option.bind_some, ih, gather]
    | some name =>
      have hRest := ih [] (done ++ loose pending ++ [⟨some name, t.text⟩])
      rw [run?_classed hClass, Option.bind_some, gather]
      simpa [escapeMarkup] using hRest

end Reader

/-! ## 6. What cannot be told apart -/

/-- All of the text is kept. -/
theorem Condenses.text_eq {ps qs : List Piece} (h : Condenses ps qs) :
    qs.flatMap (·.text) = ps.flatMap (·.text) := by
  cases h with
  | drop before after => simp
  | merge before after a b => simp

/-- The spans are kept as they are. -/
theorem Condenses.spans_eq {ps qs : List Piece} (h : Condenses ps qs) :
    qs.filter (·.css.isSome) = ps.filter (·.css.isSome) := by
  cases h with
  | drop before after => simp
  | merge before after a b => simp

theorem Condenses.cons {ps qs : List Piece} (h : Condenses ps qs) (p : Piece) :
    Condenses (p :: ps) (p :: qs) := by
  cases h with
  | drop before after => exact .drop (p :: before) after
  | merge before after a b => exact .merge (p :: before) after a b

/-- A step of a list is one of its tail, unless the first piece takes part in it. -/
theorem Condenses.of_cons {p : Piece} {ps qs : List Piece} (h : Condenses (p :: ps) qs) :
    (∃ rest, Condenses ps rest) ∨
      (p.css = none ∧ (p.text = [] ∨ ∃ b rest, ps = ⟨none, b⟩ :: rest)) := by
  -- The step is in the tail as soon as there is anything in front of its place.
  generalize hList : p :: ps = whole at h
  cases h with
  | drop before after =>
    cases before with
    | nil =>
      cases hList
      exact Or.inr ⟨rfl, Or.inl rfl⟩
    | cons first more =>
      cases hList
      exact Or.inl ⟨_, .drop more after⟩
  | merge before after a b =>
    cases before with
    | nil =>
      cases hList
      exact Or.inr ⟨rfl, Or.inr ⟨b, after, rfl⟩⟩
    | cons first more =>
      cases hList
      exact Or.inl ⟨_, .merge more after a b⟩

theorem isCondensed_nil : IsCondensed [] := by
  intro qs h
  generalize hList : ([] : List Piece) = whole at h
  cases h with
  | drop before after => simp at hList
  | merge before after a b => simp at hList

theorem IsCondensed.span {ps : List Piece} (h : IsCondensed ps) (name : String)
    (text : List Char) : IsCondensed (⟨some name, text⟩ :: ps) := by
  intro qs hStep
  rcases hStep.of_cons with ⟨rest, hRest⟩ | ⟨hNone, -⟩
  · exact h rest hRest
  · cases hNone

/-- A loose text may stand before a span and at the end. -/
theorem IsCondensed.loose {ps : List Piece} (h : IsCondensed ps)
    (hNext : ∀ b rest, ps ≠ ⟨none, b⟩ :: rest) (text : List Char) :
    IsCondensed (Markup.loose text ++ ps) := by
  by_cases hEmpty : text = []
  · simpa [Markup.loose, hEmpty] using h
  · intro qs hStep
    rw [Markup.loose, if_neg hEmpty, List.singleton_append] at hStep
    rcases hStep.of_cons with ⟨rest, hRest⟩ | ⟨-, hText | ⟨b, rest, hBoth⟩⟩
    · exact h rest hRest
    · exact hEmpty hText
    · exact hNext b rest hBoth

theorem isCondensed_gather : ∀ (ps : List Piece) (pending : List Char),
    IsCondensed (gather pending ps)
  | [], pending => by
      simpa [gather] using isCondensed_nil.loose (by simp) pending
  | ⟨none, text⟩ :: rest, pending => isCondensed_gather rest (pending ++ text)
  | ⟨some name, text⟩ :: rest, pending => by
      rw [gather]
      exact ((isCondensed_gather rest []).span name text).loose (by simp) pending

/-- Gathering takes no other steps. -/
theorem condenses_gather : ∀ (ps : List Piece) (pending : List Char),
    Relation.ReflTransGen Condenses (loose pending ++ ps) (gather pending ps)
  | [], pending => by
      rw [gather, List.append_nil]
  | ⟨none, text⟩ :: rest, pending => by
      have hRest := condenses_gather rest (pending ++ text)
      refine Relation.ReflTransGen.trans ?_ hRest
      by_cases hPending : pending = []
      · by_cases hText : text = []
        · simpa [loose, hPending, hText] using Relation.ReflTransGen.single (Condenses.drop [] rest)
        · simpa [loose, hPending, hText] using Relation.ReflTransGen.refl
      · simpa [loose, hPending] using
          Relation.ReflTransGen.single (Condenses.merge [] rest pending text)
  | ⟨some name, text⟩ :: rest, pending => by
      have hRest : Relation.ReflTransGen Condenses (⟨some name, text⟩ :: rest)
          (⟨some name, text⟩ :: gather [] rest) :=
        (condenses_gather rest []).lift (⟨some name, text⟩ :: ·) fun _ _ h => h.cons _
      rw [gather, loose]
      split
      · exact hRest
      · exact hRest.lift (⟨none, pending⟩ :: ·) fun _ _ h => h.cons _

section

variable {ps qs : List Piece}

theorem text_eq_of_condenses (h : Relation.ReflTransGen Condenses ps qs) :
    qs.flatMap (·.text) = ps.flatMap (·.text) := by
  induction h with
  | refl => rfl
  | tail _ hStep ih => exact hStep.text_eq.trans ih

theorem spans_eq_of_condenses (h : Relation.ReflTransGen Condenses ps qs) :
    qs.filter (·.css.isSome) = ps.filter (·.css.isSome) := by
  induction h with
  | refl => rfl
  | tail _ hStep ih => exact hStep.spans_eq.trans ih

end

/-- **Reading highlighted tokens gives them back**, whatever they hold. The pieces are the tokens'
texts with their classes, but for empty texts without a class, which are left out, and neighbours
without a class, which are one. So the spans are exactly the tokens that have a class, in their order
and each with its own text, and all the text together is the tokens' text. -/
theorem read_markup (tokens : List Token) :
    ∃ pieces, read (markup tokens) = some pieces ∧
      Relation.ReflTransGen Condenses (tokens.map Piece.ofToken) pieces ∧ IsCondensed pieces ∧
      pieces.filter (·.css.isSome) = (tokens.map Piece.ofToken).filter (·.css.isSome) ∧
      pieces.flatMap (·.text) = plainText tokens := by
  have hRead : read (markup tokens) = some (gather [] (tokens.map Piece.ofToken)) :=
    Reader.run?_markup tokens [] []
  have hCondenses : Relation.ReflTransGen Condenses (tokens.map Piece.ofToken)
      (gather [] (tokens.map Piece.ofToken)) := condenses_gather _ []
  have hText : (tokens.map Piece.ofToken).flatMap (·.text) = plainText tokens := by
    rw [List.flatMap_map]
    rfl
  exact ⟨_, hRead, hCondenses, isCondensed_gather _ [], spans_eq_of_condenses hCondenses,
    (text_eq_of_condenses hCondenses).trans hText⟩

/-- A text that looks like a tag, one that looks like a reference, and two that run together. -/
example :
    read (markup [⟨.identifier, "</span>".toList⟩, ⟨.string, "&lt;".toList⟩, ⟨.keyword, []⟩,
      ⟨.other, "<".toList⟩, ⟨.whitespace, []⟩, ⟨.identifier, "b>".toList⟩]) =
    some [⟨none, "</span>".toList⟩, ⟨some "sql-str", "&lt;".toList⟩, ⟨some "sql-kw", []⟩,
      ⟨none, "<b>".toList⟩] := by
  decide

end PageQuery.Query.Markup
