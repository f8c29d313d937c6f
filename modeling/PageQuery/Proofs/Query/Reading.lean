import PageQuery.Query.Tokenize
import PageQuery.Proofs.Text.Basic
/-!
The tokenizer reads a text as the rules say, and there is no other reading.

The rules are said without the tokenizer. There are nine of them in an order of precedence.
`Rule.Opens` says on what texts a rule can be used, `Rule.Governs` that it is the first one that can,
`Rule.Extends` how far its token reaches, and `Rule.Names` what kind the token is of. `Fits` puts the
four together for a token and the text behind it, and `IsReading` says it of a whole list of tokens. A
rule never leaves a choice: `Rule.governs_unique`, `Rule.extends_unique` and `Rule.names_unique` make up
`fits_unique`.

`Rule.first` is the token that one rule makes. Two facts about it carry everything: the rule that
governs a text makes the tokenizer's first token (`firstToken_eq_first`), and a token that a rule
allows is the one that it makes (`Rule.first_eq_of_extends`). The main statement is
`isReading_iff_eq_tokenize`.
-/

namespace PageQuery.Query

open Text

/-! ## 1. Marks and words -/

def punctuationMarks : List Char := ['(', ')', ',', '.', ';']

def operatorMarks : List Char := ['<', '>', '~', '=', ':', '+', '-', '*', '/']

/-- Two words differ at most in the case of ASCII letters. -/
def SameWord (a b : List Char) : Prop := a.map Char.toUpper = b.map Char.toUpper

/-- A word is in a vocabulary, in whatever case. -/
def Listed (vocabulary : List String) (word : List Char) : Prop :=
  ∃ w ∈ vocabulary, SameWord w.toList word

/-! ## 2. Extents -/

/-- All of `text` is of a class, and what follows does not go on with it. -/
def IsMaximalRun (p : Char → Prop) (text rest : List Char) : Prop :=
  (∀ c ∈ text, p c) ∧ ∀ c ∈ rest.head?, ¬ p c

/-- The body of a block comment reaches through the first `*/`, or to the end where there is none. -/
def EndsAtClose (body rest : List Char) : Prop :=
  (∃ inner, body = inner ++ ['*', '/'] ∧ ¬ ['*', '/'] <:+: inner) ∨
    (rest = [] ∧ ¬ ['*', '/'] <:+: body)

/-- A text with every quote in it doubled. -/
def doubled (cs : List Char) : List Char := cs.flatMap fun c => if c = '\'' then [c, c] else [c]

/-- The body of a quoted token reaches through the first quote that is not half of a doubled pair,
or to the end where there is none. -/
def EndsAtQuote (body rest : List Char) : Prop :=
  (∃ inner, body = doubled inner ++ ['\''] ∧ rest.head? ≠ some '\'') ∨
    (rest = [] ∧ ∃ inner, body = doubled inner)

/-! ## 3. The rules -/

/-- The rules in their order of precedence. -/
inductive Rule where
  | lineComment
  | blockComment
  | quoted
  | blank
  | punctuation
  | operators
  | number
  | word
  | single
  deriving DecidableEq

namespace Rule

def rank : Rule → Nat
  | lineComment => 0
  | blockComment => 1
  | quoted => 2
  | blank => 3
  | punctuation => 4
  | operators => 5
  | number => 6
  | word => 7
  | single => 8

/-- The texts at whose start a rule can be used. -/
def Opens : Rule → List Char → Prop
  | lineComment, cs => ['-', '-'] <+: cs
  | blockComment, cs => ['/', '*'] <+: cs
  | quoted, cs => ['\''] <+: cs
  | blank, cs => ∃ c ∈ cs.head?, isBlank c = true
  | punctuation, cs => ∃ c ∈ cs.head?, c ∈ punctuationMarks
  | operators, cs => ∃ c ∈ cs.head?, c ∈ operatorMarks
  | number, cs => ∃ c ∈ cs.head?, c.isDigit = true
  | word, cs => ∃ c ∈ cs.head?, c.isAlpha = true ∨ c = '_'
  | single, cs => cs ≠ []

/-- A rule can be used at the start of a text, and none before it can. -/
def Governs (r : Rule) (cs : List Char) : Prop :=
  r.Opens cs ∧ ∀ q : Rule, q.rank < r.rank → ¬ q.Opens cs

/-- How far the token of a rule reaches: `text` is its text, `rest` what is left behind it. -/
def Extends : Rule → List Char → List Char → Prop
  | lineComment, text, rest => IsMaximalRun (· ≠ '\n') text rest
  | blockComment, text, rest => ∃ body, text = '/' :: '*' :: body ∧ EndsAtClose body rest
  | quoted, text, rest => ∃ body, text = '\'' :: body ∧ EndsAtQuote body rest
  | operators, text, rest => IsMaximalRun (· ∈ operatorMarks) text rest
  | number, text, rest => IsMaximalRun (fun c => c.isDigit = true ∨ c = '.') text rest
  | word, text, rest => IsMaximalRun (fun c => c.isAlphanum = true ∨ c = '_') text rest
  | blank, text, _ | punctuation, text, _ | single, text, _ => ∃ c, text = [c]

/-- The kind of the token of a rule. A word is a keyword before it is a function, and a function
before it is an identifier. -/
def Names : Rule → List Char → TokenKind → Prop
  | lineComment, _, kind | blockComment, _, kind => kind = .comment
  | quoted, _, kind => kind = .string
  | blank, _, kind => kind = .whitespace
  | punctuation, _, kind => kind = .punctuation
  | operators, _, kind => kind = .operator
  | number, _, kind => kind = .number
  | word, text, kind =>
    (Listed keywords text ∧ kind = .keyword) ∨
      (¬ Listed keywords text ∧ Listed functions text ∧ kind = .function) ∨
      (¬ Listed keywords text ∧ ¬ Listed functions text ∧ kind = .identifier)
  | single, _, kind => kind = .other

end Rule

/-- A token is what the rules give where it stands, with `rest` behind it. -/
def Fits (t : Token) (rest : List Char) : Prop :=
  ∃ r : Rule, r.Governs (t.text ++ rest) ∧ r.Extends t.text rest ∧ r.Names t.text t.kind

/-- A list of tokens reads a text: none of them is empty, together they are the text, and each is
what the rules give where it stands. -/
structure IsReading (cs : List Char) (tokens : List Token) : Prop where
  plainText_eq : plainText tokens = cs
  text_ne_nil : ∀ t ∈ tokens, t.text ≠ []
  fits : ∀ before t after, tokens = before ++ t :: after → Fits t (plainText after)

/-! ## 4. Classes -/

theorem isPunctuation_iff (c : Char) : isPunctuation c = true ↔ c ∈ punctuationMarks := by
  simp [isPunctuation, punctuationMarks, or_assoc]

theorem isOperatorChar_iff (c : Char) : isOperatorChar c = true ↔ c ∈ operatorMarks := by
  simp [isOperatorChar, operatorMarks, or_assoc]

theorem isDecimalDigit_eq (c : Char) : isDecimalDigit c = c.isDigit := by
  simp [isDecimalDigit, Char.isDigit, Char.le_def]

theorem isLetter_eq (c : Char) : isLetter c = c.isAlpha := by
  have hupper : c.isUpper = (decide ('A' ≤ c) && decide (c ≤ 'Z')) := by
    show decide ('A'.val ≤ c.val ∧ c.val ≤ 'Z'.val) = _
    exact Bool.decide_and _ _
  have hlower : c.isLower = (decide ('a' ≤ c) && decide (c ≤ 'z')) := rfl
  show isLetter c = (c.isUpper || c.isLower)
  rw [hupper, hlower, Bool.or_comm]
  rfl

theorem isNumberChar_iff (c : Char) : isNumberChar c = true ↔ c.isDigit = true ∨ c = '.' := by
  simp [isNumberChar, isDecimalDigit_eq]

theorem isWordStart_iff (c : Char) : isWordStart c = true ↔ c.isAlpha = true ∨ c = '_' := by
  simp [isWordStart, isLetter_eq]

theorem isWordChar_iff (c : Char) : isWordChar c = true ↔ c.isAlphanum = true ∨ c = '_' := by
  simp [isWordChar, isLetter_eq, isDecimalDigit_eq, Char.isAlphanum]

/-- A vocabulary in upper case holds the upper case of just the words that it lists. -/
theorem contains_folded_iff {vocabulary : List String}
    (hupper : ∀ w ∈ vocabulary, folded w.toList = w) (word : List Char) :
    vocabulary.contains (folded word) = true ↔ Listed vocabulary word := by
  rw [List.contains_iff_mem]
  constructor
  · intro h
    refine ⟨folded word, h, ?_⟩
    have htoList : ∀ cs, (folded cs).toList = cs.map Char.toUpper := fun cs => String.toList_ofList
    have htwice := congrArg String.toList (hupper _ h)
    rw [htoList] at htwice
    show (folded word).toList.map Char.toUpper = word.map Char.toUpper
    rw [htwice, htoList]
  · rintro ⟨w, hw, hsame⟩
    have : folded word = folded w.toList := congrArg String.ofList hsame.symm
    rw [this, hupper w hw]
    exact hw

theorem isKeyword_iff (word : List Char) : isKeyword word = true ↔ Listed keywords word :=
  contains_folded_iff (by decide) word

theorem isFunction_iff (word : List Char) : isFunction word = true ↔ Listed functions word :=
  contains_folded_iff (by decide) word

/-! ## 5. Scanners

Each scanner cuts at the one place that the extent allows. -/

section Run

variable {p : Char → Bool} {q : Char → Prop}

theorem isMaximalRun_run (hpq : ∀ c, p c = true ↔ q c) {c : Char} (hc : q c) (rest : List Char) :
    IsMaximalRun q (c :: (run p rest).1) (run p rest).2 := by
  constructor
  · intro d hd
    rcases List.mem_cons.mp hd with rfl | hd
    · exact hc
    · exact (hpq d).mp (List.all_eq_true.mp List.all_takeWhile d hd)
  · intro d hd hqd
    have hstop := List.head?_dropWhile_not p rest
    rw [show rest.dropWhile p = (run p rest).2 from rfl, hd] at hstop
    have hpd : p d = false := hstop
    rw [(hpq d).mpr hqd] at hpd
    cases hpd

theorem run_eq_of_isMaximalRun (hpq : ∀ c, p c = true ↔ q c) {c : Char} {body rest : List Char}
    (h : IsMaximalRun q (c :: body) rest) : run p (body ++ rest) = (body, rest) := by
  obtain ⟨hall, hstop⟩ := h
  have hbody : ∀ d ∈ body, p d = true := fun d hd => (hpq d).mpr (hall d (by simp [hd]))
  rw [run, List.takeWhile_append_of_pos hbody, List.dropWhile_append_of_pos hbody]
  cases rest with
  | nil => simp
  | cons d tail =>
    have hd : ¬ p d = true := fun hp => hstop d rfl ((hpq d).mp hp)
    simp [hd]

end Run

/-- Where no close stands, the search for one goes on behind the character. -/
theorem throughClose_cons {c : Char} {cs : List Char} (h : ¬ ['*', '/'] <+: c :: cs) :
    throughClose (c :: cs) = (c :: (throughClose cs).1, (throughClose cs).2) := by
  rw [throughClose]
  rintro after rfl rfl
  exact h ⟨after, rfl⟩

theorem throughClose_eq_of_endsAtClose {body rest : List Char} (h : EndsAtClose body rest) :
    throughClose (body ++ rest) = (body, rest) := by
  rcases h with ⟨inner, rfl, hno⟩ | ⟨rfl, hno⟩
  · induction inner with
    | nil => rfl
    | cons c inner ih =>
      have hstart : ¬ ['*', '/'] <+: c :: (inner ++ ['*', '/'] ++ rest) := by
        intro hp
        cases inner with
        | nil => simp at hp
        | cons d tail =>
          apply hno
          simp only [List.cons_append, List.cons_prefix_cons] at hp
          obtain ⟨rfl, rfl, -⟩ := hp
          exact ⟨[], tail, rfl⟩
      have hinner : ¬ ['*', '/'] <:+: inner := fun hi => hno (List.infix_cons hi)
      rw [List.cons_append, List.cons_append, throughClose_cons hstart, ih hinner]
  · rw [List.append_nil]
    induction body with
    | nil => rfl
    | cons c body ih =>
      have hstart : ¬ ['*', '/'] <+: c :: body := fun hp => hno hp.isInfix
      have hbody : ¬ ['*', '/'] <:+: body := fun hi => hno (List.infix_cons hi)
      rw [throughClose_cons hstart, ih hbody]

theorem endsAtClose_throughClose (cs : List Char) :
    EndsAtClose (throughClose cs).1 (throughClose cs).2 := by
  induction cs with
  | nil => exact .inr ⟨rfl, by simp [throughClose]⟩
  | cons c cs ih =>
    by_cases hp : ['*', '/'] <+: c :: cs
    · obtain ⟨after, rfl, rfl⟩ := hp
      exact .inl ⟨[], rfl, by simp⟩
    · rw [throughClose_cons hp]
      -- a close in what was read starts at its first character or behind it
      have hread : (throughClose cs).1 <+: cs := ⟨_, throughClose_append cs⟩
      have hgrow : ∀ inner, inner <+: (throughClose cs).1 → ¬ ['*', '/'] <:+: inner →
          ¬ ['*', '/'] <:+: c :: inner := by
        intro inner hinner hno hi
        rcases List.infix_cons_iff.mp hi with hstart | hi
        · refine hp (hstart.trans ?_)
          exact (List.cons_prefix_cons.mpr ⟨rfl, hinner.trans hread⟩)
        · exact hno hi
      rcases ih with ⟨inner, hbody, hno⟩ | ⟨hrest, hno⟩
      · exact .inl ⟨c :: inner, by rw [hbody]; rfl, hgrow inner ⟨_, hbody.symm⟩ hno⟩
      · exact .inr ⟨hrest, hgrow _ (List.prefix_refl _) hno⟩

@[simp] theorem doubled_nil : doubled [] = [] := rfl

@[simp] theorem doubled_quote (cs : List Char) :
    doubled ('\'' :: cs) = '\'' :: '\'' :: doubled cs := rfl

theorem doubled_cons {c : Char} (h : c ≠ '\'') (cs : List Char) :
    doubled (c :: cs) = c :: doubled cs := by
  simp [doubled, h]

/-- A quote that no other follows ends the search. -/
theorem throughQuote_quote {rest : List Char} (h : rest.head? ≠ some '\'') :
    throughQuote ('\'' :: rest) = (['\''], rest) := by
  rw [throughQuote]
  · rfl
  · rintro tail - rfl
    exact h rfl

theorem throughQuote_cons {c : Char} (h : c ≠ '\'') (cs : List Char) :
    throughQuote (c :: cs) = (c :: (throughQuote cs).1, (throughQuote cs).2) := by
  rw [throughQuote]
  · rw [if_neg h]
  · rintro tail rfl -
    exact h rfl

/-- The search runs over doubled quotes and over all that is not a quote. -/
theorem throughQuote_doubled_append (inner tail : List Char) :
    throughQuote (doubled inner ++ tail)
      = (doubled inner ++ (throughQuote tail).1, (throughQuote tail).2) := by
  induction inner with
  | nil => rfl
  | cons c inner ih =>
    by_cases hc : c = '\''
    · subst hc
      rw [doubled_quote, List.cons_append, List.cons_append, throughQuote, ih]
      rfl
    · rw [doubled_cons hc, List.cons_append, throughQuote_cons hc, ih]
      rfl

theorem throughQuote_eq_of_endsAtQuote {body rest : List Char} (h : EndsAtQuote body rest) :
    throughQuote (body ++ rest) = (body, rest) := by
  rcases h with ⟨inner, rfl, hnext⟩ | ⟨rfl, inner, rfl⟩
  · rw [List.append_assoc, throughQuote_doubled_append, List.singleton_append,
      throughQuote_quote hnext]
  · rw [throughQuote_doubled_append]
    simp [throughQuote]

theorem EndsAtQuote.cons {c : Char} (hc : c ≠ '\'') {body rest : List Char}
    (h : EndsAtQuote body rest) : EndsAtQuote (c :: body) rest := by
  rcases h with ⟨inner, rfl, hnext⟩ | ⟨hrest, inner, rfl⟩
  · exact .inl ⟨c :: inner, by rw [doubled_cons hc]; rfl, hnext⟩
  · exact .inr ⟨hrest, c :: inner, by rw [doubled_cons hc]⟩

theorem EndsAtQuote.pair {body rest : List Char} (h : EndsAtQuote body rest) :
    EndsAtQuote ('\'' :: '\'' :: body) rest := by
  rcases h with ⟨inner, rfl, hnext⟩ | ⟨hrest, inner, rfl⟩
  · exact .inl ⟨'\'' :: inner, rfl, hnext⟩
  · exact .inr ⟨hrest, '\'' :: inner, rfl⟩

theorem endsAtQuote_throughQuote (cs : List Char) :
    EndsAtQuote (throughQuote cs).1 (throughQuote cs).2 := by
  fun_induction throughQuote cs with
  | case1 => exact .inr ⟨rfl, [], rfl⟩
  | case2 rest ih => exact ih.pair
  | case3 rest hpair =>
    refine .inl ⟨[], rfl, fun hnext => ?_⟩
    obtain ⟨tail, rfl⟩ := List.head?_eq_some_iff.mp hnext
    exact hpair tail rfl rfl
  | case4 c rest hpair hc ih => exact ih.cons hc

/-! ## 6. Precedence -/

namespace Rule

/-- What the tokenizer looks at before it uses a rule at the character `c` of `c :: rest`. -/
def Tests : Rule → Char → List Char → Prop
  | lineComment, c, rest => c = '-' ∧ rest.head? = some '-'
  | blockComment, c, rest => c = '/' ∧ rest.head? = some '*'
  | quoted, c, _ => c = '\''
  | blank, c, _ => isBlank c = true
  | punctuation, c, _ => isPunctuation c = true
  | operators, c, _ => isOperatorChar c = true
  | number, c, _ => isDecimalDigit c = true
  | word, c, _ => isWordStart c = true
  | single, _, _ => True

theorem pair_prefix_iff (a b c : Char) (rest : List Char) :
    [a, b] <+: c :: rest ↔ c = a ∧ rest.head? = some b := by
  rw [List.cons_prefix_cons]
  cases rest with
  | nil => simp
  | cons d rest => simp [eq_comm]

theorem opens_cons (r : Rule) (c : Char) (rest : List Char) :
    r.Opens (c :: rest) ↔ r.Tests c rest := by
  cases r with
  | lineComment => exact pair_prefix_iff '-' '-' c rest
  | blockComment => exact pair_prefix_iff '/' '*' c rest
  | quoted => simp [Opens, Tests, eq_comm]
  | blank => simp [Opens, Tests]
  | punctuation => simp [Opens, Tests, isPunctuation_iff]
  | operators => simp [Opens, Tests, isOperatorChar_iff]
  | number => simp [Opens, Tests, isDecimalDigit_eq]
  | word => simp [Opens, Tests, isWordStart_iff]
  | single => simp [Opens, Tests]

theorem forall_iff {P : Rule → Prop} :
    (∀ r, P r) ↔ P lineComment ∧ P blockComment ∧ P quoted ∧ P blank ∧ P punctuation ∧
      P operators ∧ P number ∧ P word ∧ P single := by
  constructor
  · intro h
    exact ⟨h _, h _, h _, h _, h _, h _, h _, h _, h _⟩
  · rintro ⟨h0, h1, h2, h3, h4, h5, h6, h7, h8⟩ r
    cases r <;> assumption

/-- Below a rule that can be used there is a first one that can. -/
theorem exists_governs {cs : List Char} (r : Rule) (h : r.Opens cs) : ∃ q : Rule, q.Governs cs := by
  by_cases hfirst : ∀ q : Rule, q.rank < r.rank → ¬ q.Opens cs
  · exact ⟨r, h, hfirst⟩
  · simp only [Classical.not_forall, Classical.not_not] at hfirst
    obtain ⟨q, hlt, hq⟩ := hfirst
    exact exists_governs q hq
termination_by r.rank

/-- The token that a rule makes at the character `c` of `c :: rest`, and what is left after it. -/
def first : Rule → Char → List Char → Token × List Char
  | lineComment, c, rest =>
    (⟨.comment, c :: (run (· ≠ '\n') rest).1⟩, (run (· ≠ '\n') rest).2)
  | blockComment, c, rest =>
    (⟨.comment, c :: '*' :: (throughClose rest.tail).1⟩, (throughClose rest.tail).2)
  | quoted, c, rest => (⟨.string, c :: (throughQuote rest).1⟩, (throughQuote rest).2)
  | blank, c, rest => (⟨.whitespace, [c]⟩, rest)
  | punctuation, c, rest => (⟨.punctuation, [c]⟩, rest)
  | operators, c, rest =>
    (⟨.operator, c :: (run isOperatorChar rest).1⟩, (run isOperatorChar rest).2)
  | number, c, rest => (⟨.number, c :: (run isNumberChar rest).1⟩, (run isNumberChar rest).2)
  | word, c, rest =>
    (⟨wordKind (c :: (run isWordChar rest).1), c :: (run isWordChar rest).1⟩,
      (run isWordChar rest).2)
  | single, c, rest => (⟨.other, [c]⟩, rest)

end Rule

/-- The rule that governs a text makes its first token. -/
theorem firstToken_eq_first {r : Rule} {c : Char} {rest : List Char}
    (h : r.Governs (c :: rest)) : firstToken c rest = r.first c rest := by
  obtain ⟨hopens, hbefore⟩ := h
  have htest : r.Tests c rest := (r.opens_cons c rest).mp hopens
  have hno : ∀ q : Rule, q.rank < r.rank → ¬ q.Tests c rest :=
    fun q hq hp => hbefore q hq ((q.opens_cons c rest).mpr hp)
  rw [Rule.forall_iff] at hno
  cases r <;> simp_all [firstToken, Rule.first, Rule.Tests, Rule.rank, -not_and]

/-! ## 7. One token -/

theorem names_wordKind (word : List Char) : Rule.word.Names word (wordKind word) := by
  unfold wordKind
  split
  · next hk => exact .inl ⟨(isKeyword_iff word).mp hk, rfl⟩
  · next hk =>
    have hk' : ¬ Listed keywords word := fun h => hk ((isKeyword_iff word).mpr h)
    split
    · next hf => exact .inr (.inl ⟨hk', (isFunction_iff word).mp hf, rfl⟩)
    · next hf =>
      exact .inr (.inr ⟨hk', fun h => hf ((isFunction_iff word).mpr h), rfl⟩)

theorem wordKind_eq_of_names {word : List Char} {kind : TokenKind}
    (h : Rule.word.Names word kind) : wordKind word = kind := by
  rcases h with ⟨hk, rfl⟩ | ⟨hk, hf, rfl⟩ | ⟨hk, hf, rfl⟩
  · rw [wordKind, if_pos ((isKeyword_iff word).mpr hk)]
  · rw [wordKind, if_neg (mt (isKeyword_iff word).mp hk), if_pos ((isFunction_iff word).mpr hf)]
  · rw [wordKind, if_neg (mt (isKeyword_iff word).mp hk),
      if_neg (mt (isFunction_iff word).mp hf)]

namespace Rule

/-- What a rule makes where it can be used has the extent of the rule. -/
theorem extends_first {r : Rule} {c : Char} {rest : List Char} (h : r.Tests c rest) :
    r.Extends (r.first c rest).1.text (r.first c rest).2 := by
  cases r with
  | lineComment =>
    have hc : c ≠ '\n' := by
      rw [h.1]
      decide
    exact isMaximalRun_run (q := (· ≠ '\n')) (fun d => decide_eq_true_iff) hc rest
  | blockComment =>
    obtain ⟨rfl, -⟩ := h
    exact ⟨_, rfl, endsAtClose_throughClose rest.tail⟩
  | quoted =>
    obtain rfl : c = '\'' := h
    exact ⟨_, rfl, endsAtQuote_throughQuote rest⟩
  | operators =>
    exact isMaximalRun_run isOperatorChar_iff ((isOperatorChar_iff c).mp h) rest
  | number =>
    have hc : c.isDigit = true := by
      rw [← isDecimalDigit_eq]
      exact h
    exact isMaximalRun_run isNumberChar_iff (.inl hc) rest
  | word =>
    have hc : c.isAlphanum = true ∨ c = '_' := by
      rcases (isWordStart_iff c).mp h with hc | hc
      · exact .inl (by simp [Char.isAlphanum, hc])
      · exact .inr hc
    exact isMaximalRun_run isWordChar_iff hc rest
  | blank | punctuation | single => exact ⟨c, rfl⟩

theorem names_first (r : Rule) (c : Char) (rest : List Char) :
    r.Names (r.first c rest).1.text (r.first c rest).1.kind := by
  cases r with
  | word => exact names_wordKind _
  | _ => rfl

/-- A token that a rule allows is the one that it makes. -/
theorem first_eq_of_extends {r : Rule} {c : Char} {body left : List Char} {kind : TokenKind}
    (he : r.Extends (c :: body) left) (hn : r.Names (c :: body) kind) :
    r.first c (body ++ left) = (⟨kind, c :: body⟩, left) := by
  cases r with
  | lineComment =>
    obtain rfl : kind = .comment := hn
    rw [first, run_eq_of_isMaximalRun (fun d => decide_eq_true_iff) he]
  | blockComment =>
    obtain rfl : kind = .comment := hn
    obtain ⟨inner, hbody, hend⟩ := he
    obtain ⟨rfl, rfl⟩ := List.cons.inj hbody
    rw [first, List.cons_append, List.tail_cons, throughClose_eq_of_endsAtClose hend]
  | quoted =>
    obtain rfl : kind = .string := hn
    obtain ⟨inner, hbody, hend⟩ := he
    obtain ⟨rfl, rfl⟩ := List.cons.inj hbody
    rw [first, throughQuote_eq_of_endsAtQuote hend]
  | operators =>
    obtain rfl : kind = .operator := hn
    rw [first, run_eq_of_isMaximalRun isOperatorChar_iff he]
  | number =>
    obtain rfl : kind = .number := hn
    rw [first, run_eq_of_isMaximalRun isNumberChar_iff he]
  | word => rw [first, run_eq_of_isMaximalRun isWordChar_iff he, wordKind_eq_of_names hn]
  | blank | punctuation | single =>
    obtain ⟨d, hbody⟩ := he
    obtain ⟨rfl, rfl⟩ := List.cons.inj hbody
    rw [hn]
    rfl

end Rule

/-- The tokenizer's first token is what the rules give. -/
theorem fits_firstToken (c : Char) (rest : List Char) :
    Fits (firstToken c rest).1 (firstToken c rest).2 := by
  have hopens : Rule.single.Opens (c :: rest) := List.cons_ne_nil c rest
  obtain ⟨r, hr⟩ := Rule.exists_governs .single hopens
  have htest : r.Tests c rest := (r.opens_cons c rest).mp hr.1
  refine ⟨r, ?_, ?_, ?_⟩
  · rw [firstToken_append]
    exact hr
  · rw [firstToken_eq_first hr]
    exact Rule.extends_first htest
  · rw [firstToken_eq_first hr]
    exact r.names_first c rest

/-- What the rules give is the tokenizer's first token. -/
theorem firstToken_eq_of_fits {c : Char} {body left : List Char} {kind : TokenKind}
    (h : Fits ⟨kind, c :: body⟩ left) :
    firstToken c (body ++ left) = (⟨kind, c :: body⟩, left) := by
  obtain ⟨r, hr, he, hn⟩ := h
  have hr' : r.Governs (c :: (body ++ left)) := hr
  rw [firstToken_eq_first hr']
  exact Rule.first_eq_of_extends he hn

/-! ## 8. A whole text -/

theorem isReading_nil : IsReading [] [] :=
  ⟨rfl, by simp, by simp⟩

/-- A reading is a first token that fits and a reading of what is left. -/
theorem isReading_cons {t : Token} {ts : List Token} {cs : List Char} :
    IsReading cs (t :: ts) ↔
      t.text ≠ [] ∧ Fits t (plainText ts) ∧ cs = t.text ++ plainText ts ∧
        IsReading (plainText ts) ts := by
  constructor
  · intro h
    refine ⟨h.text_ne_nil t (by simp), h.fits [] t ts rfl, h.plainText_eq.symm, rfl,
      fun u hu => h.text_ne_nil u (by simp [hu]), ?_⟩
    rintro before u after rfl
    exact h.fits (t :: before) u after rfl
  · rintro ⟨hne, hfits, rfl, hrest⟩
    refine ⟨rfl, ?_, ?_⟩
    · intro u hu
      rcases List.mem_cons.mp hu with rfl | hu
      · exact hne
      · exact hrest.text_ne_nil u hu
    · intro before u after heq
      cases before with
      | nil =>
        obtain ⟨rfl, rfl⟩ := List.cons.inj heq
        exact hfits
      | cons v before =>
        obtain ⟨rfl, rfl⟩ := List.cons.inj heq
        exact hrest.fits before u after rfl

theorem isReading_tokenize (cs : List Char) : IsReading cs (tokenize cs) := by
  fun_induction tokenize cs with
  | case1 => exact isReading_nil
  | case2 c rest ih =>
    obtain ⟨body, hbody⟩ := firstToken_text_eq_cons c rest
    rw [isReading_cons, plainText_tokenize]
    refine ⟨?_, fits_firstToken c rest, (firstToken_append c rest).symm, ih⟩
    rw [hbody]
    exact List.cons_ne_nil c body

/-- Nothing but the tokenizer's list reads a text. -/
theorem IsReading.eq_tokenize {cs : List Char} {tokens : List Token}
    (h : IsReading cs tokens) : tokens = tokenize cs := by
  induction tokens generalizing cs with
  | nil =>
    obtain rfl : [] = cs := h.plainText_eq
    rw [tokenize_nil]
  | cons t ts ih =>
    obtain ⟨hne, hfits, rfl, hrest⟩ := isReading_cons.mp h
    obtain ⟨kind, text⟩ := t
    obtain ⟨c, body, rfl⟩ := List.exists_cons_of_ne_nil hne
    rw [List.cons_append, tokenize_cons, firstToken_eq_of_fits hfits, ← ih hrest]

/-! ## 9. Slices -/

/-- Every token is what a slice of the text gives between the byte indices of its ends. -/
def IsSliced (cs : List Char) (tokens : List Token) : Prop :=
  ∀ before t after, tokens = before ++ t :: after →
    slice? cs (byteIndex cs (plainText before).length)
      (byteIndex cs ((plainText before).length + t.text.length)) = some t.text

theorem IsReading.isSliced {cs : List Char} {tokens : List Token} (h : IsReading cs tokens) :
    IsSliced cs tokens := by
  rintro before t after rfl
  have hcs : cs = plainText before ++ (t.text ++ plainText after) := by
    rw [← h.plainText_eq, plainText_append, plainText_cons]
  rw [slice?_byteIndex cs (Nat.le_add_right _ _), hcs, List.take_append, List.drop_append]
  simp

/-- A text has no more tokens than characters. -/
theorem IsReading.length_le {cs : List Char} {tokens : List Token} (h : IsReading cs tokens) :
    tokens.length ≤ cs.length := by
  induction tokens generalizing cs with
  | nil => exact Nat.zero_le _
  | cons t ts ih =>
    obtain ⟨hne, -, rfl, hrest⟩ := isReading_cons.mp h
    have hpos : 0 < t.text.length := List.length_pos_iff.mpr hne
    have htail := ih hrest
    rw [List.length_cons, List.length_append]
    omega

/-- **Every text has exactly one reading**, and it is the tokenizer's. The scan takes at most one
step for each character, and cuts no character in two. -/
theorem isReading_iff_eq_tokenize (cs : List Char) :
    (∀ tokens, IsReading cs tokens ↔ tokens = tokenize cs) ∧
      (tokenize cs).length ≤ cs.length ∧ IsSliced cs (tokenize cs) := by
  have hread := isReading_tokenize cs
  refine ⟨fun tokens => ⟨fun h => h.eq_tokenize, ?_⟩, hread.length_le, hread.isSliced⟩
  rintro rfl
  exact hread

end PageQuery.Query
