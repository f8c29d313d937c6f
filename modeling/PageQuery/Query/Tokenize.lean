import PageQuery.Text.Basic
/-!
Tokens of query text, and the tokenizer (specification §4.1, Tokenizer; `tokenize`, `plain_text`,
`is_keyword`, `is_function`).

A token is a classified piece of query text. Words are classified by two vocabularies, keywords and
functions, without regard to the case of ASCII letters; `keywords_disjoint_functions` says that no word is
in both, so the order in which they are asked does not matter.

`firstToken` applies the nine rules in their order of precedence at one place of a text; `tokenize`
applies it from left to right until nothing is left. No text is refused and none is lost:
`plainText_tokenize` says that the tokens' texts give back the text.
-/

namespace PageQuery.Query

/-! ## 1. Tokens -/

/-- What a piece of query text is. -/
inductive TokenKind where
  | comment
  | string
  | operator
  | punctuation
  | number
  | keyword
  | function
  | identifier
  | whitespace
  | other
  deriving DecidableEq, Repr

namespace TokenKind

/-- The name of a kind in token listings. -/
def name : TokenKind → String
  | comment => "comment"
  | string => "string"
  | operator => "operator"
  | punctuation => "punctuation"
  | number => "number"
  | keyword => "keyword"
  | function => "function"
  | identifier => "identifier"
  | whitespace => "whitespace"
  | other => "other"

def all : List TokenKind :=
  [comment, string, operator, punctuation, number, keyword, function, identifier, whitespace, other]

/-- The kind of a given name. -/
def ofName? (s : String) : Option TokenKind := all.find? (fun kind => kind.name == s)

end TokenKind

/-- A classified, contiguous piece of query text. -/
structure Token where
  kind : TokenKind
  text : List Char
  deriving DecidableEq, Repr

/-- The text of a token list: its tokens' texts in order. -/
def plainText (tokens : List Token) : List Char := tokens.flatMap (·.text)

@[simp] theorem plainText_nil : plainText [] = [] := rfl

@[simp] theorem plainText_cons (t : Token) (ts : List Token) :
    plainText (t :: ts) = t.text ++ plainText ts := rfl

@[simp] theorem plainText_append (ts us : List Token) :
    plainText (ts ++ us) = plainText ts ++ plainText us := by
  simp [plainText]

/-! ## 2. Vocabularies -/

def keywords : List String :=
  ["SELECT", "FROM", "WHERE", "AND", "OR", "NOT", "IN", "AS", "LIMIT", "ORDER", "BY", "ASC",
   "DESC", "EXISTS", "IS", "NULL", "CONTAINS", "ANY", "ALL", "TO", "TABLE", "LIST", "RAW",
   "FRAGMENTS", "ON", "OFF"]

def functions : List String :=
  ["TEXT", "INNER_HTML", "RAW_INNER_HTML", "FLATTEN", "FLATTEN_TEXT", "PROJECT",
   "FLATTEN_EXTRACT", "COALESCE", "ATTR", "COUNT", "SUMMARIZE", "TFIDF", "TRIM",
   "HAS_DIRECT_TEXT"]

/-- A word with its ASCII letters in upper case. -/
def folded (word : List Char) : String := String.ofList (word.map Char.toUpper)

def isKeyword (word : List Char) : Bool := keywords.contains (folded word)

def isFunction (word : List Char) : Bool := functions.contains (folded word)

/-- No word is in both vocabularies. -/
theorem keywords_disjoint_functions : ∀ w ∈ keywords, w ∉ functions := by decide

/-- The kind of a word. -/
def wordKind (word : List Char) : TokenKind :=
  if isKeyword word then .keyword else if isFunction word then .function else .identifier

open Text

/-! ## 3. Character classes -/

def isPunctuation (c : Char) : Bool :=
  c == '(' || c == ')' || c == ',' || c == '.' || c == ';'

def isOperatorChar (c : Char) : Bool :=
  c == '<' || c == '>' || c == '~' || c == '=' || c == ':' || c == '+' || c == '-' || c == '*' ||
    c == '/'

def isDecimalDigit (c : Char) : Bool := '0' ≤ c && c ≤ '9'

def isLetter (c : Char) : Bool := ('a' ≤ c && c ≤ 'z') || ('A' ≤ c && c ≤ 'Z')

def isWordStart (c : Char) : Bool := isLetter c || c == '_'

def isWordChar (c : Char) : Bool := isLetter c || isDecimalDigit c || c == '_'

def isNumberChar (c : Char) : Bool := isDecimalDigit c || c == '.'

/-! ## 4. Extents

Each scanner cuts what follows a token's opening characters into the rest of the token and what is
left. -/

/-- Through the first `*/`, or to the end. -/
def throughClose : List Char → List Char × List Char
  | [] => ([], [])
  | c :: rest =>
    match c, rest with
    | '*', '/' :: after => (['*', '/'], after)
    | c, rest => ((c :: (throughClose rest).1), (throughClose rest).2)

/-- Through the first quote that is not half of a doubled pair, or to the end. -/
def throughQuote : List Char → List Char × List Char
  | [] => ([], [])
  | '\'' :: '\'' :: rest => ('\'' :: '\'' :: (throughQuote rest).1, (throughQuote rest).2)
  | c :: rest =>
    if c = '\'' then ([c], rest)
    else (c :: (throughQuote rest).1, (throughQuote rest).2)

/-- The longest run of characters of a class. -/
def run (p : Char → Bool) (cs : List Char) : List Char × List Char :=
  (cs.takeWhile p, cs.dropWhile p)

/-! ## 5. The rules -/

/-- The token that starts with the character `c` of the text `c :: rest`, and what is left after
it. -/
def firstToken (c : Char) (rest : List Char) : Token × List Char :=
  if c = '-' ∧ rest.head? = some '-' then
    let (body, left) := run (· ≠ '\n') rest
    (⟨.comment, c :: body⟩, left)
  else if c = '/' ∧ rest.head? = some '*' then
    let (body, left) := throughClose rest.tail
    (⟨.comment, c :: '*' :: body⟩, left)
  else if c = '\'' then
    let (body, left) := throughQuote rest
    (⟨.string, c :: body⟩, left)
  else if isBlank c then (⟨.whitespace, [c]⟩, rest)
  else if isPunctuation c then (⟨.punctuation, [c]⟩, rest)
  else if isOperatorChar c then
    let (body, left) := run isOperatorChar rest
    (⟨.operator, c :: body⟩, left)
  else if isDecimalDigit c then
    let (body, left) := run isNumberChar rest
    (⟨.number, c :: body⟩, left)
  else if isWordStart c then
    let (body, left) := run isWordChar rest
    (⟨wordKind (c :: body), c :: body⟩, left)
  else (⟨.other, [c]⟩, rest)

/-! ## 6. Nothing is lost -/

theorem run_append (p : Char → Bool) (cs : List Char) : (run p cs).1 ++ (run p cs).2 = cs :=
  List.takeWhile_append_dropWhile

theorem throughClose_append (cs : List Char) :
    (throughClose cs).1 ++ (throughClose cs).2 = cs := by
  fun_induction throughClose cs <;> simp_all

theorem throughQuote_append (cs : List Char) :
    (throughQuote cs).1 ++ (throughQuote cs).2 = cs := by
  fun_induction throughQuote cs <;> simp_all

/-- The first token's text and what is left make up the text. -/
theorem firstToken_append (c : Char) (rest : List Char) :
    (firstToken c rest).1.text ++ (firstToken c rest).2 = c :: rest := by
  unfold firstToken
  split
  · simp [run_append]
  split
  · next h =>
    obtain ⟨_, h⟩ := h
    match rest, h with
    | x :: tail, h =>
      simp only [List.head?_cons, Option.some.injEq] at h
      simp [h, throughClose_append]
  split
  · simp [throughQuote_append]
  split
  · simp
  split
  · simp
  split
  · simp [run_append]
  split
  · simp [run_append]
  split
  · simp [run_append]
  · simp

/-- The first token holds the character that it starts with. -/
theorem firstToken_text_eq_cons (c : Char) (rest : List Char) :
    ∃ body, (firstToken c rest).1.text = c :: body := by
  unfold firstToken
  repeat' split
  all_goals exact ⟨_, rfl⟩

theorem firstToken_left_length_le (c : Char) (rest : List Char) :
    (firstToken c rest).2.length ≤ rest.length := by
  obtain ⟨body, h⟩ := firstToken_text_eq_cons c rest
  have := congrArg List.length (firstToken_append c rest)
  simp only [h, List.length_append, List.length_cons] at this
  omega

/-! ## 7. The tokenizer -/

/-- The tokens of a text. -/
def tokenize : List Char → List Token
  | [] => []
  | c :: rest => (firstToken c rest).1 :: tokenize (firstToken c rest).2
  termination_by cs => cs.length
  decreasing_by
    have := firstToken_left_length_le c rest
    simp only [List.length_cons]
    omega

@[simp] theorem tokenize_nil : tokenize [] = [] := by
  simp [tokenize]

theorem tokenize_cons (c : Char) (rest : List Char) :
    tokenize (c :: rest) = (firstToken c rest).1 :: tokenize (firstToken c rest).2 := by
  rw [tokenize]

/-- The tokens' texts give back the text. -/
@[simp] theorem plainText_tokenize (cs : List Char) : plainText (tokenize cs) = cs := by
  fun_induction tokenize cs with
  | case1 => rfl
  | case2 c rest ih => rw [plainText_cons, ih, firstToken_append]

end PageQuery.Query
