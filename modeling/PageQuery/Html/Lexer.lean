import PageQuery.Html.Reference
/-!
The lexemes of an HTML page.

`lexeme` reads the next one under a content model, which says how the text of the element at hand is
to be read: as markup, as text with or without references up to the element's end tag, as a script,
or as text to the end of the page. Reading never fails: what is no markup is text or a comment.
-/

namespace PageQuery.Html

/-! ## 1. Lexemes -/

structure Tag where
  name : String
  attributes : List (String × String)
  selfClosing : Bool

structure Doctype where
  name : Option String
  publicId : Option String
  systemId : Option String
  /-- The declaration is too broken to be taken at its word. -/
  broken : Bool

inductive Lexeme where
  | startTag (tag : Tag)
  | endTag (tag : Tag)
  | char (c : Char)
  | comment (content : List Char)
  | doctype (d : Doctype)
  | finish

/-- How the text at hand is to be read. -/
inductive ContentModel where
  /-- As markup. -/
  | data
  /-- As text with references, up to the end tag. -/
  | rcdata
  /-- As text without references, up to the end tag. -/
  | rawtext
  /-- As a script, up to its end tag. -/
  | script
  /-- As text, to the end of the page. -/
  | plaintext
  deriving DecidableEq

/-! ## 2. Characters -/

/-- The characters that HTML syntax takes for space. -/
def isSpace (c : Char) : Bool := c == ' ' || c == '\t' || c == '\n' || c == '\x0c' || c == '\r'

def isLetter (c : Char) : Bool := ('a' ≤ c && c ≤ 'z') || ('A' ≤ c && c ≤ 'Z')

/-- A null character cannot be given. -/
def shown (c : Char) : Char := if c = '\x00' then replacement else c

/-- A null character cannot be given, and ASCII letters are put in lower case. -/
def shownLower (c : Char) : Char := (shown c).toLower

/-- A text starts with a word, whatever the case of ASCII letters. -/
def startsWithWord (word : String) (cs : List Char) : Bool :=
  (cs.take word.length).map Char.toLower == word.toList

/-- The page as it is read: without a byte order mark, and with every line break a line feed. -/
def normalized (cs : List Char) : List Char :=
  go (match cs with
    | '\ufeff' :: rest => rest
    | other => other)
where
  go : List Char → List Char
    | [] => []
    | '\r' :: '\n' :: rest => '\n' :: go rest
    | '\r' :: rest => '\n' :: go rest
    | c :: rest => c :: go rest

/-! ## 3. Tags -/

/-- An attribute value up to a character that ends it, in at most the given number of steps. -/
def attributeValue (ends : Char → Bool) : Nat → List Char → List Char × List Char
  | 0, cs => ([], cs)
  | _, [] => ([], [])
  | steps + 1, c :: rest =>
    if ends c then ([], c :: rest)
    else if c = '&' then
      let (chars, left) := reference true rest
      let (more, after) := attributeValue ends steps left
      (chars ++ more, after)
    else
      let (more, after) := attributeValue ends steps rest
      (shown c :: more, after)

/-- Add an attribute unless one of that name is there. -/
def addAttribute (name value : List Char) (attributes : List (String × String)) :
    List (String × String) :=
  let key := String.ofList name
  if attributes.any (fun a => a.1 == key) then attributes
  else attributes ++ [(key, String.ofList value)]

/-- The rest of a tag after its name: the attributes, whether it closes itself, and what follows.
There is none if the page ends inside the tag. -/
def tagRest : Nat → List Char → List (String × String) →
    Option (List (String × String) × Bool × List Char)
  | 0, _, _ => none
  | steps + 1, cs, attributes =>
    match cs.dropWhile isSpace with
    | [] => none
    | '>' :: rest => some (attributes, false, rest)
    | '/' :: '>' :: rest => some (attributes, true, rest)
    | '/' :: rest => tagRest steps rest attributes
    | c :: rest =>
      let ends (d : Char) : Bool := isSpace d || d == '/' || d == '>' || d == '='
      let name := (c :: rest.takeWhile (fun d => !ends d)).map shownLower
      let after := (rest.dropWhile (fun d => !ends d)).dropWhile isSpace
      match after with
      | '=' :: value =>
        match value.dropWhile isSpace with
        | [] => none
        | '>' :: left => some (addAttribute name [] attributes, false, left)
        | '"' :: left =>
          match attributeValue (· == '"') (left.length + 1) left with
          | (_, []) => none
          | (v, _ :: left) => tagRest steps left (addAttribute name v attributes)
        | '\'' :: left =>
          match attributeValue (· == '\'') (left.length + 1) left with
          | (_, []) => none
          | (v, _ :: left) => tagRest steps left (addAttribute name v attributes)
        | left =>
          let (v, left) :=
            attributeValue (fun d => isSpace d || d == '>') (left.length + 1) left
          tagRest steps left (addAttribute name v attributes)
      | left => tagRest steps left (addAttribute name [] attributes)

/-- A tag whose name starts here. -/
def tag? (cs : List Char) : Option (Tag × List Char) :=
  let ends (d : Char) : Bool := isSpace d || d == '/' || d == '>'
  let name := (cs.takeWhile (fun d => !ends d)).map shownLower
  let rest := cs.dropWhile (fun d => !ends d)
  (tagRest (rest.length + 1) rest []).map fun (attributes, selfClosing, left) =>
    (⟨String.ofList name, attributes, selfClosing⟩, left)

/-! ## 4. Comments -/

/-- Where a comment's reader stands. -/
inductive CommentState where
  | start
  | startDash
  | inside
  | endDash
  | ending
  | endBang

/-- The content of a comment, in reverse while it is read, and what follows it. -/
def commentRest : CommentState → List Char → List Char → List Char × List Char
  | _, acc, [] => (acc.reverse, [])
  | state, acc, c :: rest =>
    match state with
    | .start =>
      if c = '-' then commentRest .startDash acc rest
      else if c = '>' then (acc.reverse, rest)
      else commentRest .inside (shown c :: acc) rest
    | .startDash =>
      if c = '-' then commentRest .ending acc rest
      else if c = '>' then (acc.reverse, rest)
      else commentRest .inside (shown c :: '-' :: acc) rest
    | .inside =>
      if c = '-' then commentRest .endDash acc rest
      else commentRest .inside (shown c :: acc) rest
    | .endDash =>
      if c = '-' then commentRest .ending acc rest
      else commentRest .inside (shown c :: '-' :: acc) rest
    | .ending =>
      if c = '>' then (acc.reverse, rest)
      else if c = '!' then commentRest .endBang acc rest
      else if c = '-' then commentRest .ending ('-' :: acc) rest
      else commentRest .inside (shown c :: '-' :: '-' :: acc) rest
    | .endBang =>
      if c = '-' then commentRest .endDash ('!' :: '-' :: '-' :: acc) rest
      else if c = '>' then (acc.reverse, rest)
      else commentRest .inside (shown c :: '!' :: '-' :: '-' :: acc) rest

/-- What runs to the next `>` and is taken for a comment. -/
def bogusComment (cs : List Char) : List Char × List Char :=
  ((cs.takeWhile (· ≠ '>')).map shown, (cs.dropWhile (· ≠ '>')).tail)

/-! ## 5. Document types -/

/-- A quoted identifier at the head of a text: its content, whether it was closed by its quote, and
what follows. -/
def quotedId? (cs : List Char) : Option (String × Bool × List Char) :=
  match cs with
  | q :: rest =>
    if q = '"' ∨ q = '\'' then
      let body := rest.takeWhile fun c => c != q && c != '>'
      let left := rest.dropWhile fun c => c != q && c != '>'
      let id := String.ofList (body.map shown)
      match left with
      | c :: after => if c = q then some (id, true, after) else some (id, false, c :: after)
      | [] => some (id, false, [])
    else none
  | [] => none

/-- Past the end of a declaration. -/
def pastClose (cs : List Char) : List Char := (cs.dropWhile (· ≠ '>')).tail

/-- A declaration after the word that opens it, and what follows it. -/
def doctypeRest (cs : List Char) : Doctype × List Char :=
  let cs := cs.dropWhile isSpace
  let name := cs.takeWhile fun c => !isSpace c && c != '>'
  let rest := (cs.dropWhile fun c => !isSpace c && c != '>').dropWhile isSpace
  if name.isEmpty then (⟨none, none, none, true⟩, pastClose cs)
  else
    let name := some (String.ofList (name.map shownLower))
    match rest with
    | [] => (⟨name, none, none, true⟩, [])
    | '>' :: after => (⟨name, none, none, false⟩, after)
    | rest =>
      let systemPart (publicId : Option String) (cs : List Char) : Doctype × List Char :=
        match quotedId? (cs.dropWhile isSpace) with
        | none => (⟨name, publicId, none, true⟩, pastClose cs)
        | some (id, false, left) => (⟨name, publicId, some id, true⟩, pastClose left)
        | some (id, true, left) =>
          (⟨name, publicId, some id, left.all (· ≠ '>')⟩, pastClose left)
      if startsWithWord "public" rest then
        match quotedId? ((rest.drop 6).dropWhile isSpace) with
        | none => (⟨name, none, none, true⟩, pastClose rest)
        | some (id, false, left) => (⟨name, some id, none, true⟩, pastClose left)
        | some (id, true, left) =>
          match left.dropWhile isSpace with
          | '>' :: after => (⟨name, some id, none, false⟩, after)
          | left => systemPart (some id) left
      else if startsWithWord "system" rest then systemPart none (rest.drop 6)
      else (⟨name, none, none, true⟩, pastClose rest)

/-! ## 6. Text up to an end tag -/

/-- The end tag of the given element stands here. -/
def isEndTagOf (name : String) (cs : List Char) : Bool :=
  startsWithWord ("</" ++ name) cs &&
    match cs.drop (name.length + 2) with
    | c :: _ => isSpace c || c == '/' || c == '>'
    | [] => false

/-- A word stands here and ends with a space, a slash or a `>`. -/
def isWordHere (word : String) (cs : List Char) : Bool :=
  startsWithWord word cs &&
    match cs.drop word.length with
    | c :: _ => isSpace c || c == '/' || c == '>'
    | [] => false

/-- The text of an element up to its end tag, in at most the given number of steps. -/
def elementText (references : Bool) (name : String) : Nat → List Char → List Char × List Char
  | 0, cs => ([], cs)
  | _, [] => ([], [])
  | steps + 1, c :: rest =>
    if isEndTagOf name (c :: rest) then ([], c :: rest)
    else if references && c == '&' then
      let (chars, left) := reference false rest
      let (more, after) := elementText references name steps left
      (chars ++ more, after)
    else
      let (more, after) := elementText references name steps rest
      (shown c :: more, after)

/-- How deep a script is in what looks like a comment. The number counts the dashes just read, two
at most. -/
inductive ScriptState where
  | plain
  | escaped (dashes : Nat)
  | doubleEscaped (dashes : Nat)

/-- The text of a script up to its end tag, in at most the given number of steps. -/
def scriptText : Nat → ScriptState → List Char → List Char × List Char
  | 0, _, cs => ([], cs)
  | _, _, [] => ([], [])
  | steps + 1, state, c :: rest =>
    let take (n : Nat) (state : ScriptState) : List Char × List Char :=
      let (more, after) := scriptText steps state ((c :: rest).drop n)
      (((c :: rest).take n).map shown ++ more, after)
    match state with
    | .plain =>
      if isEndTagOf "script" (c :: rest) then ([], c :: rest)
      else if startsWithWord "<!--" (c :: rest) then take 4 (.escaped 2)
      else take 1 .plain
    | .escaped dashes =>
      if isEndTagOf "script" (c :: rest) then ([], c :: rest)
      else if c = '-' then take 1 (.escaped (min 2 (dashes + 1)))
      else if c = '>' ∧ dashes = 2 then take 1 .plain
      else if c = '<' ∧ isWordHere "script" rest then take 8 (.doubleEscaped 0)
      else take 1 (.escaped 0)
    | .doubleEscaped dashes =>
      if c = '-' then take 1 (.doubleEscaped (min 2 (dashes + 1)))
      else if c = '>' ∧ dashes = 2 then take 1 .plain
      else if c = '<' ∧ isWordHere "/script" rest then take 9 (.escaped 0)
      else take 1 (.doubleEscaped 0)

/-! ## 7. The next lexemes -/

/-- A character section up to its close. -/
def cdataRest : List Char → List Char × List Char
  | [] => ([], [])
  | ']' :: ']' :: '>' :: rest => ([], rest)
  | c :: rest =>
    let (more, after) := cdataRest rest
    (c :: more, after)

/-- What stands after `<!`. Character sections are for foreign content alone. -/
def declaration (foreign : Bool) (cs : List Char) : List Lexeme × List Char :=
  if startsWithWord "--" cs then
    let (content, left) := commentRest .start [] (cs.drop 2)
    ([.comment content], left)
  else if startsWithWord "doctype" cs then
    let (d, left) := doctypeRest (cs.drop 7)
    ([.doctype d], left)
  else if foreign && cs.take 7 == "[CDATA[".toList then
    let (chars, left) := cdataRest (cs.drop 7)
    (chars.map .char, left)
  else
    let (content, left) := bogusComment cs
    ([.comment content], left)

/-- The lexemes at the head of markup. -/
def markupLexemes (foreign : Bool) : List Char → List Lexeme × List Char
  | [] => ([], [])
  | '&' :: rest =>
    let (chars, left) := reference false rest
    (chars.map .char, left)
  | '<' :: '!' :: rest => declaration foreign rest
  | '<' :: '?' :: rest =>
    let (content, left) := bogusComment ('?' :: rest)
    ([.comment content], left)
  | '<' :: '/' :: [] => ([.char '<', .char '/'], [])
  | '<' :: '/' :: '>' :: rest => ([], rest)
  | '<' :: '/' :: c :: rest =>
    if isLetter c then
      match tag? (c :: rest) with
      | some (tag, left) => ([.endTag tag], left)
      | none => ([], [])
    else
      let (content, left) := bogusComment (c :: rest)
      ([.comment content], left)
  | '<' :: c :: rest =>
    if isLetter c then
      match tag? (c :: rest) with
      | some (tag, left) => ([.startTag tag], left)
      | none => ([], [])
    else ([.char '<'], c :: rest)
  | c :: rest => ([.char c], rest)

/-- The text of an element and then its end tag. -/
def textLexemes (name : String) (text : List Char × List Char) : List Lexeme × List Char :=
  let (chars, left) := text
  match left with
  | [] => (chars.map .char, [])
  | left =>
    match tag? (left.drop 2) with
    | some (tag, after) => (chars.map .char ++ [.endTag { tag with name := name }], after)
    | none => (chars.map .char, [])

/-- The next lexemes under a content model; `name` is the element whose text is read. -/
def nextLexemes (model : ContentModel) (name : String) (foreign : Bool) (cs : List Char) :
    List Lexeme × List Char :=
  match model with
  | .data => markupLexemes foreign cs
  | .rcdata => textLexemes name (elementText true name (cs.length + 1) cs)
  | .rawtext => textLexemes name (elementText false name (cs.length + 1) cs)
  | .script => textLexemes name (scriptText (cs.length + 1) .plain cs)
  | .plaintext => (cs.map (fun c => .char (shown c)), [])

end PageQuery.Html
