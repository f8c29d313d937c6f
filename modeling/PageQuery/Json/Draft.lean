import PageQuery.Json.Value
import PageQuery.Number.Double
/-!
JSON text as it was written, and records decoded from it.

A `Draft` keeps every field of an object, repeated names included, and keeps a leaf even where the
text is well formed but denotes nothing: a number beyond the range, an escape that names half of a
surrogate pair. `Draft.value?` gives values; it counts levels of nesting where a limit is set. So a
decoder can read the parts it knows and pass over the rest without ever valuing it.

Reading goes in two passes, both by recursion on what is left: characters to lexemes, then lexemes
to a draft, with the containers still open on a stack.

A record is written as an object of its fields or as an array of them in order. `record?` finds the
fields by name or by position: in an object other names are passed over and a known name given
twice is refused; an array may stop early and may not be too long. What an absent field means is for
the record to say. These are the conventions of the JSON library that the program decodes with
(specification §6).
-/

namespace PageQuery.Json

open Number

/-- JSON text, read but not valued. -/
inductive Draft where
  /-- Anything but a container. There is no value where the text denotes none. -/
  | leaf (value : Option Json)
  | arr (items : List Draft)
  /-- Every field as it was written. There is no name where the text denotes none. -/
  | obj (fields : List (Option String × Draft))

/-! ## 1. Lexemes -/

inductive Lexeme where
  | leaf (value : Option Json)
  /-- A string can be a value or a field's name. -/
  | text (value : Option String)
  | openArray
  | closeArray
  | openObject
  | closeObject
  | comma
  | colon

/-- The four characters that JSON lets stand between lexemes. -/
def isGap (c : Char) : Bool := c == ' ' || c == '\t' || c == '\n' || c == '\r'

def hexValue? (c : Char) : Option Nat :=
  if '0' ≤ c && c ≤ '9' then some (c.toNat - '0'.toNat)
  else if 'a' ≤ c && c ≤ 'f' then some (c.toNat - 'a'.toNat + 10)
  else if 'A' ≤ c && c ≤ 'F' then some (c.toNat - 'A'.toNat + 10)
  else none

/-- The number that four hexadecimal digits denote. -/
def hex4? (a b c d : Char) : Option Nat := do
  return 4096 * (← hexValue? a) + 256 * (← hexValue? b) + 16 * (← hexValue? c) + (← hexValue? d)

/-- The character of a one-letter escape. -/
def simpleEscape? (c : Char) : Option Char :=
  if c = '"' ∨ c = '\\' ∨ c = '/' then some c
  else if c = 'b' then some '\x08'
  else if c = 'f' then some '\x0c'
  else if c = 'n' then some '\n'
  else if c = 'r' then some '\r'
  else if c = 't' then some '\t'
  else none

/-- A unit of a string: a character, or a 16-bit unit given by number. -/
inductive Unit16 where
  | char (c : Char)
  | code (n : Nat)

/-- The units of a string up to its closing quote, and the text after it. -/
def stringUnits : List Char → Option (List Unit16 × List Char)
  | [] => none
  | '"' :: rest => some ([], rest)
  | '\\' :: 'u' :: a :: b :: c :: d :: rest => do
    let n ← hex4? a b c d
    let (units, after) ← stringUnits rest
    return (.code n :: units, after)
  | '\\' :: e :: rest => do
    let c ← simpleEscape? e
    let (units, after) ← stringUnits rest
    return (.char c :: units, after)
  | c :: rest =>
    if c.toNat < 32 ∨ c = '\\' then none
    else do
      let (units, after) ← stringUnits rest
      return (.char c :: units, after)

/-- The text that units denote: pairs of surrogates are joined, and a surrogate that stands alone
denotes nothing. -/
def unitsText? : List Unit16 → Option (List Char)
  | [] => some []
  | .char c :: rest => (unitsText? rest).map (c :: ·)
  | .code n :: rest =>
    if 0xD800 ≤ n ∧ n < 0xDC00 then
      match rest with
      | .code m :: rest =>
        if 0xDC00 ≤ m ∧ m < 0xE000 then
          (unitsText? rest).map
            (Char.ofNat (0x10000 + 1024 * (n - 0xD800) + (m - 0xDC00)) :: ·)
        else none
      | _ => none
    else if 0xDC00 ≤ n ∧ n < 0xE000 then none
    else (unitsText? rest).map (Char.ofNat n :: ·)

/-- The parts of a number: sign, whole part, fraction, exponent with its sign. -/
structure Numeral where
  negative : Bool
  whole : List Char
  fraction : Option (List Char)
  exponent : Option (Bool × List Char)

/-- A number at the head of a text: an optional minus, a whole part that starts with a zero only if
it is zero, and optional fraction and exponent with a digit at least. -/
def numeral? (cs : List Char) : Option (Numeral × List Char) := do
  let (negative, cs) : Bool × List Char :=
    match cs with
    | '-' :: rest => (true, rest)
    | other => (false, other)
  let whole := cs.takeWhile isDigit
  let cs := cs.dropWhile isDigit
  if whole.isEmpty || (whole.head? == some '0' && whole.length > 1) then none
  let (fraction, cs) ← match cs with
    | '.' :: rest =>
      let digits := rest.takeWhile isDigit
      if digits.isEmpty then none else some (some digits, rest.dropWhile isDigit)
    | other => some (none, other)
  let (exponent, cs) ← match cs with
    | c :: rest =>
      if c = 'e' ∨ c = 'E' then
        let (down, rest) : Bool × List Char :=
          match rest with
          | '-' :: ds => (true, ds)
          | '+' :: ds => (false, ds)
          | ds => (false, ds)
        let digits := rest.takeWhile isDigit
        if digits.isEmpty then none else some (some (down, digits), rest.dropWhile isDigit)
      else some (none, c :: rest)
    | [] => some (none, [])
  return (⟨negative, whole, fraction, exponent⟩, cs)

/-- Take digits into a significand for as long as it fits 64 bits. The count is of the digits
taken; the rest is left over. -/
def significandOf (start : Nat) : List Char → Nat × Nat × List Char
  | [] => (start, 0, [])
  | c :: rest =>
    let next := 10 * start + digitValue c
    if next < Nat.pow 2 64 then
      let (n, taken, left) := significandOf next rest
      (n, taken + 1, left)
    else (start, 0, c :: rest)

/-- The value of a number. Without fraction and exponent it is an integer if it fits 64 bits and is
not a negative zero. Otherwise it is a double: the digits that fit 64 bits, scaled by a power of
ten; whole digits that do not fit only raise the exponent and further fraction digits are dropped. -/
def Numeral.value? (n : Numeral) : Option Json :=
  let (whole, _, left) := significandOf 0 n.whole
  if left.isEmpty ∧ n.fraction.isNone ∧ n.exponent.isNone ∧
      (¬ n.negative ∨ (0 < whole ∧ whole ≤ Nat.pow 2 63)) then
    some (.int (if n.negative then -(whole : Int) else whole))
  else
    let (digits, places, _) := significandOf whole (n.fraction.getD [])
    let written : Int :=
      match n.exponent with
      | none => 0
      | some (down, ds) => if down then -(naturalOf ds : Int) else naturalOf ds
    let power : Int := written + left.length - places
    ((Double.ofNat? digits).bind (scaled? · power)).map fun x => .double (x.withSign n.negative)

/-- A lexeme at the head of a text that starts with no gap. -/
def lexeme? : List Char → Option (Lexeme × List Char)
  | [] => none
  | '[' :: rest => some (.openArray, rest)
  | ']' :: rest => some (.closeArray, rest)
  | '{' :: rest => some (.openObject, rest)
  | '}' :: rest => some (.closeObject, rest)
  | ',' :: rest => some (.comma, rest)
  | ':' :: rest => some (.colon, rest)
  | 'n' :: 'u' :: 'l' :: 'l' :: rest => some (.leaf (some .null), rest)
  | 't' :: 'r' :: 'u' :: 'e' :: rest => some (.leaf (some (.bool true)), rest)
  | 'f' :: 'a' :: 'l' :: 's' :: 'e' :: rest => some (.leaf (some (.bool false)), rest)
  | '"' :: rest =>
    (stringUnits rest).map fun (units, after) =>
      (.text ((unitsText? units).map String.ofList), after)
  | cs => (numeral? cs).map fun (n, after) => (.leaf n.value?, after)

/-- The lexemes of a text, in at most the given number of steps. -/
def lexemesIn : Nat → List Char → Option (List Lexeme)
  | _, [] => some []
  | 0, _ :: _ => none
  | steps + 1, c :: rest =>
    if isGap c then lexemesIn steps rest
    else do
      let (lexeme, after) ← lexeme? (c :: rest)
      return lexeme :: (← lexemesIn steps after)

/-- The lexemes of a text. Each takes one character at least, so the length is steps enough. -/
def lexemes (cs : List Char) : Option (List Lexeme) := lexemesIn cs.length cs

/-! ## 2. The reader -/

/-- A container that is still open, with what it holds so far in reverse. -/
inductive Frame where
  | items (done : List Draft)
  | fields (done : List (Option String × Draft))
  /-- A field whose value is still to come. -/
  | named (done : List (Option String × Draft)) (name : Option String)

/-- What the reader waits for. -/
inductive Expecting where
  | value
  /-- A value, or the end of an array just opened. -/
  | valueOrEnd
  /-- A name, or the end of an object just opened. -/
  | nameOrEnd
  | name
  | colon
  /-- A comma or the end of the container. -/
  | more
  | nothing

/-- The reader: what it waits for, the open containers with the innermost first, and the value once
it is complete. -/
structure Reader where
  expecting : Expecting
  stack : List Frame
  result : Option Draft

def Reader.start : Reader := ⟨.value, [], none⟩

/-- Put a complete value in its place. -/
def Reader.put (r : Reader) (d : Draft) : Option Reader :=
  match r.stack with
  | [] => some ⟨.nothing, [], some d⟩
  | .items done :: stack => some ⟨.more, .items (d :: done) :: stack, none⟩
  | .named done name :: stack => some ⟨.more, .fields ((name, d) :: done) :: stack, none⟩
  | .fields _ :: _ => none

/-- Close an array. -/
def Reader.closeArray (r : Reader) : Option Reader :=
  match r.stack with
  | .items done :: stack => { r with stack := stack }.put (.arr done.reverse)
  | _ => none

/-- Close an object. -/
def Reader.closeObject (r : Reader) : Option Reader :=
  match r.stack with
  | .fields done :: stack => { r with stack := stack }.put (.obj done.reverse)
  | _ => none

/-- Start a value: a leaf is complete at once, a container goes on the stack. -/
def Reader.value (r : Reader) : Lexeme → Option Reader
  | .leaf v => r.put (.leaf v)
  | .text s => r.put (.leaf (s.map Json.str))
  | .openArray => some ⟨.valueOrEnd, .items [] :: r.stack, none⟩
  | .openObject => some ⟨.nameOrEnd, .fields [] :: r.stack, none⟩
  | _ => none

/-- Take a field's name. -/
def Reader.name (r : Reader) : Lexeme → Option Reader
  | .text s =>
    match r.stack with
    | .fields done :: stack => some ⟨.colon, .named done s :: stack, none⟩
    | _ => none
  | _ => none

/-- Read one lexeme, or refuse it. -/
def Reader.step (r : Reader) (l : Lexeme) : Option Reader :=
  match r.expecting with
  | .value => r.value l
  | .valueOrEnd =>
    match l with
    | .closeArray => r.closeArray
    | l => r.value l
  | .nameOrEnd =>
    match l with
    | .closeObject => r.closeObject
    | l => r.name l
  | .name => r.name l
  | .colon =>
    match l with
    | .colon => some { r with expecting := .value }
    | _ => none
  | .more =>
    match l with
    | .closeArray => r.closeArray
    | .closeObject => r.closeObject
    | .comma =>
      match r.stack with
      | .items _ :: _ => some { r with expecting := .value }
      | .fields _ :: _ => some { r with expecting := .name }
      | _ => none
    | _ => none
  | .nothing => none

/-- The draft of a JSON text: one value, with gaps around it and nothing else. -/
def Draft.ofText? (cs : List Char) : Option Draft :=
  (lexemes cs).bind fun ls => (ls.foldlM Reader.step Reader.start).bind (·.result)

/-! ## 3. Values -/

/-- How many levels of nesting may still be opened; `none` sets no limit. -/
abbrev Levels := Option Nat

/-- The levels left inside a container, if it may be opened at all. -/
def Levels.inside : Levels → Option Levels
  | none => some none
  | some 0 => none
  | some (n + 1) => some (some n)

/-- Documents from outside may nest 127 levels. -/
def Levels.document : Levels := some 127

mutual

/-- The value of a draft. A repeated name keeps its first place and its last value. -/
def Draft.value? (levels : Levels) : Draft → Option Json
  | .leaf v => v
  | .arr items => do
    let inner ← levels.inside
    return .arr (← valueItems? inner items)
  | .obj fields => do
    let inner ← levels.inside
    return .obj (ofFields (← valueFields? inner fields))

def Draft.valueItems? (levels : Levels) : List Draft → Option (List Json)
  | [] => some []
  | d :: rest => do
    let v ← d.value? levels
    return v :: (← valueItems? levels rest)

def Draft.valueFields? (levels : Levels) :
    List (Option String × Draft) → Option (List (String × Json))
  | [] => some []
  | (name, d) :: rest => do
    let k ← name
    let v ← d.value? levels
    return (k, v) :: (← valueFields? levels rest)

end

mutual

/-- A value as a draft, every part of it already valued. -/
def toDraft : Json → Draft
  | .arr items => .arr (draftItems items)
  | .obj fields => .obj (draftFields fields)
  | v => .leaf (some v)

def draftItems : List Json → List Draft
  | [] => []
  | v :: rest => v.toDraft :: draftItems rest

def draftFields : List (String × Json) → List (Option String × Draft)
  | [] => []
  | (name, v) :: rest => (some name, v.toDraft) :: draftFields rest

end

/-- The value of a JSON text. -/
def ofText? (levels : Levels) (s : String) : Option Json :=
  (Draft.ofText? s.toList).bind (Draft.value? levels)

end PageQuery.Json

namespace PageQuery.Json.Draft

/-- The values of one name among an object's fields. A field whose name denotes nothing is refused
before. -/
def named (name : String) (fields : List (Option String × Draft)) : List Draft :=
  (fields.filter (fun field => field.1 == some name)).map (·.2)

/-- One field of an object: absent, or given once. -/
def namedOnce? (name : String) (fields : List (Option String × Draft)) :
    Option (Option Draft) :=
  match named name fields with
  | [] => some none
  | [d] => some (some d)
  | _ => none

/-- The fields of a record in the order of their names, each absent or given, with the levels left
inside the record. -/
def record? (levels : Levels) (names : List String) :
    Draft → Option (Levels × List (Option Draft))
  | .leaf _ => none
  | .arr items => do
    let inner ← levels.inside
    if items.length ≤ names.length then
      some (inner, items.map some ++ List.replicate (names.length - items.length) none)
    else none
  | .obj fields => do
    let inner ← levels.inside
    if fields.all (fun field => field.1.isSome) then
      return (inner, ← names.mapM (namedOnce? · fields))
    else none

/-! ## 4. Leaves -/

def string? : Draft → Option String
  | .leaf (some (.str s)) => some s
  | _ => none

def bool? : Draft → Option Bool
  | .leaf (some (.bool b)) => some b
  | _ => none

/-- A natural number of at most 64 bits. -/
def nat? : Draft → Option Nat
  | .leaf (some v) => v.asNat?
  | _ => none

/-- A list, one level deeper. -/
def list? {α : Type} (item? : Levels → Draft → Option α) (levels : Levels) :
    Draft → Option (List α)
  | .arr items => do
    let inner ← levels.inside
    items.mapM (item? inner)
  | _ => none

/-- `null`, or a value. -/
def nullable? {α : Type} (value? : Draft → Option α) : Draft → Option (Option α)
  | .leaf (some .null) => some none
  | d => (value? d).map some

/-- A field that may be absent. -/
def orElse {α : Type} (default : α) (value? : Draft → Option α) : Option Draft → Option α
  | none => some default
  | some d => value? d

/-- A field that must be there. -/
def required {α : Type} (value? : Draft → Option α) (field : Option Draft) : Option α :=
  field.bind value?

end PageQuery.Json.Draft
