import PageQuery.Toml.Value
import PageQuery.Json.Draft
import PageQuery.Number.Double
/-!
TOML strings, numbers, dates and times.

Each reader takes the text from where its value starts and answers with the value and what follows
it, or with nothing.
-/

namespace PageQuery.Toml

open Number Json

/-! ## 1. Strings -/

/-- A control character, which may stand in no text. -/
def isControl (c : Char) : Bool := (c.toNat < 0x20 && c != '\t') || c.toNat == 0x7F

/-- The character of a number, if there is one. -/
def scalar? (n : Nat) : Option Char :=
  if n < 0xD800 ∨ (0xE000 ≤ n ∧ n < 0x110000) then some (Char.ofNat n) else none

def simpleEscape? (c : Char) : Option Char :=
  if c == 'b' then some '\x08'
  else if c == 't' then some '\t'
  else if c == 'n' then some '\n'
  else if c == 'f' then some '\x0c'
  else if c == 'r' then some '\r'
  else if c == '"' then some '"'
  else if c == '\\' then some '\\'
  else none

/-- The character of an escape after its backslash, and what follows. -/
def escape? : List Char → Option (Char × List Char)
  | 'u' :: a :: b :: c :: d :: rest => do
    return (← scalar? (← hex4? a b c d), rest)
  | 'U' :: a :: b :: c :: d :: e :: f :: g :: h :: rest => do
    return (← scalar? (65536 * (← hex4? a b c d) + (← hex4? e f g h)), rest)
  | c :: rest => (simpleEscape? c).map (·, rest)
  | [] => none

/-- A string in quotes, after the opening one, in at most the given number of steps. -/
def basicString : Nat → List Char → Option (List Char × List Char)
  | 0, _ => none
  | _, [] => none
  | _, '"' :: rest => some ([], rest)
  | steps + 1, '\\' :: rest => do
    let (c, rest) ← escape? rest
    let (more, after) ← basicString steps rest
    return (c :: more, after)
  | steps + 1, c :: rest =>
    if isControl c then none
    else do
      let (more, after) ← basicString steps rest
      return (c :: more, after)

/-- A string in apostrophes, after the opening one. -/
def literalString : List Char → Option (List Char × List Char)
  | [] => none
  | '\'' :: rest => some ([], rest)
  | c :: rest =>
    if isControl c then none
    else do
      let (more, after) ← literalString rest
      return (c :: more, after)

/-- Without the line break at the head of a text. -/
def dropBreak : List Char → List Char
  | '\n' :: rest => rest
  | '\r' :: '\n' :: rest => rest
  | cs => cs

def isBreak (cs : List Char) : Bool := (dropBreak cs).length != cs.length

def isGap (c : Char) : Bool := c == ' ' || c == '\t'

/-- What a line's last backslash skips: the rest of the line and all blanks after it. -/
def continuation? (cs : List Char) : Option (List Char) :=
  let rest := cs.dropWhile isGap
  if isBreak rest then
    some (skip rest.length rest)
  else none
where
  skip : Nat → List Char → List Char
    | 0, cs => cs
    | steps + 1, cs =>
      match cs with
      | c :: rest =>
        if isGap c then skip steps rest
        else if isBreak (c :: rest) then skip steps (dropBreak (c :: rest))
        else c :: rest
      | [] => []

/-- What a run of quotes means inside a string of several lines: text, or text and the end. -/
def quoteRun (quote : Char) (cs : List Char) : Nat × List Char :=
  ((cs.takeWhile (· == quote)).length, cs.dropWhile (· == quote))

/-- A string of several lines, after the opening quotes and a line break right there, in at most the
given number of steps. Only one in double quotes has escapes. -/
def multilineString (quote : Char) : Nat → List Char → Option (List Char × List Char)
  | 0, _ => none
  | _, [] => none
  | steps + 1, c :: rest =>
    if c == quote then
      let (count, after) := quoteRun quote (c :: rest)
      if count < 3 then do
        let (more, left) ← multilineString quote steps after
        return (List.replicate count quote ++ more, left)
      else if count < 6 then some (List.replicate (count - 3) quote, after)
      else none
    else if c == '\\' && quote == '"' then
      match continuation? rest with
      | some after => multilineString quote steps after
      | none => do
        let (e, after) ← escape? rest
        let (more, left) ← multilineString quote steps after
        return (e :: more, left)
    else if isBreak (c :: rest) then do
      let (more, left) ← multilineString quote steps (dropBreak (c :: rest))
      return ('\n' :: more, left)
    else if isControl c then none
    else do
      let (more, left) ← multilineString quote steps rest
      return (c :: more, left)

/-- A string value. -/
def string? (cs : List Char) : Option (List Char × List Char) :=
  match cs with
  | '"' :: '"' :: '"' :: rest => multilineString '"' (rest.length + 1) (dropBreak rest)
  | '\'' :: '\'' :: '\'' :: rest => multilineString '\'' (rest.length + 1) (dropBreak rest)
  | '"' :: rest => basicString (rest.length + 1) rest
  | '\'' :: rest => literalString rest
  | _ => none

/-! ## 2. Numbers -/

/-- Digits, with single underscores between them. -/
def digitsTail (isDigit : Char → Bool) : List Char → Option (List Char × List Char)
  | [] => some ([], [])
  | '_' :: c :: rest =>
    if isDigit c then do
      let (more, after) ← digitsTail isDigit rest
      return (c :: more, after)
    else none
  | c :: rest =>
    if isDigit c then do
      let (more, after) ← digitsTail isDigit rest
      return (c :: more, after)
    else if c == '_' then none
    else some ([], c :: rest)

def digits? (isDigit : Char → Bool) : List Char → Option (List Char × List Char)
  | [] => none
  | c :: rest =>
    if isDigit c then (digitsTail isDigit rest).map fun (more, after) => (c :: more, after)
    else none

/-- Decimal digits without a needless zero in front. -/
def decimal? : List Char → Option (List Char × List Char)
  | '0' :: rest => some (['0'], rest)
  | cs => digits? isDigit cs

def sign : List Char → Option Char × List Char
  | '+' :: rest => (some '+', rest)
  | '-' :: rest => (some '-', rest)
  | cs => (none, cs)

/-- Integers have 64 bits. -/
def inRange (i : Int) : Bool := -(Nat.pow 2 63 : Int) ≤ i && i < (Nat.pow 2 63 : Int)

def wordAt (word : String) (cs : List Char) : Option (List Char) :=
  if cs.take word.length == word.toList then some (cs.drop word.length) else none

/-- A whole number in another base. -/
def based? (base : Nat) (isDigit : Char → Bool) (cs : List Char) : Option (Toml × List Char) := do
  let (ds, after) ← digits? isDigit cs
  let n := ds.foldl (fun n c => base * n + (hexValue? c).getD 0) 0
  if inRange n then return (.int n, after) else none

/-- The fraction or the exponent after whole digits: their text, and what follows. -/
def fractional? (cs : List Char) : Option (Option (List Char) × List Char) := do
  let exponent? (cs : List Char) : Option (List Char × List Char) :=
    match cs with
    | e :: rest =>
      if e == 'e' || e == 'E' then do
        let (s, rest) := sign rest
        let (ds, after) ← digits? isDigit rest
        return ('e' :: (s.toList ++ ds), after)
      else some ([], e :: rest)
    | [] => some ([], [])
  match cs with
  | '.' :: rest =>
    let (ds, after) ← digits? isDigit rest
    let (e, after) ← exponent? after
    return (some ('.' :: (ds ++ e)), after)
  | cs =>
    let (e, after) ← exponent? cs
    return (if e.isEmpty then none else some e, after)

/-- A number with a fraction may not be too large; towards the negative there is no limit. -/
def isTooLarge (cs : List Char) : Bool :=
  match readNumeral cs with
  | some (.infinite false) => true
  | _ => false

/-- A number that is not a date. -/
def number? (cs : List Char) : Option (Toml × List Char) := do
  match wordAt "0x" cs, wordAt "0o" cs, wordAt "0b" cs with
  | some rest, _, _ => based? 16 (fun c => (hexValue? c).isSome) rest
  | _, some rest, _ => based? 8 (fun c => '0' ≤ c && c ≤ '7') rest
  | _, _, some rest => based? 2 (fun c => c == '0' || c == '1') rest
  | none, none, none =>
    let (s, rest) := sign cs
    match wordAt "inf" rest, wordAt "nan" rest with
    | some after, _ => return (.fraction, after)
    | _, some after => return (.fraction, after)
    | none, none =>
      let (whole, after) ← decimal? rest
      let (part, after) ← fractional? after
      match part with
      | some f =>
        if isTooLarge (s.toList ++ whole ++ f) then none else return (.fraction, after)
      | none =>
        let n : Int := naturalOf whole
        let i := if s == some '-' then -n else n
        if inRange i && after.head? != some '_' then return (.int i, after) else none

/-! ## 3. Dates and times -/

/-- A number of exactly so many digits. -/
def fixed? (count : Nat) (cs : List Char) : Option (Nat × List Char) :=
  let ds := cs.take count
  if ds.length = count ∧ ds.all isDigit then some (naturalOf ds, cs.drop count) else none

def skip? (c : Char) : List Char → Option (List Char)
  | d :: rest => if d == c then some rest else none
  | [] => none

def monthLength (year month : Nat) : Nat :=
  if month == 2 then
    if year % 4 == 0 && (year % 100 != 0 || year % 400 == 0) then 29 else 28
  else if [4, 6, 9, 11].contains month then 30
  else 31

/-- What follows a date. -/
def date? (cs : List Char) : Option (List Char) := do
  let (year, rest) ← fixed? 4 cs
  let (month, rest) ← fixed? 2 (← skip? '-' rest)
  let (day, rest) ← fixed? 2 (← skip? '-' rest)
  if 1 ≤ month ∧ month ≤ 12 ∧ 1 ≤ day ∧ day ≤ monthLength year month then return rest else none

/-- What follows a time of day. -/
def clock? (cs : List Char) : Option (List Char) := do
  let (hour, rest) ← fixed? 2 cs
  let (minute, rest) ← fixed? 2 (← skip? ':' rest)
  let (second, rest) ← fixed? 2 (← skip? ':' rest)
  if hour < 24 ∧ minute < 60 ∧ second ≤ 60 then
    match rest with
    | '.' :: ds => if (ds.takeWhile isDigit).isEmpty then none else return ds.dropWhile isDigit
    | rest => return rest
  else none

/-- What follows the offset of a time, if there is one. -/
def offset? (cs : List Char) : Option (List Char) :=
  match cs with
  | 'Z' :: rest => some rest
  | 'z' :: rest => some rest
  | c :: rest =>
    if c == '+' || c == '-' then do
      let (hour, rest) ← fixed? 2 rest
      let (minute, rest) ← fixed? 2 (← skip? ':' rest)
      if hour < 24 ∧ minute < 60 then return rest else none
    else some (c :: rest)
  | [] => some []

/-- A time follows here. -/
def startsClock (cs : List Char) : Bool :=
  match cs with
  | a :: b :: ':' :: _ => isDigit a && isDigit b
  | _ => false

/-- A date follows here. -/
def startsDate (cs : List Char) : Bool :=
  match cs with
  | a :: b :: c :: d :: '-' :: _ => [a, b, c, d].all isDigit
  | _ => false

/-- A date, a time, or a date with a time. -/
def moment? (cs : List Char) : Option (Toml × List Char) := do
  if startsDate cs then
    let rest ← date? cs
    match rest with
    | c :: time =>
      if (c == 'T' || c == 't' || c == ' ') && startsClock time then
        return (.moment, ← offset? (← clock? time))
      else return (.moment, c :: time)
    | [] => return (.moment, [])
  else return (.moment, ← clock? cs)

/-- A value that is neither a list nor a table. -/
def scalarValue? (cs : List Char) : Option (Toml × List Char) :=
  match cs with
  | [] => none
  | c :: _ =>
    if c == '"' || c == '\'' then (string? cs).map fun (s, after) => (.str (String.ofList s), after)
    else if startsDate cs || startsClock cs then moment? cs
    else if c == 't' then (wordAt "true" cs).map (.bool true, ·)
    else if c == 'f' then (wordAt "false" cs).map (.bool false, ·)
    else number? cs

end PageQuery.Toml
