import Std.Data.HashMap
import PageQuery.Html.References
import PageQuery.Number.Double
/-!
Character references in HTML text.

`reference` reads what follows an ampersand: a number, a named reference by its longest match, or
neither, in which case the ampersand stands for itself. Inside an attribute value a name without its
semicolon is no reference where an equals sign or an alphanumeric character follows.
-/

namespace PageQuery.Html

open Number

/-! ## 1. The table of names -/

/-- The digit value of a hexadecimal digit in either case. -/
def hexDigit? (c : Char) : Option Nat :=
  if '0' ≤ c && c ≤ '9' then some (c.toNat - '0'.toNat)
  else if 'a' ≤ c && c ≤ 'f' then some (c.toNat - 'a'.toNat + 10)
  else if 'A' ≤ c && c ≤ 'F' then some (c.toNat - 'A'.toNat + 10)
  else none

/-- The number that a row of hexadecimal digits denotes. -/
def hexNumber (digits : List Char) : Nat :=
  digits.foldl (fun n c => 16 * n + (hexDigit? c).getD 0) 0

/-- An entry of the table: a name and what it stands for. -/
def entry (word : List Char) : String × List Char :=
  let name := word.takeWhile (· ≠ '=')
  let codes := (word.dropWhile (· ≠ '=')).tail
  (String.ofList name, (codes.splitOn '-').map fun code => Char.ofNat (hexNumber code))

/-- What each name stands for. -/
def referenceTable : Std.HashMap String (List Char) :=
  referenceTexts.foldl
    (fun table text =>
      (text.toList.splitOnP (fun c => c == ' ' || c == '\n')).foldl
        (fun table word =>
          if word.isEmpty then table
          else
            let (name, chars) := entry word
            table.insert name chars)
        table)
    ∅

/-- No name is longer. -/
def longestName : Nat := 33

/-- The longest name in the table that a text starts with, of at most the given length: its length,
whether it ends in a semicolon, and what it stands for. -/
def namedPrefix : Nat → List Char → Option (Nat × Bool × List Char)
  | 0, _ => none
  | n + 1, cs =>
    let name := cs.take (n + 1)
    match if name.length = n + 1 then referenceTable[String.ofList name]? else none with
    | some chars => some (n + 1, name.getLast? == some ';', chars)
    | none => namedPrefix n cs

/-! ## 2. Numbers -/

/-- Code points from 128 to 159 name the characters of the Windows code page. -/
def windowsTable : List Nat :=
  [0x20AC, 0x81, 0x201A, 0x192, 0x201E, 0x2026, 0x2020, 0x2021, 0x2C6, 0x2030, 0x160, 0x2039,
   0x152, 0x8D, 0x17D, 0x8F, 0x90, 0x2018, 0x2019, 0x201C, 0x201D, 0x2022, 0x2013, 0x2014,
   0x2DC, 0x2122, 0x161, 0x203A, 0x153, 0x9D, 0x17E, 0x178]

/-- What stands for a character that cannot be given. -/
def replacement : Char := '\ufffd'

/-- The character of a numeric reference. -/
def numbered (n : Nat) : Char :=
  if 0x80 ≤ n ∧ n < 0xA0 then Char.ofNat (windowsTable.getD (n - 0x80) 0xFFFD)
  else if n = 0 ∨ 0x10FFFF < n ∨ (0xD800 ≤ n ∧ n < 0xE000) then replacement
  else Char.ofNat n

/-- Read a numeric reference after its ampersand and number sign. -/
def numericReference? (cs : List Char) : Option (Char × List Char) :=
  let (hexadecimal, digits) : Bool × List Char :=
    match cs with
    | 'x' :: rest => (true, rest)
    | 'X' :: rest => (true, rest)
    | other => (false, other)
  let isDigitHere (c : Char) : Bool := if hexadecimal then (hexDigit? c).isSome else isDigit c
  let row := digits.takeWhile isDigitHere
  let rest := digits.dropWhile isDigitHere
  if row.isEmpty then none
  else
    let n := if hexadecimal then hexNumber row else naturalOf row
    some (numbered n, match rest with
      | ';' :: after => after
      | after => after)

/-! ## 3. References -/

def isAlphanumeric (c : Char) : Bool :=
  ('a' ≤ c && c ≤ 'z') || ('A' ≤ c && c ≤ 'Z') || isDigit c

/-- What an ampersand and the text after it stand for, and the text that is left. -/
def reference (inAttribute : Bool) (cs : List Char) : List Char × List Char :=
  match cs with
  | '#' :: rest =>
    match numericReference? rest with
    | some (c, left) => ([c], left)
    | none => (['&'], cs)
  | c :: _ =>
    if isAlphanumeric c then
      match namedPrefix longestName cs with
      | none => (['&'], cs)
      | some (n, closed, chars) =>
        let left := cs.drop n
        let goesOn :=
          match left with
          | d :: _ => d == '=' || isAlphanumeric d
          | [] => false
        if inAttribute && !closed && goesOn then (['&'], cs) else (chars, left)
    else (['&'], cs)
  | [] => (['&'], [])

end PageQuery.Html
