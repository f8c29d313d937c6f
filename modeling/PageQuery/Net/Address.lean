import PageQuery.Number.Double
import PageQuery.Text.Basic
/-!
Percent encoding, and numeric hosts.

A character that may not stand bare is written as its bytes in UTF-8, each as a percent sign and two
digits in base sixteen.

An address of four bytes may be written with fewer parts and in other bases; one of eight groups may
leave out a run of zeros. Each has one normal spelling.
-/

namespace PageQuery.Net

open Text Number

/-! ## 1. Digits -/

def upperHex (n : Nat) : Char :=
  if n < 10 then Char.ofNat (n + '0'.toNat) else Char.ofNat (n - 10 + 'A'.toNat)

/-- The value of a digit in base sixteen. -/
def hexOf? (c : Char) : Option Nat :=
  if c.isDigit then some (c.toNat - '0'.toNat)
  else if 'a' ≤ c.toLower && c.toLower ≤ 'f' then some (c.toLower.toNat - 'a'.toNat + 10)
  else none

/-! ## 2. Encoding -/

def encodeByte (b : UInt8) : List Char :=
  ['%', upperHex (b.toNat / 16), upperHex (b.toNat % 16)]

/-- The bytes of a character in UTF-8. -/
def bytesOfChar (c : Char) : List UInt8 := (String.singleton c).toUTF8.toList

/-- A character, encoded if it is outside ASCII, a control or in the given set. -/
def encodeChar (set : List Char) (c : Char) : List Char :=
  if c.toNat < 0x20 || 0x7E < c.toNat || set.contains c then (bytesOfChar c).flatMap encodeByte
  else [c]

def encode (set : List Char) (cs : List Char) : List Char := cs.flatMap (encodeChar set)

/-! ## 3. Decoding -/

/-- The bytes that percent-encoded text stands for. A percent sign without two digits stands for
itself. -/
def decodedBytes : List Char → List UInt8
  | '%' :: a :: b :: rest =>
    match hexOf? a, hexOf? b with
    | some x, some y => (16 * x + y).toUInt8 :: decodedBytes rest
    | _, _ => bytesOfChar '%' ++ decodedBytes (a :: b :: rest)
  | c :: rest => bytesOfChar c ++ decodedBytes rest
  | [] => []

/-- The text that percent-encoded text stands for, if its bytes are UTF-8. -/
def decodedText? (cs : List Char) : Option (List Char) :=
  (String.fromUTF8? ⟨(decodedBytes cs).toArray⟩).map String.toList

/-! ## 4. Four bytes -/

/-- A host that looks like a number: its last part is one. -/
def endsInNumber (host : List Char) : Bool :=
  let parts := pieces '.' host
  let parts := if parts.getLast? == some [] then parts.dropLast else parts
  match parts.getLast? with
  | some ('0' :: x :: rest) =>
    (x.toLower == 'x' && rest.all fun c => (hexOf? c).isSome) || (x :: rest).all Char.isDigit
  | some (c :: rest) => (c :: rest).all Char.isDigit
  | _ => false

/-- A part of a numeric host: decimal, octal after `0`, hexadecimal after `0x`. -/
def hostNumber? : List Char → Option Nat
  | [] => none
  | '0' :: x :: rest =>
    if x.toLower == 'x' then rest.foldlM (fun n c => (hexOf? c).map (16 * n + ·)) 0
    else (x :: rest).foldlM (fun n c =>
      if '0' ≤ c && c ≤ '7' then some (8 * n + digitValue c) else none) 0
  | cs => if cs.all Char.isDigit then some (naturalOf cs) else none

/-- Four bytes with points between them. -/
def bytesText (value : Nat) : List Char :=
  joinWith ['.']
    ([value / 16777216, value / 65536 % 256, value / 256 % 256, value % 256].map naturalDigits)

/-- A numeric host in its normal spelling. -/
def address? (host : List Char) : Option (List Char) := do
  let parts := pieces '.' host
  let parts := if parts.getLast? == some [] && parts.length > 1 then parts.dropLast else parts
  if parts.length > 4 then none
  let numbers ← parts.mapM hostNumber?
  let last ← numbers.getLast?
  let firsts := numbers.dropLast
  if firsts.any (· > 255) || last ≥ Nat.pow 256 (5 - numbers.length) then none
  let high := (firsts.zipIdx.map fun (n, i) => n * Nat.pow 256 (3 - i)).foldr (· + ·) 0
  return bytesText (high + last)

/-! ## 5. Eight groups -/

/-- A group: one to four digits in base sixteen. -/
def group? (cs : List Char) : Option Nat :=
  if cs.isEmpty || cs.length > 4 then none
  else cs.foldlM (fun n c => (hexOf? c).map (16 * n + ·)) 0

/-- A byte in decimal without leading zeros. -/
def plainByte? (cs : List Char) : Option Nat :=
  if cs.isEmpty || cs.length > 3 || !cs.all Char.isDigit then none
  else if cs.length > 1 && cs.head? == some '0' then none
  else if naturalOf cs < 256 then some (naturalOf cs) else none

/-- The last part of an address: a group, or four bytes that make two groups. -/
def lastGroups? (cs : List Char) : Option (List Nat) :=
  if cs.contains '.' then
    match (pieces '.' cs).mapM plainByte? with
    | some [a, b, c, d] => some [256 * a + b, 256 * c + d]
    | _ => none
  else (group? cs).map ([·])

/-- Groups with colons between them. -/
def groups? (cs : List Char) : Option (List Nat) := do
  let parts := pieces ':' cs
  let firsts ← parts.dropLast.mapM group?
  return firsts ++ (← lastGroups? (parts.getLast?.getD []))

/-- Groups that may be none at all. -/
def groupsOrNone? (cs : List Char) : Option (List Nat) :=
  if cs.isEmpty then some [] else groups? cs

/-- Cut at the first pair of colons. -/
def atGap : List Char → Option (List Char × List Char)
  | ':' :: ':' :: rest => some ([], rest)
  | c :: rest => (atGap rest).map fun (before, after) => (c :: before, after)
  | [] => none

/-- The eight groups of an address. A pair of colons stands for at least one group of zeros, and
there may be four bytes at the end only. -/
def eightGroups? (cs : List Char) : Option (List Nat) :=
  match atGap cs with
  | none => (groups? cs).filter (·.length == 8)
  | some (before, after) => do
    if before.contains '.' then none
    let firsts ← groupsOrNone? before
    let lasts ← groupsOrNone? after
    let count := firsts.length + lasts.length
    if count > 7 then none
    return firsts ++ List.replicate (8 - count) 0 ++ lasts

/-- A number in base sixteen, in lower case. -/
def groupText (n : Nat) : List Char := Nat.toDigits 16 n

/-- The length of the zeros at the front of groups. -/
def zeroRun (gs : List Nat) : Nat := (gs.takeWhile (· == 0)).length

/-- The length of the longest run of zeros. -/
def longestRun : List Nat → Nat
  | [] => 0
  | g :: rest => max (zeroRun (g :: rest)) (longestRun rest)

/-- Leave out the first run of zeros of a length: what stands before and behind it. -/
def aroundRun (length : Nat) : List Nat → List Nat × List Nat
  | [] => ([], [])
  | g :: rest =>
    if zeroRun (g :: rest) = length then ([], (g :: rest).drop length)
    else
      let (before, after) := aroundRun length rest
      (g :: before, after)

/-- Eight groups in their normal spelling: the first of the longest runs of two or more zeros is left
out. -/
def groupsText (gs : List Nat) : List Char :=
  let join (part : List Nat) : List Char := joinWith [':'] (part.map groupText)
  if longestRun gs < 2 then join gs
  else
    let (before, after) := aroundRun (longestRun gs) gs
    join before ++ [':', ':'] ++ join after

end PageQuery.Net
