import PageQuery.Number.Double
/-!
Text beyond ASCII in letters, digits and hyphens.

The ASCII characters come first. Each other character is then inserted in rising order, as the
distance from the insertion before it, written in base 36 with digits whose thresholds adapt to the
distances so far.
-/

namespace PageQuery.Net.Punycode

/-! ## 1. Digits -/

/-- A digit in base 36: letters, then decimal digits. -/
def digit (n : Nat) : Char :=
  if n < 26 then Char.ofNat (n + 'a'.toNat) else Char.ofNat (n - 26 + '0'.toNat)

def digitOf? (c : Char) : Option Nat :=
  if 'a' ≤ c.toLower && c.toLower ≤ 'z' then some (c.toLower.toNat - 'a'.toNat)
  else if c.isDigit then some (c.toNat - '0'.toNat + 26)
  else none

/-- The threshold of the digit at a place, counted in steps of 36. -/
def threshold (place bias : Nat) : Nat := max 1 (min 26 (place - bias))

/-- Halve or damp a distance until it is small; the number of steps makes the bias. -/
def settled : Nat → Nat → Nat → Nat
  | 0, steps, delta => 36 * steps + 36 * delta / (delta + 38)
  | fuel + 1, steps, delta =>
    if 455 < delta then settled fuel (steps + 1) (delta / 35)
    else 36 * steps + 36 * delta / (delta + 38)

/-- The bias after a distance to the insertion that makes so many characters. -/
def adapted (delta count : Nat) (isFirst : Bool) : Nat :=
  let damped := if isFirst then delta / 700 else delta / 2
  let start := damped + damped / count
  settled start 0 start

/-- A distance in digits. -/
def distance : Nat → Nat → Nat → Nat → List Char
  | 0, _, _, _ => []
  | fuel + 1, bias, place, q =>
    let t := threshold place bias
    if q < t then [digit q]
    else digit (t + (q - t) % (36 - t)) :: distance fuel bias (place + 36) ((q - t) / (36 - t))

/-! ## 2. Encoding -/

/-- How far an encoding has come. -/
structure Progress where
  out : List Char
  delta : Nat
  bias : Nat
  /-- The number of characters inserted so far. -/
  count : Nat

/-- Pass a character while those at a code point are inserted. -/
def pass (basic point : Nat) (p : Progress) (c : Char) : Progress :=
  if c.toNat < point then { p with delta := p.delta + 1 }
  else if c.toNat = point then
    { out := p.out ++ distance (p.delta + 1) p.bias 36 p.delta
      delta := 0
      bias := adapted p.delta (p.count + 1) (p.count == basic)
      count := p.count + 1 }
  else p

/-- Insert the characters at the given code points, which rise from the one that is next. -/
def insertAll (cs : List Char) (basic : Nat) : Nat → List Nat → Progress → Progress
  | _, [], p => p
  | next, point :: rest, p =>
    let p := { p with delta := p.delta + (point - next) * (p.count + 1) }
    let p := cs.foldl (pass basic point) p
    insertAll cs basic (point + 1) rest { p with delta := p.delta + 1 }

/-- The ASCII of a text. -/
def basicPart (cs : List Char) : List Char := cs.filter fun c => c.toNat < 0x80

def encode (cs : List Char) : List Char :=
  let basic := basicPart cs
  let points := ((cs.map Char.toNat).filter (0x80 ≤ ·)).mergeSort.eraseReps
  basic ++ (if basic.isEmpty then [] else ['-']) ++
    (insertAll cs basic.length 0x80 points ⟨[], 0, 72, basic.length⟩).out

/-! ## 3. Decoding -/

/-- Read a distance: its value, and what follows it. -/
def readDistance (bias : Nat) : Nat → Nat → Nat → List Char → Option (Nat × List Char)
  | _, _, _, [] => none
  | place, weight, value, c :: rest => do
    let d ← digitOf? c
    let t := threshold place bias
    let value := value + d * weight
    if d < t then return (value, rest)
    else readDistance bias (place + 36) (weight * (36 - t)) value rest

/-- Insert the characters that digits stand for, in at most so many steps. -/
def decodeFrom : Nat → Bool → Nat → Nat → Nat → List Char → List Char → Option (List Char)
  | _, _, _, _, _, done, [] => some done
  | 0, _, _, _, _, _, _ => none
  | fuel + 1, isFirst, point, place, bias, done, cs => do
    let (step, rest) ← readDistance bias 36 1 0 cs
    let count := done.length + 1
    let point := point + (place + step) / count
    let place := (place + step) % count
    if 0x10FFFF < point || (0xD800 ≤ point && point < 0xE000) then none
    else
      decodeFrom fuel false point (place + 1) (adapted step count isFirst)
        (done.take place ++ Char.ofNat point :: done.drop place) rest

/-- The text that ASCII stands for: what is before the last hyphen, with what is behind it
inserted. -/
def decode? (cs : List Char) : Option (List Char) :=
  let tail := (cs.reverse.takeWhile (· != '-')).reverse
  decodeFrom tail.length true 0x80 0 72 (cs.take (cs.length - tail.length - 1)) tail

end PageQuery.Net.Punycode
