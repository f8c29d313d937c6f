/-!
Finite binary64 numbers as exact values, and decimal numerals.

A `Double` is `± significand · 2 ^ exponent` in its one canonical form: the significand has at most
53 bits, and fewer than 53 only at the least exponent. `nearest` rounds an exact quotient to the
closest such value, a tie going to the even significand, and has no answer where the quotient is
beyond the range. All arithmetic of the library on doubles is exact arithmetic on naturals followed
by one `nearest`, so nothing here rests on machine floating point.

`Decimal.nearest` is the correctly rounded value of a decimal, infinite where that overflows.
`readNumeral` reads the numerals a person may type: a sign, digits with an optional point, an
optional exponent, or a word for infinity or for no number. `scaled?` is the other way to give a
decimal a value, in the two rounding steps that a JSON reader takes: the significand as a double,
times or over a power of ten that is itself a double.
-/

namespace PageQuery.Number

/-! ## 1. The format -/

/-- `significand · 2 ^ exponent` is the canonical form of a binary64 magnitude. -/
def IsCanonical (significand : Nat) (exponent : Int) : Prop :=
  significand < Nat.pow 2 53 ∧ -1074 ≤ exponent ∧ exponent ≤ 971 ∧
    (Nat.pow 2 52 ≤ significand ∨ exponent = -1074)

instance (m : Nat) (e : Int) : Decidable (IsCanonical m e) := by
  unfold IsCanonical; infer_instance

/-- A finite binary64 number. Zero has two forms, told apart by the sign. -/
structure Double where
  negative : Bool
  significand : Nat
  exponent : Int
  canonical : IsCanonical significand exponent
  deriving DecidableEq

namespace Double

/-- Zero with the given sign. -/
def zero (negative : Bool) : Double := ⟨negative, 0, -1074, by decide⟩

instance : Inhabited Double := ⟨zero false⟩

def isZero (x : Double) : Bool := x.significand == 0

/-- The same magnitude with the given sign. -/
def withSign (negative : Bool) (x : Double) : Double := { x with negative := negative }

/-- The magnitude as a quotient of naturals, numerator first. -/
def magnitude (x : Double) : Nat × Nat :=
  if 0 ≤ x.exponent then (x.significand * Nat.pow 2 x.exponent.toNat, 1)
  else (x.significand, Nat.pow 2 (-x.exponent).toNat)

/-- The greatest integer not above the number. -/
def floor (x : Double) : Int :=
  let (n, d) := x.magnitude
  if x.negative then -((n + d - 1) / d : Nat) else (n / d : Nat)

/-- The number has no fractional part. -/
def isIntegral (x : Double) : Bool :=
  let (n, d) := x.magnitude
  n % d == 0

/-! ## 2. Rounding an exact quotient -/

/-- The exponent of the leading bit of `n / d`, both positive. -/
def leadingExponent (n d : Nat) : Int :=
  let e : Int := (n.log2 : Int) - (d.log2 : Int)
  let below : Bool :=
    if 0 ≤ e then decide (n < d * Nat.pow 2 e.toNat) else decide (n * Nat.pow 2 (-e).toNat < d)
  if below then e - 1 else e

/-- `n / d` to the nearest natural, a tie going to the even one. -/
def divideHalfEven (n d : Nat) : Nat :=
  let q := n / d
  let r := n % d
  if 2 * r < d then q
  else if d < 2 * r then q + 1
  else if q % 2 = 0 then q else q + 1

/-- The nonnegative double nearest to `n / d` (`d` positive), or `none` where that lies beyond the
largest finite one. -/
def nearest (n d : Nat) : Option Double :=
  if n = 0 then some (zero false)
  else
    let e := max (leadingExponent n d - 52) (-1074)
    let m :=
      if 0 ≤ e then divideHalfEven n (d * Nat.pow 2 e.toNat)
      else divideHalfEven (n * Nat.pow 2 (-e).toNat) d
    let (m, e) := if m = Nat.pow 2 53 then (Nat.pow 2 52, e + 1) else (m, e)
    if h : IsCanonical m e then some ⟨false, m, e, h⟩ else none

/-- The double nearest to a natural number. -/
def ofNat? (n : Nat) : Option Double := nearest n 1

/-! ## 3. Products and quotients -/

/-- The product of two magnitudes, rounded once; the sign of the first is kept. -/
def times? (x y : Double) : Option Double :=
  let (a, b) := x.magnitude
  let (c, d) := y.magnitude
  (nearest (a * c) (b * d)).map (withSign x.negative)

/-- The quotient of two magnitudes, rounded once; the sign of the first is kept. There is none by
zero. -/
def over? (x y : Double) : Option Double :=
  let (a, b) := x.magnitude
  let (c, d) := y.magnitude
  if c = 0 then none else (nearest (a * d) (b * c)).map (withSign x.negative)

end Double

/-- What a numeral can stand for: a finite double, an infinity or no number. -/
inductive Extended where
  | finite (value : Double)
  | infinite (negative : Bool)
  | notANumber
  deriving DecidableEq

/-! ## 4. Digits -/

def isDigit (c : Char) : Bool := '0' ≤ c && c ≤ '9'

/-- The value of a decimal digit. -/
def digitValue (c : Char) : Nat := c.toNat - '0'.toNat

/-- The natural number that a row of decimal digits denotes. -/
def naturalOf (digits : List Char) : Nat :=
  digits.foldl (fun n c => 10 * n + digitValue c) 0

/-- The decimal digits of a natural number. -/
def naturalDigits (n : Nat) : List Char := Nat.toDigits 10 n

/-! ## 5. The nearest double -/

/-- The number `± digits · 10 ^ exponent`. -/
structure Decimal where
  negative : Bool
  digits : Nat
  exponent : Int
  deriving DecidableEq

namespace Decimal

/-- The double nearest to a decimal. A decimal of more than 330 digits before the point is infinite
and one that starts more than 330 places after it is zero, so the powers of ten stay small. -/
def nearest (x : Decimal) : Extended :=
  let places : Int := (naturalDigits x.digits).length + x.exponent
  if x.digits = 0 ∨ places < -330 then .finite (Double.zero x.negative)
  else if 330 < places then .infinite x.negative
  else
    let rounded :=
      if 0 ≤ x.exponent then Double.nearest (x.digits * Nat.pow 10 x.exponent.toNat) 1
      else Double.nearest x.digits (Nat.pow 10 (-x.exponent).toNat)
    match rounded with
    | some y => .finite (y.withSign x.negative)
    | none => .infinite x.negative

/-- The parts of a numeral after its sign: digits, optionally a point and digits, optionally an
exponent. One digit must stand somewhere, and one in the exponent if there is one. -/
def ofUnsigned? (negative : Bool) (cs : List Char) : Option Decimal :=
  let whole := cs.takeWhile isDigit
  let rest := cs.dropWhile isDigit
  let (fraction, rest) :=
    match rest with
    | '.' :: after => (after.takeWhile isDigit, after.dropWhile isDigit)
    | other => ([], other)
  if whole.isEmpty && fraction.isEmpty then none
  else
    let decimal (e : Int) : Decimal :=
      ⟨negative, naturalOf (whole ++ fraction), e - fraction.length⟩
    match rest with
    | [] => some (decimal 0)
    | c :: after =>
      if c = 'e' ∨ c = 'E' then
        let (down, digits) :=
          match after with
          | '-' :: ds => (true, ds)
          | '+' :: ds => (false, ds)
          | ds => (false, ds)
        if digits.isEmpty || !digits.all isDigit then none
        else
          let e : Int := naturalOf digits
          some (decimal (if down then -e else e))
      else none

end Decimal

/-- Read a numeral: an optional sign, then a decimal, `inf`, `infinity` or `nan` in any case. -/
def readNumeral (cs : List Char) : Option Extended :=
  let (negative, body) :=
    match cs with
    | '-' :: rest => (true, rest)
    | '+' :: rest => (false, rest)
    | other => (false, other)
  let word := String.ofList (body.map Char.toLower)
  if word = "inf" ∨ word = "infinity" then some (.infinite negative)
  else if word = "nan" then some .notANumber
  else (Decimal.ofUnsigned? negative body).map Decimal.nearest

/-! ## 6. Two-step scaling -/

/-- The double nearest to a power of ten up to `10 ^ 308`. -/
def powerOfTen (k : Nat) : Double := (Double.nearest (Nat.pow 10 k) 1).getD (Double.zero false)

/-- Divide by `10 ^ 308` the given number of times, or until nothing is left. -/
def lowered : Nat → Double → Option Double
  | 0, x => some x
  | steps + 1, x => if x.isZero then some x else (x.over? (powerOfTen 308)).bind (lowered steps)

/-- A double times `10 ^ exponent`. Each step multiplies or divides by the double nearest to a
power of ten; an exponent below −308 is worked off in steps of 308. There is no value when the
product overflows. -/
def scaled? (x : Double) (exponent : Int) : Option Double :=
  if x.isZero then some x
  else if 308 < exponent then none
  else if 0 ≤ exponent then x.times? (powerOfTen exponent.toNat)
  else
    let steps := ((-exponent).toNat - 1) / 308
    (lowered steps x).bind fun y =>
      if y.isZero then some y else y.over? (powerOfTen ((-exponent).toNat - 308 * steps))

end PageQuery.Number
