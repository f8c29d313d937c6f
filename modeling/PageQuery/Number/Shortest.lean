import PageQuery.Number.Double
/-!
The fewest decimal digits that read back as a given double.

`shortest` tries grids of 1, 2, … 17 significant digits. On each grid it looks at the two points
around the exact value and keeps one that lies inside the interval of reals that round to the
double; of two such points the nearer, of two equally near the even one. The first grid with a hit
wins. Two ways to write the digits follow: `Layout.json` with an exponent outside a fixed window,
and `plain` without fraction or exponent.
-/

namespace PageQuery.Number

/-! ## 1. The digits -/

/-- The exponent of the leading decimal digit of `n / d`, both positive. -/
def leadingPower (n d : Nat) : Int :=
  let e : Int := (naturalDigits n).length - (naturalDigits d).length
  let below : Bool :=
    if 0 ≤ e then decide (n < d * Nat.pow 10 e.toNat) else decide (n * Nat.pow 10 (-e).toNat < d)
  if below then e - 1 else e

/-- A positive double with the reals that round to it, over one denominator: `value`, the ends
`low` and `high` of the interval, and whether the ends belong to it. -/
structure Neighbourhood where
  low : Nat
  value : Nat
  high : Nat
  denominator : Nat
  closed : Bool

/-- The interval of a double reaches half way to its neighbours; the lower one is nearer where the
significand is the least of its binade. The ends belong to it when the significand is even. -/
def Double.neighbourhood (x : Double) : Neighbourhood :=
  let below := if x.significand = Nat.pow 2 52 ∧ -1074 < x.exponent then 1 else 2
  let e := x.exponent - 2
  let scale := if 0 ≤ e then Nat.pow 2 e.toNat else 1
  let denominator := if 0 ≤ e then 1 else Nat.pow 2 (-e).toNat
  { low := (4 * x.significand - below) * scale
    value := 4 * x.significand * scale
    high := (4 * x.significand + 2) * scale
    denominator := denominator
    closed := x.significand % 2 = 0 }

/-- The point of the grid of multiples of `10 ^ power` that stands for the value, if one lies in
the interval. -/
def Neighbourhood.onGrid (v : Neighbourhood) (power : Int) : Option Nat :=
  let up := if 0 ≤ power then 1 else Nat.pow 10 (-power).toNat
  let unit := if 0 ≤ power then v.denominator * Nat.pow 10 power.toNat else v.denominator
  let low := v.low * up
  let value := v.value * up
  let high := v.high * up
  let inside (point : Nat) : Bool :=
    if v.closed then low ≤ point * unit && point * unit ≤ high
    else low < point * unit && point * unit < high
  let down := value / unit
  match inside down, inside (down + 1) with
  | false, false => none
  | true, false => some down
  | false, true => some (down + 1)
  | true, true => some (Double.divideHalfEven value unit)

/-- Take zeros off the end of the digits and into the exponent. -/
def withoutTrailingZeros : Nat → Nat → Int → Nat × Int
  | 0, digits, power => (digits, power)
  | steps + 1, digits, power =>
    if digits % 10 = 0 ∧ digits ≠ 0 then withoutTrailingZeros steps (digits / 10) (power + 1)
    else (digits, power)

/-- The magnitude of a double as `digits · 10 ^ power` with the fewest digits that read back. -/
def shortest (x : Double) : Nat × Int :=
  if x.isZero then (0, 0)
  else
    let v := x.neighbourhood
    let lead := leadingPower v.value v.denominator
    let hit := (List.range 17).findSome? fun (n : Nat) =>
      let power := lead - n
      (v.onGrid power).map fun digits => (digits, power)
    match hit with
    | some (digits, power) => withoutTrailingZeros 20 digits power
    | none => (0, 0)

/-! ## 2. Writing them -/

/-- When positional notation gives way to an exponent: positional from `10 ^ low` up to, but not
including, `10 ^ high`. -/
structure Layout where
  low : Int
  high : Int

/-- Numbers in JSON text are positional from 0.00001 up to 10 ^ 16. -/
def Layout.json : Layout := ⟨-5, 16⟩

/-- The magnitude with at least one fraction digit, or with a signed exponent. -/
def Layout.write (layout : Layout) (digits : Nat) (power : Int) : List Char :=
  let ds := naturalDigits digits
  let exponent := power + ds.length - 1
  if layout.low ≤ exponent ∧ exponent < layout.high then
    if 0 ≤ power then ds ++ List.replicate power.toNat '0' ++ ['.', '0']
    else if 0 ≤ exponent then
      let whole := (exponent + 1).toNat
      ds.take whole ++ '.' :: ds.drop whole
    else '0' :: '.' :: (List.replicate (-exponent - 1).toNat '0' ++ ds)
  else
    let mantissa :=
      match ds with
      | [] => []
      | [d] => [d]
      | d :: rest => d :: '.' :: rest
    let sign := if exponent < 0 then '-' else '+'
    mantissa ++ 'e' :: sign :: naturalDigits exponent.natAbs

/-- A double as JSON text. -/
def Double.jsonText (x : Double) : List Char :=
  let body :=
    if x.isZero then ['0', '.', '0']
    else
      let (digits, power) := shortest x
      Layout.json.write digits power
  if x.negative then '-' :: body else body

/-- An integral double in positional notation, without fraction or exponent. -/
def Double.plainText (x : Double) : List Char :=
  let (digits, power) := shortest x
  let body := naturalDigits digits ++ List.replicate power.toNat '0'
  if x.negative then '-' :: body else body

end PageQuery.Number
