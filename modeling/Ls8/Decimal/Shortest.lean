/-! # The shortest decimal of a binary number

A floating-point number stands for every real that rounds to it. Among the decimals in that
interval, `shortest` finds one with the fewest digits and, of those, the nearest to the number: for
one digit, two digits and so on it tests the two neighbours of the number on the decimal grid, in
exact arithmetic. `text` writes the result. -/

namespace Ls8.Decimal

/-- A positive decimal `digits · 10 ^ scale`. -/
structure Scaled where
  digits : Nat
  scale : Int
  deriving DecidableEq, Repr

/-- A positive rational given by numerator and denominator, with the reals between `low` and `high`
(over the same denominator) around it; the ends belong to the interval if `closed`. -/
structure Interval where
  low : Nat
  value : Nat
  high : Nat
  denominator : Nat
  closed : Bool

/-- The least significand of a normal double, `2 ^ 52`. -/
def leastNormal : Nat := 0x10000000000000

/-- The reals that round to `m · 2 ^ q`. Below a power of two the neighbour is half as far away,
except at the smallest exponent. -/
def Interval.ofBinary (m : Nat) (q : Int) : Interval :=
  let up := Nat.pow 2 q.toNat
  let below := if m = leastNormal ∧ -1074 < q then 1 else 2
  { low := (4 * m - below) * up
    value := 4 * m * up
    high := (4 * m + 2) * up
    denominator := 4 * Nat.pow 2 (-q).toNat
    closed := m % 2 == 0 }

/-- The interval divided by `10 ^ scale`. -/
def Interval.rescale (i : Interval) (scale : Int) : Interval :=
  let up := Nat.pow 10 (-scale).toNat
  { i with
    low := i.low * up, value := i.value * up, high := i.high * up,
    denominator := i.denominator * Nat.pow 10 scale.toNat }

/-- Whether an integer lies in the interval. -/
def Interval.holds (i : Interval) (n : Nat) : Bool :=
  let scaled := n * i.denominator
  (i.low < scaled && scaled < i.high) || (i.closed && (i.low == scaled || i.high == scaled))

/-- The integer of the interval next to the value, if one of its two neighbours is in it; a tie
goes to the even one. -/
def Interval.neighbour? (i : Interval) : Option Nat :=
  let floor := i.value / i.denominator
  let rest := i.value % i.denominator
  match 0 < floor && i.holds floor, i.holds (floor + 1) with
  | true, true =>
    if 2 * rest < i.denominator || (2 * rest == i.denominator && floor % 2 == 0) then some floor
    else some (floor + 1)
  | true, false => some floor
  | false, true => some (floor + 1)
  | false, false => none

/-- The exponent of the first decimal digit of `value / denominator`; `fuel` bounds the number of
zeros after the point. -/
def leadingExponent (value denominator : Nat) : Nat → Int
  | 0 => 0
  | fuel + 1 =>
    if denominator ≤ value then (Nat.toDigits 10 (value / denominator)).length - 1
    else leadingExponent (value * 10) denominator fuel - 1

/-- A decimal without zeros at the end of its digits. -/
def Scaled.strip (d : Scaled) : Nat → Scaled
  | 0 => d
  | fuel + 1 =>
    if d.digits % 10 = 0 ∧ 0 < d.digits then Scaled.strip ⟨d.digits / 10, d.scale + 1⟩ fuel else d

/-- The decimal with the fewest digits that rounds to `m · 2 ^ q`, for a positive `m`. Seventeen
digits are enough for every double. -/
def shortest (m : Nat) (q : Int) : Scaled :=
  let interval := Interval.ofBinary m q
  let leading := leadingExponent interval.value interval.denominator 400
  let grids := (List.range 17).map fun (k : Nat) => leading - (k : Int)
  let found := grids.findSome? fun scale =>
    (interval.rescale scale).neighbour?.map fun digits => Scaled.mk digits scale
  (found.getD ⟨interval.value / interval.denominator, 0⟩).strip 20

/-- The exponents of the first digit for which positional notation is used. -/
structure Form where
  leastExponent : Int
  greatestExponent : Int

/-- A positive decimal as text. Positional notation has a digit on both sides of the point; the
exponent of the other notation always has a sign, and no zeros in front. -/
def Scaled.text (form : Form) (d : Scaled) : String :=
  let digits := Nat.toDigits 10 d.digits
  let leading := d.scale + digits.length - 1
  if form.leastExponent ≤ leading ∧ leading ≤ form.greatestExponent then
    if leading < 0 then
      "0." ++ String.ofList (List.replicate (-leading - 1).toNat '0' ++ digits)
    else
      let whole := (leading + 1).toNat
      let fraction := digits.drop whole
      String.ofList (digits.take whole ++ List.replicate (whole - digits.length) '0') ++ "." ++
        (if fraction.isEmpty then "0" else String.ofList fraction)
  else
    let fraction := digits.drop 1
    String.ofList (digits.take 1) ++
      (if fraction.isEmpty then "" else "." ++ String.ofList fraction) ++
      (if leading < 0 then "e-" else "e+") ++
      String.ofList (Nat.toDigits 10 leading.natAbs)

/-- The bit that marks a negative double, `2 ^ 63`. -/
def signBit : Nat := 0x8000000000000000

/-- A finite double as text. -/
def text (form : Form) (x : Float) : String :=
  let bits := x.toBits.toNat
  let magnitude := bits % signBit
  let exponent : Nat := magnitude / leastNormal
  let fraction := magnitude % leastNormal
  let sign := if signBit ≤ bits then "-" else ""
  if magnitude = 0 then sign ++ "0.0"
  else if exponent = 0 then sign ++ (shortest fraction (-1074)).text form
  else sign ++ (shortest (fraction + leastNormal) (Int.ofNat exponent - 1075)).text form

end Ls8.Decimal
