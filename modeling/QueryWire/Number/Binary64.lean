import QueryWire.Text.Digits

/-!
# Double-precision numbers as exact fractions

A finite double is `m · 2 ^ e` with `m < 2 ^ 53` and `e ≥ -1074`, so whatever is asked about it
can be answered in natural numbers.  Magnitudes only: signs are kept by the caller.

* `Binary64.ofRatio` — the double nearest to a fraction, ties to the even mantissa.
* `Binary64.shortest` — the fewest decimal digits that read back as the double, and of those the
  nearest to it.
-/

namespace QueryWire

namespace Binary64

/-- The bits of a magnitude; the sign bit is not set. -/
abbrev Magnitude := Nat

/-- The bit above the fraction of a double, which the mantissa has unless the exponent is the least:
`2 ^ 52`. -/
def leadingBit : Nat := 0x10000000000000

/-- The bits of infinity. -/
def infinity : Magnitude := 0x7FF0000000000000

/-- A positive fraction with an explicit power of two: `num / den · 2 ^ e`. -/
def scaled (num den : Nat) (e : Int) : Nat × Nat :=
  if 0 ≤ e then (num, den <<< e.toNat) else (num <<< (-e).toNat, den)

/-- `num / den · 2 ^ (-e)` rounded to an integer, ties to even. -/
def roundAt (num den : Nat) (e : Int) : Nat :=
  let (n, d) := scaled num den e
  let q := n / d
  let r := n % d
  if 2 * r < d then q
  else if d < 2 * r then q + 1
  else if q % 2 = 0 then q else q + 1

/-- The exponent at which a fraction has a mantissa of 53 bits, or the least exponent. -/
def exponentOf (num den : Nat) : Int :=
  let e := max ((num.log2 : Int) - den.log2 - 52) (-1074)
  let (n, d) := scaled num den e
  if n / d < leadingBit ∧ -1074 < e then e - 1 else e

/-- The double nearest to `num / den`, ties to the even mantissa; infinity when the fraction is
too large. -/
def ofRatio (num den : Nat) : Magnitude :=
  if num = 0 then 0
  else
    let e := exponentOf num den
    min ((e + 1074).toNat * leadingBit + roundAt num den e) infinity

/-- The mantissa and the exponent of a finite double. -/
def parts (bits : Magnitude) : Nat × Int :=
  let field : Nat := bits / leadingBit
  let fraction : Nat := bits % leadingBit
  if field = 0 then (fraction, -1074) else (fraction + leadingBit, Int.ofNat field - 1075)

/-- A finite double as a fraction. -/
def ratio (bits : Magnitude) : Nat × Nat :=
  let (m, e) := parts bits
  if 0 ≤ e then (m <<< e.toNat, 1) else (m, 1 <<< (-e).toNat)

/-- The product of two finite doubles, rounded. -/
def mul (a b : Magnitude) : Magnitude :=
  let (an, ad) := ratio a
  let (bn, bd) := ratio b
  ofRatio (an * bn) (ad * bd)

/-- The quotient of two finite doubles, the second not zero, rounded. -/
def div (a b : Magnitude) : Magnitude :=
  let (an, ad) := ratio a
  let (bn, bd) := ratio b
  ofRatio (an * bd) (ad * bn)

/-! ## Shortest digits -/

/-- The fractions that round to a double lie between `low / den` and `high / den`; the ends count
when `closed`.  The double itself is `mid / den`. -/
structure Interval where
  low : Nat
  mid : Nat
  high : Nat
  den : Nat
  closed : Bool

/-- The interval of a finite double.  Below a power of two the neighbour is half as far. -/
def interval (bits : Magnitude) : Interval :=
  let (m, e) := parts bits
  let gap := if bits % leadingBit = 0 ∧ leadingBit < bits then 1 else 2
  let up := if 2 ≤ e then 1 <<< (e - 2).toNat else 1
  let den := if 2 ≤ e then 1 else 1 <<< (2 - e).toNat
  ⟨(4 * m - gap) * up, 4 * m * up, (4 * m + 2) * up, den, m % 2 == 0⟩

/-- Whether the fraction `n / d` lies in an interval. -/
def Interval.contains (i : Interval) (n d : Nat) : Bool :=
  if i.closed then i.low * d ≤ n * i.den && n * i.den ≤ i.high * d
  else i.low * d < n * i.den && n * i.den < i.high * d

/-- A decimal `digits · 10 ^ exponent`. -/
structure Digits10 where
  digits : Nat
  exponent : Int
deriving DecidableEq, Repr

/-- The exponent of the first decimal digit of the fraction `num / den`, neither of them zero. -/
def leadingExponent (num den : Nat) : Int :=
  if den ≤ num then ((Digits.decimal (num / den)).length : Int) - 1
  else -((Digits.decimal ((den + num - 1) / num - 1)).length : Int)

/-- The point of the grid `10 ^ g` nearest to the middle of an interval among its two neighbours
that lie in the interval; a tie goes to the even one. -/
def onGrid? (i : Interval) (g : Int) : Option Nat :=
  -- the grid in the units of the interval: a point `k` is `k · up / down`
  let up := if 0 ≤ g then Nat.pow 10 g.toNat else 1
  let down := if 0 ≤ g then 1 else Nat.pow 10 (-g).toNat
  let below := i.mid * down / (i.den * up)
  let above := below + 1
  let belowFits := i.contains (below * up) down
  let aboveFits := i.contains (above * up) down
  -- twice the distance of the middle from the lower point, in parts of the grid
  let rest := 2 * (i.mid * down % (i.den * up))
  let whole := i.den * up
  if belowFits && aboveFits then
    some (if rest < whole then below else if whole < rest then above
      else if below % 2 = 0 then below else above)
  else if belowFits then some below
  else if aboveFits then some above
  else none

/-- A decimal without zeros at the end of its digits; `fuel` bounds their count. -/
def stripZeros : (fuel : Nat) → Digits10 → Digits10
  | 0, d => d
  | fuel + 1, d =>
    if d.digits ≠ 0 ∧ d.digits % 10 = 0 then stripZeros fuel ⟨d.digits / 10, d.exponent + 1⟩ else d

/-- The first grid, from `g` downward, with a point in the interval. -/
def firstGrid (i : Interval) (g : Int) : (grids : Nat) → Digits10
  | 0 => ⟨0, 0⟩
  | grids + 1 =>
    match onGrid? i g with
    | some digits => stripZeros 18 ⟨digits, g⟩
    | none => firstGrid i (g - 1) grids

/-- The fewest digits that read back as a finite double other than zero, and of those the nearest
to it.  Seventeen always suffice. -/
def shortest (bits : Magnitude) : Digits10 :=
  let i := interval bits
  firstGrid i (leadingExponent i.mid i.den) 18

end Binary64

end QueryWire
