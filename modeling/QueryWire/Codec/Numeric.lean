import QueryWire.Wire.Reader

/-!
# Numbers of any size on the wire

A decimal or an integer of any size travels in groups of four decimal digits.  Group `i` counts
`10000 ^ (weight - i)`; the groups are preceded by their count, the weight, a sign word and the
count of decimal digits to show behind the point.

* `Numeric.ofMagnitude?` — the one form without groups of zero at either end.
* `Numeric.toBytes`, `Numeric.read` — the payload.
* `Numeric.integer?`, `Numeric.mantissa?` — the exact value, when it has the form asked for.
-/

namespace QueryWire

/-- A number in groups of four decimal digits. -/
structure Numeric where
  negative : Bool
  /-- The power of 10000 that the first group counts. -/
  weight : Int16
  /-- How many decimal digits are shown behind the point. -/
  scale : UInt16
  groups : List Nat
deriving DecidableEq, Repr

namespace Numeric

/-- The radix of the groups. -/
def radix : Nat := 10000

/-- The sign word of a number that is not negative. -/
def plusWord : UInt16 := 0x0000

/-- The sign word of a negative number. -/
def minusWord : UInt16 := 0x4000

/-- The integer that the groups alone spell. -/
def magnitude (n : Numeric) : Nat := n.groups.foldl (fun acc g => acc * radix + g) 0

/-- The power of 10000 that takes the magnitude to the value. -/
def exponent (n : Numeric) : Int := n.weight.toInt + 1 - n.groups.length

/-- The power of ten that takes the magnitude to the value in units of the last digit shown. -/
def shift (n : Numeric) : Int := 4 * n.exponent + n.scale.toNat

/-- The low 32 bits of an integer.  Powers are taken to exponents of that width. -/
def narrow (n : Int) : Nat := (UInt32.ofInt n).toNat

/-- An integer with the sign of a number. -/
def signed (n : Numeric) (magnitude : Nat) : Int := if n.negative then -magnitude else magnitude

/-- The value as an integer; none when groups lie behind the point. -/
def integer? (n : Numeric) : Option Int :=
  if n.exponent < 0 && !n.groups.isEmpty then none
  else some (n.signed (n.magnitude * radix.pow (narrow (max n.exponent 0))))

/-- The integer that is the value times `10 ^ scale`; none when digits lie behind the scale. -/
def mantissa? (n : Numeric) : Option Int :=
  if 0 ≤ n.shift then some (n.signed (n.magnitude * Nat.pow 10 (narrow n.shift)))
  else
    let divisor := Nat.pow 10 (narrow n.shift.natAbs)
    if n.magnitude % divisor = 0 then some (n.signed (n.magnitude / divisor)) else none

/-- Digits without zeros at their end. -/
def dropLastZeros (groups : List Nat) : List Nat := (groups.reverse.dropWhile (· == 0)).reverse

/-- The number `magnitude / 10 ^ scale` without groups of zero at either end; none when the count
of groups or the weight does not fit its field. -/
def ofMagnitude? (negative : Bool) (magnitude : Nat) (scale : UInt16) : Option Numeric :=
  let padding := (4 - scale.toNat % 4) % 4
  let all := Digits.blocks radix (magnitude * Nat.pow 10 padding)
  let groups := dropLastZeros all
  let weight : Int := (all.length : Int) - 1 - ((scale.toNat + padding) / 4 : Nat)
  if groups.isEmpty then some ⟨false, 0, scale, []⟩
  else if groups.length < 65536 ∧ -32768 ≤ weight ∧ weight < 32768 then
    some ⟨negative, Int16.ofInt weight, scale, groups⟩
  else none

/-- The payload of a number. -/
def toBytes (n : Numeric) : Bytes :=
  BigEndian.encode 2 n.groups.length
    ++ BigEndian.encode 2 n.weight.toUInt16.toNat
    ++ BigEndian.encode 2 (if n.negative then minusWord else plusWord).toNat
    ++ BigEndian.encode 2 n.scale.toNat
    ++ n.groups.flatMap (BigEndian.encode 2)

/-- The sign of a number, by its sign word. -/
def readSign (fail : BadScalar → Error) : Reader Bool := do
  let word ← Reader.u16
  if word = plusWord then pure false
  else if word = minusWord then pure true
  else throw (fail (.signWord word))

/-- One group, which is below the radix. -/
def readGroup (fail : BadScalar → Error) : Reader Nat := do
  let group ← Reader.nat 2
  if group < radix then pure group else throw (fail (.digitGroup group))

/-- A number from its payload; `fail` makes the error of a malformed part. -/
def read (fail : BadScalar → Error) : Reader Numeric := do
  let count ← Reader.nat 2
  let weight ← Reader.i16
  let negative ← readSign fail
  let scale ← Reader.u16
  let groups ← Reader.list (readGroup fail) count
  pure ⟨negative, weight, scale, groups⟩

/-- An integer from its payload. -/
def readInteger (fail : BadScalar → Error) : Reader Int := do
  let n ← read fail
  if n.scale != 0 then throw (fail (.scale n.scale))
  match n.integer? with
  | some value => pure value
  | none => throw (fail .fractionalGroups)

/-- A decimal from its payload. -/
def readDecimal (fail : BadScalar → Error) : Reader Decimal := do
  let n ← read fail
  match n.mantissa? with
  | some mantissa => pure ⟨mantissa, n.scale⟩
  | none => throw (fail .beyondScale)

end Numeric

/-- The decimal of a literal, or the error that quotes it. -/
def Decimal.ofText (text : String) : Except Error Decimal :=
  match Decimal.parse? text with
  | some d => .ok d
  | none => .error (.codecMismatch ⟨"decimal", []⟩ (.notDecimal text))

end QueryWire
