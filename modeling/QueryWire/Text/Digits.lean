/-!
# Digits

Numbers as rows of digits.  Long numbers are cut in halves until the parts are short, in both
directions, so that there are few long divisions and multiplications.

* `Digits.blocks` — the digits of a number in any base, most significant first.
* `Digits.fixed` — a number in a given count of digits.
* `Digits.decimal` — the decimal digits of a number, as few as there can be.
* `Digits.value` — the number that decimal digits spell.
* **`Digits.value_eq`** — cutting the digits in halves makes no difference.
-/

namespace QueryWire

namespace Digits

/-- The last `2 ^ depth` digits of `n` in `base`, most significant first. -/
def halves (base : Nat) : (depth : Nat) → (n : Nat) → List Nat
  | 0, n => [n % base]
  | depth + 1, n =>
    let unit := base.pow (Nat.pow 2 depth)
    halves base depth (n / unit) ++ halves base depth (n % unit)

/-- The digits of `n` in `base`, most significant first; none for zero. -/
def blocks (base n : Nat) : List Nat :=
  (halves base ((n.log2 / base.log2).log2 + 1) n).dropWhile (· == 0)

/-- One digit, for bases up to sixteen. -/
def digit (d : Nat) : Char :=
  if d < 10 then Char.ofNat ('0'.toNat + d) else Char.ofNat ('a'.toNat + (d - 10))

/-- The last `width` digits of `n` in `base`, most significant first. -/
def fixed (base : Nat) : (width : Nat) → (n : Nat) → List Char
  | 0, _ => []
  | width + 1, n => digit (n / base.pow width % base) :: fixed base width n

/-- The decimal digits of `n` without leading zeros; none for zero. -/
def significant (n : Nat) : List Char :=
  ((blocks (Nat.pow 10 16) n).flatMap (fixed 10 16)).dropWhile (· == '0')

/-- The decimal digits of `n`: a single zero, or no leading zero. -/
def decimal (n : Nat) : List Char :=
  if n = 0 then ['0'] else significant n

/-- The hexadecimal digits of `n`: a single zero, or no leading zero. -/
def hexadecimal (n : Nat) : List Char :=
  if n = 0 then ['0'] else (blocks 16 n).map digit

/-- A number in decimal. -/
def decimalText (n : Nat) : String := String.ofList (decimal n)

/-- An integer in decimal, with a minus sign when it is negative. -/
def integerText (n : Int) : String :=
  if n < 0 then "-" ++ decimalText n.natAbs else decimalText n.natAbs

/-- The last `width` hexadecimal digits of a number. -/
def hexText (width n : Nat) : String := String.ofList (fixed 16 width n)

/-- Whether a character is one of the ten ASCII digits. -/
def isDigit (c : Char) : Bool := '0' ≤ c && c ≤ '9'

/-- The number that decimal digits spell when they follow the digits of `high`. -/
def valueFrom (high : Nat) (digits : List Char) : Nat :=
  digits.foldl (fun acc c => acc * 10 + (c.toNat - '0'.toNat)) high

/-- The number that decimal digits spell, the digits cut in halves `depth` times. -/
def valueOf : (depth : Nat) → (digits : List Char) → Nat
  | 0, digits => valueFrom 0 digits
  | depth + 1, digits =>
    let cut := digits.length - 16 * Nat.pow 2 depth
    let low := digits.drop cut
    valueOf depth (digits.take cut) * Nat.pow 10 low.length + valueOf depth low

/-- The number that decimal digits spell. -/
def value (digits : List Char) : Nat := valueOf (digits.length / 16).log2 digits

/-- Digits in front of others count as many powers of ten as there are others. -/
theorem valueFrom_eq (high : Nat) (digits : List Char) :
    valueFrom high digits = high * Nat.pow 10 digits.length + valueFrom 0 digits := by
  induction digits generalizing high with
  | nil => simp [valueFrom]
  | cons c rest ih =>
    simp only [valueFrom, List.foldl_cons, List.length_cons, Nat.pow_eq] at ih ⊢
    rw [ih, ih (0 * 10 + _), Nat.add_mul, Nat.mul_assoc, ← Nat.pow_succ', Nat.zero_mul, Nat.zero_add,
      Nat.add_assoc]

theorem valueFrom_append (high : Nat) (a b : List Char) :
    valueFrom high (a ++ b) = valueFrom (valueFrom high a) b :=
  List.foldl_append

/-- Cutting the digits in halves makes no difference. -/
theorem valueOf_eq (depth : Nat) (digits : List Char) : valueOf depth digits = valueFrom 0 digits := by
  induction depth generalizing digits with
  | zero => rfl
  | succ depth ih =>
    simp only [valueOf, ih]
    conv => rhs; rw [← List.take_append_drop (digits.length - 16 * Nat.pow 2 depth) digits]
    rw [valueFrom_append, valueFrom_eq (valueFrom 0 _)]

/-- The value of digits, one after the other. -/
theorem value_eq (digits : List Char) : value digits = valueFrom 0 digits :=
  valueOf_eq _ digits

/-- A number below `bound` in decimal digits, with at most a plus sign in front. -/
def unsigned? (bound : Nat) (text : List Char) : Option Nat :=
  let digits := match text with
    | '+' :: rest => rest
    | _ => text
  if digits.isEmpty || !digits.all isDigit then none
  else
    let n := value digits
    if n < bound then some n else none

end Digits

end QueryWire
