/-!
# Double-precision numbers

A finite double is a whole multiple of the least positive double `2 ^ (-1074)`. Every finite double
is therefore given exactly by a sign, a significand and a scale, and all questions about it (is it
equal to an integer, which double is nearest to a decimal fraction) are questions about natural
numbers. `Binary64.ofDecimal` reads a decimal fraction to the nearest double, an exact half going
to the even significand.

An undefined result is equal to no number, itself included. Where things are compared that hold it,
though, it matters whether it is one and the same undefined result on both sides, so each has a mark
of its own.
-/

namespace Blueprint

/-- A double-precision number. -/
inductive Binary64 where
  /-- An undefined result; `made` tells it from those made elsewhere. -/
  | nan (made : Nat := 0)
  /-- An infinity; `negative` is its sign. -/
  | infinite (negative : Bool)
  /-- The number `± significand * 2 ^ scale * 2 ^ (-1074)`. -/
  | finite (negative : Bool) (significand scale : Nat)
deriving DecidableEq, Repr

namespace Binary64

/-- How many multiples of the least positive double make up the number one. -/
def unitsPerOne : Nat := Nat.pow 2 1074

/-- The signed number of multiples of the least positive double in a finite double. -/
def units (negative : Bool) (significand scale : Nat) : Int :=
  if negative then -(significand * Nat.pow 2 scale : Nat) else (significand * Nat.pow 2 scale : Nat)

/-- `numerator / denominator` to the nearest integer, an exact half going to the even one. -/
def roundHalfEven (numerator denominator : Nat) : Nat :=
  let quotient := numerator / denominator
  let twice := 2 * (numerator % denominator)
  if twice < denominator then quotient
  else if denominator < twice then quotient + 1
  else quotient + quotient % 2

/-- The double nearest to `numerator / denominator` multiples of the least positive double. The
scale leaves 53 bits to the quotient; rounding up to `2 ^ 53` carries into the next scale, and a
scale beyond the range of the format gives an infinity. -/
def ofUnits (negative : Bool) (numerator denominator : Nat) : Binary64 :=
  let scale := (numerator / denominator).log2 - 52
  let rounded := roundHalfEven numerator (denominator * Nat.pow 2 scale)
  let (significand, scale) :=
    if rounded = Nat.pow 2 53 then (Nat.pow 2 52, scale + 1) else (rounded, scale)
  if 2045 < scale then infinite negative else finite negative significand scale

/-- The double nearest to `± digits * 10 ^ exponent`. A decimal fraction whose leading digit is far
beyond the range of the format is an infinity or a zero, and its power of ten is not computed. -/
def ofDecimal (negative : Bool) (digits : Nat) (exponent : Int) : Binary64 :=
  let leading : Int := (Nat.toDigits 10 digits).length + exponent
  if digits = 0 ∨ leading < -400 then finite negative 0 0
  else if 400 < leading then infinite negative
  else match exponent with
    | .ofNat k => ofUnits negative (digits * Nat.pow 10 k * unitsPerOne) 1
    | .negSucc k => ofUnits negative (digits * unitsPerOne) (Nat.pow 10 (k + 1))

end Binary64

end Blueprint
