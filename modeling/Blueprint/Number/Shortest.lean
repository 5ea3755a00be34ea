import Blueprint.Number.Binary64

/-!
# Shortest decimal text of a double

A double is written with the fewest digits that read back as it. The reals that read back as a
double form an interval around it (its ends belong to it if the significand is even), so the digits
sought are those of the point of that interval on the coarsest decimal grid that meets it, and of
several such points the one nearest to the double. Only the two neighbours of the double on each
grid need a look: if any point of a grid lies in the interval, one of the neighbours does.
-/

namespace Blueprint

namespace Shortest

/-- A decimal fraction `digits * 10 ^ exponent`. -/
structure Decimal where
  /-- The digits, as one number. -/
  digits : Nat
  /-- The power of ten of the last digit. -/
  exponent : Int
deriving DecidableEq, Repr

/-- A double on the decimal grid `10 ^ exponent`: it is `value / point` grid steps, and the next
double above it is `gap / point` grid steps away. -/
structure Grid where
  /-- The numerator of the double. -/
  value : Nat
  /-- The numerator of the distance to the next double above. -/
  gap : Nat
  /-- The common denominator. -/
  point : Nat

/-- The double `significand * 2 ^ scale` (in multiples of the least positive double) on the grid
`10 ^ exponent`. -/
def Grid.of (significand scale : Nat) : Int → Grid
  | .ofNat k =>
    ⟨significand * Nat.pow 2 scale, Nat.pow 2 scale, Binary64.unitsPerOne * Nat.pow 10 k⟩
  | .negSucc k =>
    let finer := Nat.pow 10 (k + 1)
    ⟨significand * Nat.pow 2 scale * finer, Nat.pow 2 scale * finer, Binary64.unitsPerOne⟩

/-- Whether the grid point `n` reads back as the double. The interval reaches half a gap up and
half a gap down, or a quarter gap down where the doubles below are twice as dense; everything is
counted in quarter gaps. -/
def Grid.readsBack (g : Grid) (significand scale n : Nat) : Bool :=
  let candidate := 4 * n * g.point
  let upper := 4 * g.value + 2 * g.gap
  let lower := 4 * g.value - (if significand = Nat.pow 2 52 ∧ 0 < scale then g.gap else 2 * g.gap)
  if significand % 2 = 0 then lower ≤ candidate && candidate ≤ upper
  else lower < candidate && candidate < upper

/-- The grid point nearest to the double among its two neighbours that read back, an exact half
going to the even one. -/
def Grid.nearest? (g : Grid) (significand scale : Nat) : Option Nat :=
  let below := g.value / g.point
  let above := below + 1
  let fromBelow := g.value - below * g.point
  let fromAbove := above * g.point - g.value
  let preferBelow := fromBelow < fromAbove || (fromBelow = fromAbove && below % 2 = 0)
  match g.readsBack significand scale below, g.readsBack significand scale above with
  | true, true => if preferBelow then some below else some above
  | true, false => some below
  | false, true => some above
  | false, false => none

/-- The powers of ten that can be the last digit of a double, coarsest first. -/
def exponents : List Int :=
  (List.range 633).map fun (k : Nat) => 308 - (k : Int)

/-- The shortest decimal fraction that reads back as the double
`significand * 2 ^ scale * 2 ^ (-1074)`. Zero has the one digit zero. -/
def decimal (significand scale : Nat) : Decimal :=
  if significand = 0 then ⟨0, 0⟩
  else
    let found := exponents.findSome? fun e =>
      ((Grid.of significand scale e).nearest? significand scale).map (⟨·, e⟩)
    found.getD ⟨0, 0⟩

/-- How decimal fractions are laid out. -/
structure Layout where
  /-- The least power of ten of the leading digit that is written positionally. -/
  leastPositional : Int
  /-- The first power of ten of the leading digit that is no longer written positionally. -/
  firstScientific : Int
  /-- The least number of digits of a written exponent. -/
  exponentWidth : Nat

/-- Fractions from a ten-thousandth up to sixteen whole digits are written out, and exponents have
two digits or more. -/
def Layout.standard : Layout := ⟨-4, 16, 2⟩

/-- `n` zeros. -/
def zeros (n : Nat) : String := "".pushn '0' n

/-- An exponent with its sign, padded on the left with zeros. -/
def Layout.exponentText (layout : Layout) (e : Int) : String :=
  let digits := toString e.natAbs
  (if e < 0 then "-" else "+") ++ zeros (layout.exponentWidth - digits.length) ++ digits

/-- A decimal fraction as text. Whole numbers written positionally end in `.0`. -/
def Layout.render (layout : Layout) (d : Decimal) : String :=
  let digits := toString d.digits
  let leading : Int := digits.length - 1 + d.exponent
  if layout.leastPositional ≤ leading ∧ leading < layout.firstScientific then
    if 0 ≤ d.exponent then digits ++ zeros d.exponent.toNat ++ ".0"
    else if 0 ≤ leading then
      let whole := leading.toNat + 1
      String.ofList (digits.toList.take whole) ++ "." ++ String.ofList (digits.toList.drop whole)
    else "0." ++ zeros (-leading - 1).toNat ++ digits
  else
    let fraction := digits.toList.drop 1
    String.ofList (digits.toList.take 1)
      ++ (if fraction.isEmpty then "" else "." ++ String.ofList fraction)
      ++ "e" ++ layout.exponentText leading

end Shortest

open Shortest in
/-- The text of a double: the fewest digits that read back, laid out in the standard way. -/
def Binary64.text : Binary64 → String
  | .nan _ => "nan"
  | .infinite negative => if negative then "-inf" else "inf"
  | .finite negative significand scale =>
    (if negative then "-" else "") ++ Layout.standard.render (decimal significand scale)

end Blueprint
