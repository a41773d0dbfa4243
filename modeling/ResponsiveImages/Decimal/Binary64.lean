/-!
Finite numbers of the format binary64, kept as whole numbers, and the rounding of a quotient to the
nearest of them. All arithmetic is exact up to that one rounding.
-/
namespace ResponsiveImages.Decimal

/-- A magnitude of the format: `significand * 2 ^ scale` units of `2 ^ (-1074)`. -/
structure Magnitude where
  significand : Nat
  scale : Nat
  deriving DecidableEq, Repr

/-- A finite number of the format. There are two zeros. -/
structure Double where
  negative : Bool
  magnitude : Magnitude
  deriving DecidableEq, Repr

/-- The neighbour that a half goes to. -/
inductive Tie where
  | even
  | up
  deriving DecidableEq, Repr

/-- The neighbour of a whole number and a half. -/
def Tie.choose (tie : Tie) (below : Nat) : Nat :=
  match tie with
  | even => if below % 2 = 0 then below else below + 1
  | up => below + 1

/-- The quotient rounded to the nearest whole number. -/
def divideToNearest (tie : Tie) (num den : Nat) : Nat :=
  let quotient := num / den
  let rest := num % den
  if 2 * rest < den then quotient
  else if den < 2 * rest then quotient + 1
  else tie.choose quotient

namespace Magnitude

def zero : Magnitude := ⟨0, 0⟩

/-- How many units make one. -/
def unitsPerOne : Nat := Nat.pow 2 1074

/-- The magnitude in units. -/
def units (m : Magnitude) : Nat := m.significand * Nat.pow 2 m.scale

/-- The scale at which a quotient of that many whole units has 53 bits, or zero when it has fewer. -/
def scaleFor (wholeUnits : Nat) : Nat :=
  if wholeUnits < Nat.pow 2 53 then 0 else Nat.log2 wholeUnits - 52

/-- The magnitude nearest to a quotient, with an even significand in a tie. There is none when the
quotient is too large. -/
def ofRatio? (num den : Nat) : Option Magnitude :=
  let units := num * unitsPerOne
  let scale := scaleFor (units / den)
  let significand := divideToNearest .even units (den * Nat.pow 2 scale)
  let rounded : Magnitude :=
    if significand = Nat.pow 2 53 then ⟨Nat.pow 2 52, scale + 1⟩ else ⟨significand, scale⟩
  if rounded.scale ≤ 2045 then some rounded else none

/-- The magnitude nearest to `digits * 10 ^ exponent`. -/
def ofDecimal? (digits : Nat) (exponent : Int) : Option Magnitude :=
  if 0 ≤ exponent then ofRatio? (digits * Nat.pow 10 exponent.toNat) 1
  else ofRatio? digits (Nat.pow 10 (-exponent).toNat)

def multiply? (left right : Magnitude) : Option Magnitude :=
  ofRatio? (left.units * right.units) (unitsPerOne * unitsPerOne)

def divide? (left right : Magnitude) : Option Magnitude :=
  ofRatio? left.units right.units

/-- The magnitude nearest to a power of ten. Powers above the largest magnitude give that of one. -/
def tenTo (power : Nat) : Magnitude :=
  (ofDecimal? 1 power).getD ⟨Nat.pow 2 52, 1022⟩

/-- A magnitude divided by a power of ten in steps of at most 308 places, each step rounded. -/
def divideByTenTo (m : Magnitude) (power : Nat) : Magnitude :=
  if power ≤ 308 then (m.divide? (tenTo power)).getD m
  else if m.significand = 0 then m
  else divideByTenTo ((m.divide? (tenTo 308)).getD m) (power - 308)
termination_by power
decreasing_by omega

/-- A whole number times a power of ten, with one rounding for the number and one for each step of
the scaling. This is not always the nearest magnitude. There is none when it would be too large. -/
def scaled? (significand : Nat) (exponent : Int) : Option Magnitude :=
  (ofRatio? significand 1).bind fun m =>
    if exponent < 0 then some (m.divideByTenTo (-exponent).toNat)
    else if exponent ≤ 308 then m.multiply? (tenTo exponent.toNat)
    else if m.significand = 0 then some m
    else none

end Magnitude

end ResponsiveImages.Decimal
