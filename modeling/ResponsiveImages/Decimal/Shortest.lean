import ResponsiveImages.Decimal.Binary64

/-!
The shortest decimal that reads back as a given number of the format binary64. Of two decimals of
that length the nearer is taken.
-/
namespace ResponsiveImages.Decimal

/-- The number `digits * 10 ^ exponent`. -/
structure Scientific where
  digits : Nat
  exponent : Int
  deriving DecidableEq, Repr

namespace Scientific

/-- The nearest magnitude of the format, if there is one. -/
def magnitude? (s : Scientific) : Option Magnitude :=
  Magnitude.ofDecimal? s.digits s.exponent

/-- Trailing zeros moved into the exponent, at most `steps` of them. -/
def dropZeros (s : Scientific) : Nat → Scientific
  | 0 => s
  | steps + 1 =>
    if s.digits % 10 = 0 then dropZeros ⟨s.digits / 10, s.exponent + 1⟩ steps else s

end Scientific

namespace Magnitude

/-- The number of decimal digits of a whole number. -/
def digitCount (n : Nat) : Nat := (Nat.toDigits 10 n).length

/-- The exponent of the leading decimal digit. -/
def leadingExponent (m : Magnitude) : Int :=
  if unitsPerOne ≤ m.units then (digitCount (m.units / unitsPerOne) : Int) - 1
  else
    let places := digitCount (unitsPerOne / m.units)
    if m.units * Nat.pow 10 (places - 1) = unitsPerOne then 1 - (places : Int) else -(places : Int)

/-- The magnitude in steps of `10 ^ exponent`, as a quotient. -/
def inSteps (m : Magnitude) (exponent : Int) : Nat × Nat :=
  if 0 ≤ exponent then (m.units, unitsPerOne * Nat.pow 10 exponent.toNat)
  else (m.units * Nat.pow 10 (-exponent).toNat, unitsPerOne)

/-- The nearest decimal with that exponent among the two neighbours that read back. -/
def onGrid? (m : Magnitude) (tie : Tie) (exponent : Int) : Option Scientific :=
  let (num, den) := m.inSteps exponent
  let below : Scientific := ⟨num / den, exponent⟩
  let above : Scientific := ⟨num / den + 1, exponent⟩
  match below.magnitude? == some m, above.magnitude? == some m with
  | true, true => some ⟨divideToNearest tie num den, exponent⟩
  | true, false => some below
  | false, true => some above
  | false, false => none

/-- The exact value, which reads back whatever it is. -/
def exact (m : Magnitude) : Scientific :=
  ⟨m.units * Nat.pow 5 1074, -1074⟩

/-- The fewest digits that read back. Seventeen always do. -/
def shortest (m : Magnitude) (tie : Tie) : Scientific :=
  let leading := m.leadingExponent
  match (List.range 17).findSome? fun (more : Nat) => m.onGrid? tie (leading - (more : Int)) with
  | some found => found.dropZeros 17
  | none => m.exact

end Magnitude

end ResponsiveImages.Decimal
