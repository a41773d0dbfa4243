import ResponsiveImages.Decimal.Shortest

/-!
The two ways in which numbers are written: with an exponent when they are very large or very small,
and in positions throughout. Both write the shortest digits and show at least one decimal place.
-/
namespace ResponsiveImages.Decimal

/-- How the shortest digits are laid out. -/
inductive Notation where
  /-- Positions for leading exponents from -5 to 15, otherwise one digit, a point and an exponent
  with its sign. -/
  | data
  /-- Positions for every number. -/
  | positional
  deriving DecidableEq, Repr

/-- What decides between two decimals of the shortest length that are equally near. -/
def Notation.tie : Notation → Tie
  | data => .even
  | positional => .up

/-- The digits with the point behind the first `before` of them, and zeros where digits are missing.
A whole number has one decimal place. -/
def placePoint (digits : List Char) (before : Int) : List Char :=
  if before ≤ 0 then
    ['0', '.'] ++ List.replicate (-before).toNat '0' ++ digits
  else if digits.length ≤ before.toNat then
    digits ++ List.replicate (before.toNat - digits.length) '0' ++ ['.', '0']
  else digits.take before.toNat ++ ['.'] ++ digits.drop before.toNat

/-- One digit, the others behind a point, and the exponent with its sign. -/
def withExponent (digits : List Char) (exponent : Int) : List Char :=
  let mantissa :=
    match digits with
    | [] => []
    | [digit] => [digit]
    | digit :: more => digit :: '.' :: more
  let sign := if exponent < 0 then '-' else '+'
  mantissa ++ ['e', sign] ++ Nat.toDigits 10 exponent.natAbs

/-- The text of a magnitude. -/
def Magnitude.text (layout : Notation) (m : Magnitude) : List Char :=
  if m.significand = 0 then ['0', '.', '0']
  else
    let shortest := m.shortest layout.tie
    let digits := Nat.toDigits 10 shortest.digits
    let before := (digits.length : Int) + shortest.exponent
    let inPositions := layout == .positional || (-5 ≤ before - 1 && before - 1 ≤ 15)
    if inPositions then placePoint digits before else withExponent digits (before - 1)

/-- The text of a number. A negative zero keeps its sign. -/
def Double.text (layout : Notation) (x : Double) : String :=
  String.ofList ((if x.negative then ['-'] else []) ++ x.magnitude.text layout)

end ResponsiveImages.Decimal
