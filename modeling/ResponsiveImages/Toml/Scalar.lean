import ResponsiveImages.Decimal.Shortest
import ResponsiveImages.Toml.Reader
import ResponsiveImages.Toml.Value

/-!
Numbers, truth values, dates and times of TOML text.
-/
namespace ResponsiveImages.Toml

open Reader
open Text (isAsciiDigit decimalValue hexValue?)

/-- Digits that satisfy the condition, with single underscores between them, which are dropped. -/
def underscored (isDigit : Char → Bool) : Reader (List Char) := do
  let first ← satisfy isDigit
  let more ← many (satisfy isDigit <|> do
    char '_'
    satisfy isDigit)
  return first :: more

def sign : Reader Bool := do
  match ← attempt (satisfy fun c => c == '+' || c == '-') with
  | some c => return c == '-'
  | none => return false

/-- A sign and decimal digits. Only zero itself begins with a zero. -/
def decimalDigits : Reader (Bool × List Char) := do
  let negative ← sign
  match ← next? with
  | some '0' => do
    char '0'
    return (negative, ['0'])
  | _ => return (negative, ← underscored isAsciiDigit)

/-- A whole number of 64 bits. -/
def inRange (value : Int) : Reader Int :=
  let bound : Int := Nat.pow 2 63
  if -bound ≤ value ∧ value < bound then return value else fail

/-- Digits of a base that is a power of two, behind its mark. -/
def based (mark : Char) (base : Nat) : Reader Int := do
  char '0'
  char mark
  let digits ← underscored fun c => (hexValue? c).any (· < base)
  inRange (digits.foldl (fun value c => base * value + (hexValue? c).getD 0) 0 : Nat)

def integer : Reader Int :=
  based 'x' 16 <|> based 'o' 8 <|> based 'b' 2 <|> do
    let (negative, digits) ← decimalDigits
    let value : Int := decimalValue digits
    inRange (if negative then -value else value)

/-- The nearest number to digits with an exponent. Very large and very small exponents are decided
by the place of the leading digit alone. -/
def nearest? (digits : List Char) (exponent : Int) : Option Decimal.Magnitude :=
  let value := decimalValue digits
  let leading := (Decimal.Magnitude.digitCount value : Int) + exponent
  if value = 0 || leading < -400 then some .zero
  else if 400 < leading then none
  else Decimal.Magnitude.ofDecimal? value exponent

/-- A number with decimal places, an exponent, or both. One that is too large is refused, unless it
is negative. -/
def decimalFloat : Reader Float := do
  let (negative, whole) ← decimalDigits
  let places ← attempt do
    char '.'
    underscored isAsciiDigit
  let exponent ← attempt do
    let _ ← satisfy fun c => c == 'e' || c == 'E'
    let below ← sign
    let digits ← underscored isAsciiDigit
    let value : Int := decimalValue digits
    return if below then -value else value
  if places.isNone && exponent.isNone then fail
  else
    let places := places.getD []
    match nearest? (whole ++ places) (exponent.getD 0 - places.length) with
    | some magnitude => return .finite ⟨negative, magnitude⟩
    | none => if negative then return .infinite true else fail

/-- The words for the values beyond all numbers. -/
def specialFloat : Reader Float := do
  let negative ← sign
  (do literal ['i', 'n', 'f']; return .infinite negative)
    <|> (do literal ['n', 'a', 'n']; return .notANumber)

def float : Reader Float := decimalFloat <|> specialFloat

def boolean : Reader Bool :=
  (do literal ['t', 'r', 'u', 'e']; return true)
    <|> (do literal ['f', 'a', 'l', 's', 'e']; return false)

/-- A number of that many digits within a range. -/
def digitsBetween (width low high : Nat) : Reader Nat := do
  let digits ← (List.replicate width ()).mapM fun _ => satisfy isAsciiDigit
  let value := decimalValue digits
  if low ≤ value && value ≤ high then return value else fail

def isLeapYear (year : Nat) : Bool :=
  year % 4 == 0 && (year % 100 != 0 || year % 400 == 0)

def daysInMonth (year : Nat) : Nat → Nat
  | 2 => if isLeapYear year then 29 else 28
  | 4 | 6 | 9 | 11 => 30
  | _ => 31

def date : Reader Date := do
  let year ← digitsBetween 4 0 9999
  char '-'
  let month ← digitsBetween 2 1 12
  char '-'
  let day ← digitsBetween 2 1 (daysInMonth year month)
  return ⟨year, month, day⟩

/-- The decimal places of a second. Those behind the ninth are dropped. -/
def nanoseconds : Reader Nat := do
  char '.'
  let digits ← takeWhile isAsciiDigit
  if digits.isEmpty then fail
  else
    let kept := digits.take 9
    return decimalValue (kept ++ List.replicate (9 - kept.length) '0')

/-- A minute may have a leap second. -/
def time : Reader Time := do
  let hour ← digitsBetween 2 0 23
  char ':'
  let minute ← digitsBetween 2 0 59
  char ':'
  let second ← digitsBetween 2 0 60
  let nanosecond ← attempt nanoseconds
  return ⟨hour, minute, second, nanosecond.getD 0⟩

def offset : Reader Offset :=
  (do
    let _ ← satisfy fun c => c == 'Z' || c == 'z'
    return .universal)
  <|> (do
    let c ← satisfy fun c => c == '+' || c == '-'
    let hours ← digitsBetween 2 0 23
    char ':'
    let minutes ← digitsBetween 2 0 59
    let count := 60 * hours + minutes
    return .minutes (c == '-' && count != 0) count)

def dateTime : Reader DateTime :=
  (do
    let date ← date
    let clock ← attempt do
      let _ ← satisfy fun c => c == 'T' || c == 't' || c == ' '
      let time ← time
      return (time, ← attempt offset)
    match clock with
    | some (time, offset) => return ⟨some date, some time, offset⟩
    | none => return ⟨some date, none, none⟩)
  <|> (do return ⟨none, some (← time), none⟩)

end ResponsiveImages.Toml
