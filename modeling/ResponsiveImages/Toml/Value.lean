import ResponsiveImages.Decimal.Binary64

/-!
The values of a TOML document. Tables keep the order in which their keys were written.
-/
namespace ResponsiveImages.Toml

/-- A number with a point or an exponent, or one of the values beyond all numbers. -/
inductive Float where
  | finite (value : Decimal.Double)
  | infinite (negative : Bool)
  | notANumber
  deriving DecidableEq, Repr

structure Date where
  year : Nat
  month : Nat
  day : Nat
  deriving DecidableEq, Repr

structure Time where
  hour : Nat
  minute : Nat
  second : Nat
  nanosecond : Nat
  deriving DecidableEq, Repr

/-- The distance from universal time. -/
inductive Offset where
  | universal
  | minutes (negative : Bool) (count : Nat)
  deriving DecidableEq, Repr

/-- At least one of date and time is there, and an offset only with both. -/
structure DateTime where
  date : Option Date
  time : Option Time
  offset : Option Offset
  deriving DecidableEq, Repr

inductive Value where
  | string (value : String)
  | integer (value : Int)
  | float (value : Float)
  | boolean (value : Bool)
  | dateTime (value : DateTime)
  | array (items : List Value)
  | table (entries : List (String × Value))

/-- The decimal digits of a number, with zeros in front up to a width. -/
def padded (width n : Nat) : String :=
  let digits := Nat.toDigits 10 n
  String.ofList (List.replicate (width - digits.length) '0' ++ digits)

def Date.text (date : Date) : String :=
  padded 4 date.year ++ "-" ++ padded 2 date.month ++ "-" ++ padded 2 date.day

/-- Zeros at the end of a fraction are not written. -/
def Time.text (time : Time) : String :=
  let fraction :=
    if time.nanosecond = 0 then ""
    else
      let digits := (padded 9 time.nanosecond).toList
      "." ++ String.ofList (digits.reverse.dropWhile (· == '0')).reverse
  padded 2 time.hour ++ ":" ++ padded 2 time.minute ++ ":" ++ padded 2 time.second ++ fraction

def Offset.text : Offset → String
  | universal => "Z"
  | minutes negative count =>
    (if negative then "-" else "+") ++ padded 2 (count / 60) ++ ":" ++ padded 2 (count % 60)

/-- Date and time with a letter between them. -/
def DateTime.text (value : DateTime) : String :=
  let date := (value.date.map Date.text).getD ""
  let time := (value.time.map Time.text).getD ""
  let between := if value.date.isSome && value.time.isSome then "T" else ""
  date ++ between ++ time ++ (value.offset.map Offset.text).getD ""

end ResponsiveImages.Toml
