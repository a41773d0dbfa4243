import ResponsiveImages.Decimal.Notation
import ResponsiveImages.Json.Value
import ResponsiveImages.Mismatch
import ResponsiveImages.Toml.Value

/-!
A document before its fields are given a meaning, whatever notation it was written in.
-/
namespace ResponsiveImages

inductive Datum where
  | null
  | boolean (value : Bool)
  | integer (value : Int)
  /-- A number that is not whole, if it is finite, and its text in messages. -/
  | float (value : Option Decimal.Double) (text : String)
  | string (value : String)
  | list (items : List Datum)
  | map (members : List (String × Datum))

namespace Datum

/-- What messages call it. -/
def found : Datum → Found
  | null => .null
  | boolean value => .boolean value
  | integer value => .integer value
  | float _ text => .float text
  | string value => .string value
  | list _ => .sequence
  | map _ => .map

mutual

/-- The data as a loader option holds it. What is beyond all numbers becomes null. -/
def toJson : Datum → Json
  | null => .null
  | boolean value => .bool value
  | integer value => .number (.int value)
  | float (some value) _ => .number (.double value)
  | float none _ => .null
  | string value => .string value
  | list items => .array (listToJson items)
  | map members => .object (membersToJson members)

def listToJson : List Datum → List Json
  | [] => []
  | item :: items => item.toJson :: listToJson items

def membersToJson : List (String × Datum) → Members
  | [] => []
  | (name, value) :: members => (name, value.toJson) :: membersToJson members

end

mutual

/-- The data of a JSON value. Numbers that are not whole are shown as JSON writes them. -/
def ofJson : Json → Datum
  | .null => null
  | .bool value => boolean value
  | .number (.int value) => integer value
  | .number (.double value) => float (some value) (value.text .data)
  | .string value => string value
  | .array items => list (listOfJson items)
  | .object members => map (membersOfJson members)

def listOfJson : List Json → List Datum
  | [] => []
  | item :: items => ofJson item :: listOfJson items

def membersOfJson : List (String × Json) → List (String × Datum)
  | [] => []
  | (name, value) :: members => (name, ofJson value) :: membersOfJson members

end

/-- The data of a TOML number. Finite ones are shown in positions throughout. -/
def ofFloat : Toml.Float → Datum
  | .finite value => float (some value) (value.text .positional)
  | .infinite negative => float none (if negative then "-inf" else "inf")
  | .notANumber => float none "NaN"

/-- The name of the one member that a date or a time is seen as. -/
def dateTimeName : String := "$__toml_private_datetime"

mutual

/-- The data of a TOML value. A date or a time is seen as a map with its text in it. -/
def ofToml : Toml.Value → Datum
  | .string value => string value
  | .integer value => integer value
  | .float value => ofFloat value
  | .boolean value => boolean value
  | .dateTime value => map [(dateTimeName, string value.text)]
  | .array items => list (listOfToml items)
  | .table entries => map (entriesOfToml entries)

def listOfToml : List Toml.Value → List Datum
  | [] => []
  | item :: items => ofToml item :: listOfToml items

def entriesOfToml : List (String × Toml.Value) → List (String × Datum)
  | [] => []
  | (name, value) :: entries => (name, ofToml value) :: entriesOfToml entries

end

end Datum

end ResponsiveImages
