import ResponsiveImages.Text.Quoted

/-!
What a reader of structured data says when a value is not of the kind that its place asks for.
-/
namespace ResponsiveImages

/-- What was found. A number that is not whole is kept as it is written in messages. -/
inductive Found where
  | null
  | boolean (value : Bool)
  | integer (value : Int)
  | float (text : String)
  | string (value : String)
  | sequence
  | map
  deriving DecidableEq, Repr

namespace Found

def text : Found → String
  | null => "null"
  | boolean value => "boolean `" ++ (if value then "true" else "false") ++ "`"
  | integer value => "integer `" ++ toString value ++ "`"
  | float text => "floating point `" ++ text ++ "`"
  | string value => "string " ++ Text.quoted value
  | sequence => "sequence"
  | map => "map"

end Found

/-- What the place asks for. -/
inductive Expected where
  | boolean
  | string
  | sequence
  | map
  | byte
  /-- A whole configuration. -/
  | configuration
  deriving DecidableEq, Repr

namespace Expected

def text : Expected → String
  | boolean => "a boolean"
  | string => "a string"
  | sequence => "a sequence"
  | map => "a map"
  | byte => "u8"
  | configuration => "struct ModernizeConfig"

end Expected

/-- Why a value is refused although it is well formed. -/
inductive Mismatch where
  /-- A value of another kind. -/
  | kind (found : Found) (expected : Expected)
  /-- A whole number outside the range of a byte. -/
  | range (value : Int)
  /-- A key of a quality table that names no format. -/
  | key (name : String)
  /-- An entry of a format list that names no format. -/
  | format (name : String)
  /-- A configuration in list form with too many entries. -/
  | length (count : Nat)
  deriving DecidableEq, Repr

end ResponsiveImages
