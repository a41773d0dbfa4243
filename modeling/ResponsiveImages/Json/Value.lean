import ResponsiveImages.Decimal.Binary64

/-!
Structured data as the option objects of the loaders hold it. Members keep the order in which they
were first inserted, and a member's name occurs once in an object that was built by insertion.
-/
namespace ResponsiveImages

/-- A number is kept whole if it was written without a point or an exponent and fits in 64 bits. -/
inductive Number where
  | int (value : Int)
  | double (value : Decimal.Double)
  deriving DecidableEq, Repr

inductive Json where
  | null
  | bool (value : Bool)
  | number (value : Number)
  | string (value : String)
  | array (items : List Json)
  | object (members : List (String × Json))
  deriving Inhabited

/-- The members of an object, in their order. -/
abbrev Members := List (String × Json)

namespace Members

/-- The value of a name. -/
def get? (members : Members) (name : String) : Option Json :=
  members.lookup name

/-- A new name goes to the end; a known one keeps its place and takes the new value. -/
def insert (members : Members) (name : String) (value : Json) : Members :=
  match members with
  | [] => [(name, value)]
  | (known, old) :: rest =>
    if known == name then (known, value) :: rest else (known, old) :: insert rest name value

/-- Every member of the second list inserted into the first, one after the other. -/
def merge (base layer : Members) : Members :=
  layer.foldl (fun members member => members.insert member.1 member.2) base

/-- The members of a list inserted into an empty object: of two with one name the later value stays,
in the place of the earlier. -/
def ofList (members : List (String × Json)) : Members :=
  merge [] members

end Members

end ResponsiveImages
