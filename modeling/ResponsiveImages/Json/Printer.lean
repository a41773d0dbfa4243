import ResponsiveImages.Json.Value
import ResponsiveImages.Decimal.Notation
import ResponsiveImages.Text.Quoted

/-!
The compact text of structured data: no blanks, members in their order, and in texts only the
quote, the backslash and control characters written as escapes.
-/
namespace ResponsiveImages.Json

/-- One character of a text between quotes. -/
def escapedChar (c : Char) : List Char :=
  if c = '"' then ['\\', '"']
  else if c = '\\' then ['\\', '\\']
  else if c = '\n' then ['\\', 'n']
  else if c = '\r' then ['\\', 'r']
  else if c = '\t' then ['\\', 't']
  else if c.toNat = 8 then ['\\', 'b']
  else if c.toNat = 12 then ['\\', 'f']
  else if c.toNat < 32 then
    ['\\', 'u', '0', '0', (c.toNat / 16).digitChar, (c.toNat % 16).digitChar]
  else [c]

/-- A text between quotes. -/
def stringChars (text : String) : List Char :=
  ['"'] ++ text.toList.flatMap escapedChar ++ ['"']

def numberChars : Number → List Char
  | .int value => (toString value).toList
  | .double value => (value.text .data).toList

mutual

/-- The compact text of a value. -/
def chars : Json → List Char
  | null => ['n', 'u', 'l', 'l']
  | bool true => ['t', 'r', 'u', 'e']
  | bool false => ['f', 'a', 'l', 's', 'e']
  | number value => numberChars value
  | string text => stringChars text
  | array items => '[' :: itemChars items
  | object members => '\x7b' :: memberChars members

/-- The items with commas between them, and the closing bracket. -/
def itemChars : List Json → List Char
  | [] => [']']
  | [item] => chars item ++ [']']
  | item :: next :: rest => chars item ++ ',' :: itemChars (next :: rest)

/-- The members with commas between them, and the closing brace. -/
def memberChars : List (String × Json) → List Char
  | [] => ['\x7d']
  | [(name, value)] => stringChars name ++ ':' :: (chars value ++ ['\x7d'])
  | (name, value) :: next :: rest =>
    stringChars name ++ ':' :: (chars value ++ ',' :: memberChars (next :: rest))

end

/-- The compact text of a value. -/
def text (value : Json) : String :=
  String.ofList value.chars

end ResponsiveImages.Json
