import ResponsiveImages.Text.Character

/-!
Where a directive gives an option with a value: the key in any case, an equals sign between blanks,
and a payload in brackets. The payload runs to the last closing bracket of its line, so it may take
in the brackets of a later option.
-/
namespace ResponsiveImages.Directive

open Text (isBlank)

/-- The options that take a value. -/
inductive Key where
  | quality
  | imageFormats
  | sizes
  | imageSrcsetLoaderOptions
  | imageResizeLoaderOptions
  deriving DecidableEq, Repr

namespace Key

def name : Key → String
  | quality => "quality"
  | imageFormats => "imageFormats"
  | sizes => "sizes"
  | imageSrcsetLoaderOptions => "imageSrcsetLoaderOptions"
  | imageResizeLoaderOptions => "imageResizeLoaderOptions"

/-- Lists stand in square brackets. -/
def isList : Key → Bool
  | imageFormats | sizes => true
  | _ => false

def opening (key : Key) : Char :=
  if key.isList then '[' else '\x7b'

def closing (key : Key) : Char :=
  if key.isList then ']' else '\x7d'

end Key

/-- A character that stands for an ASCII letter when case does not matter. The long s counts as an
s, and the sign for kelvin as a k. -/
def isCaseOf (letter c : Char) : Bool :=
  c.toLower == letter.toLower
    || (letter.toLower == 's' && c == '\u017f')
    || (letter.toLower == 'k' && c == '\u212a')

/-- What follows a key at the start of a text. -/
def afterKey : List Char → List Char → Option (List Char)
  | [], cs => some cs
  | _ :: _, [] => none
  | letter :: letters, c :: cs => if isCaseOf letter c then afterKey letters cs else none

/-- A text up to and including the last occurrence of a character. -/
def throughLast (last : Char) : List Char → Option (List Char)
  | [] => none
  | c :: cs =>
    match throughLast last cs with
    | some taken => some (c :: taken)
    | none => if c = last then some [c] else none

/-- What follows the given character, if it comes next behind blanks. -/
def afterBlanks (expected : Char) (cs : List Char) : Option (List Char) :=
  match cs.dropWhile isBlank with
  | [] => none
  | c :: rest => if c = expected then some rest else none

/-- The payload of a key that begins the text. -/
def payloadAtStart? (key : Key) (cs : List Char) : Option (List Char) := do
  let rest ← afterKey key.name.toList cs
  let rest ← afterBlanks '=' rest
  let rest ← afterBlanks key.opening rest
  let inside ← throughLast key.closing (rest.takeWhile (· ≠ '\n'))
  some (key.opening :: inside)

/-- The payload at the first position that has one. An occurrence of the key without a closing
bracket on its line is passed over. -/
def payload? (key : Key) : List Char → Option (List Char)
  | [] => payloadAtStart? key []
  | c :: cs =>
    match payloadAtStart? key (c :: cs) with
    | some payload => some payload
    | none => payload? key cs

end ResponsiveImages.Directive
