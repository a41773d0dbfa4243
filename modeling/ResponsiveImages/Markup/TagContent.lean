import ResponsiveImages.Markup.Reference
import ResponsiveImages.Markup.Node
import ResponsiveImages.Markup.Token

/-!
The inside of a start tag: a name, and attributes with or without a value. Blanks end a name and a
value without quotes; between attributes they may be missing.
-/
namespace ResponsiveImages.Markup

open Text (byteLength)

/-- Why a list of attributes cannot be read. -/
inductive AttributeFault where
  /-- Nothing follows an equals sign. -/
  | missingValue
  /-- A value that begins with this quote does not end with it. -/
  | missingQuote (quote : Char)
  deriving DecidableEq, Repr

/-- An attribute as written, with the place of its key and the end of its value, both counted in
bytes from the start of the tag's content. -/
structure WrittenAttribute where
  key : List Char
  value : List Char
  start : Nat
  stop : Nat
  deriving DecidableEq, Repr

namespace WrittenAttribute

/-- What follows a key at the given place: the value, the end of its span and the rest. An empty
value ends the span with the key. -/
def readValue (keyStop : Nat) (cs : List Char) :
    Except AttributeFault (List Char × Nat × List Char) :=
  match cs.dropWhile isMarkupSpace with
  | '=' :: behind =>
    let place := fun rest => keyStop + (byteLength cs - byteLength rest)
    match behind.dropWhile isMarkupSpace with
    | [] => .error .missingValue
    | c :: rest =>
      if c = '"' ∨ c = '\'' then
        let value := rest.takeWhile (· ≠ c)
        match rest.dropWhile (· ≠ c) with
        | [] => .error (.missingQuote c)
        | _ :: after => .ok (value, if value.isEmpty then keyStop else place after, after)
      else
        let inValue := fun c => !isMarkupSpace c
        let after := (c :: rest).dropWhile inValue
        .ok ((c :: rest).takeWhile inValue, place after, after)
  | rest => .ok ([], keyStop, rest)

/-- The attributes of a text that begins at the given place. The first character of a key may be any
character but a blank. Every attribute takes a character, so the length of the text is enough
fuel. -/
def readFrom : Nat → Nat → List Char → Except AttributeFault (List WrittenAttribute)
  | 0, _, _ => .ok []
  | fuel + 1, place, cs =>
    match cs.dropWhile isMarkupSpace with
    | [] => .ok []
    | c :: rest => do
      let inKey := fun c => c ≠ '=' && !isMarkupSpace c
      let key := c :: rest.takeWhile inKey
      let start := place + (byteLength cs - byteLength (c :: rest))
      let keyStop := start + byteLength key
      let (value, stop, after) ← readValue keyStop (rest.dropWhile inKey)
      let more ← readFrom fuel (place + (byteLength cs - byteLength after)) after
      .ok (⟨key, value, start, stop⟩ :: more)

/-- What a key binds an expression to, if it is a binding. -/
def boundName? (key : List Char) : Option (List Char) :=
  match key with
  | ':' :: name => if name.isEmpty then none else some name
  | _ =>
    let mark := ['v', '-', 'b', 'i', 'n', 'd', ':']
    if mark.isPrefixOf key then
      let name := key.drop mark.length
      if name.isEmpty then none else some name
    else none

/-- The attribute, when the content of its tag begins at the given position. -/
def toAttribute (position : Nat) (written : WrittenAttribute) : Attribute :=
  let value := String.ofList (unescape written.value)
  let span : Span := ⟨position + written.start, position + written.stop⟩
  match boundName? written.key with
  | some name => ⟨String.ofList name, .bound (.raw value), some span⟩
  | none => ⟨String.ofList written.key, .text value, some span⟩

end WrittenAttribute

/-- The characters before the first blank. There may be none. -/
def tagName (content : List Char) : List Char :=
  content.takeWhile (!isMarkupSpace ·)

/-- The attributes of a tag with that content. -/
def writtenAttributes (content : List Char) : Except AttributeFault (List WrittenAttribute) :=
  let name := tagName content
  WrittenAttribute.readFrom content.length (byteLength name) (content.drop name.length)

namespace AttributeFault

/-- The position is the length of the content of the tag. -/
def message (position : Nat) : AttributeFault → String
  | missingValue =>
    "position " ++ toString position ++ ": `=` must be followed by an attribute value"
  | missingQuote quote =>
    "position " ++ toString position ++ ": missing closing quote `" ++ String.singleton quote
      ++ "` in attribute value"

end AttributeFault

end ResponsiveImages.Markup
