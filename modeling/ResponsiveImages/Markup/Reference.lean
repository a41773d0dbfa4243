import ResponsiveImages.Markup.NamedReference
import ResponsiveImages.Text.Character

/-!
Character references in attribute values. A value in which every ampersand begins a reference is
decoded as a whole. In any other value each ampersand that begins no reference stays as it is, and
the remaining references are still decoded.
-/
namespace ResponsiveImages.Markup

/-- The number that digits of a base write. There must be at least one, and nothing else. -/
def digitsValue? (base : Nat) (digits : List Char) : Option Nat :=
  if digits.isEmpty then none
  else digits.foldlM (fun value c =>
    match Text.hexValue? c with
    | some digit => if digit < base then some (base * value + digit) else none
    | none => none) 0

/-- The character with that code point, unless it is zero or no character. -/
def character? (code : Nat) : Option Char :=
  if code ≠ 0 ∧ code.isValidChar then some (Char.ofNat code) else none

/-- The character that the text between an ampersand and a semicolon refers to. -/
def reference? : List Char → Option Char
  | '#' :: 'x' :: digits => (digitsValue? 16 digits).bind character?
  | '#' :: digits => (digitsValue? 10 digits).bind character?
  | name => namedCharacter? (String.ofList name)

/-- Decodes a value in which every ampersand begins a reference. Inside a reference, `body` is what
was read of it. -/
def decodeFrom (body : Option (List Char)) : List Char → Option (List Char)
  | [] => if body.isNone then some [] else none
  | c :: rest =>
    match body with
    | none =>
      if c = '&' then decodeFrom (some []) rest else (decodeFrom none rest).map (c :: ·)
    | some name =>
      if c = ';' then
        (reference? name).bind fun decoded => (decodeFrom none rest).map (decoded :: ·)
      else if c = '&' then none
      else decodeFrom (some (name ++ [c])) rest

/-- A value in which every ampersand begins a reference. -/
def decode? (value : List Char) : Option (List Char) :=
  decodeFrom none value

/-- Behind an ampersand: the text up to the next semicolon decoded, and its length with the
semicolon. -/
def referenceAhead? (rest : List Char) : Option (List Char × Nat) :=
  let body := rest.takeWhile (· ≠ ';')
  if body.length < rest.length then
    (decode? ('&' :: body ++ [';'])).map (·, body.length + 1)
  else none

/-- Decodes the references that there are. The first `passed` characters belong to a reference that
was already decoded. -/
def decodeLeniently (passed : Nat) : List Char → List Char
  | [] => []
  | c :: rest =>
    match passed with
    | left + 1 => decodeLeniently left rest
    | 0 =>
      if c = '&' then
        match referenceAhead? rest with
        | some (decoded, length) => decoded ++ decodeLeniently length rest
        | none => c :: decodeLeniently 0 rest
      else c :: decodeLeniently 0 rest

/-- The text that an attribute value stands for. -/
def unescape (value : List Char) : List Char :=
  match decode? value with
  | some decoded => decoded
  | none => decodeLeniently 0 value

end ResponsiveImages.Markup
