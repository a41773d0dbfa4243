import ResponsiveImages.Json.Failure
import ResponsiveImages.Json.Value
import ResponsiveImages.Text.Character

/-!
Reading structured data from text. Blanks between tokens are the space and the three controls tab,
line feed and carriage return. A reader of an array or an object is built from a reader of its
entries, so that lists of one kind of value are read without a detour through general data.
-/
namespace ResponsiveImages.Json.Reader

open Text (isAsciiDigit hexValue? byteLength)

def isSpace (c : Char) : Bool :=
  c == ' ' || c == '\n' || c == '\t' || c == '\r'

def skipSpace (cs : List Char) : List Char :=
  cs.dropWhile isSpace

/-- The value of four hexadecimal digits. Four bytes are taken before they are looked at. -/
def hexEscape : Reader Nat := fun cs =>
  if byteLength cs < 4 then failBefore .endInString []
  else
    let bad : Except Failure (Nat × List Char) := .error ⟨.invalidEscape, byteLength cs - 4⟩
    match cs with
    | a :: b :: c :: d :: rest =>
      match hexValue? a, hexValue? b, hexValue? c, hexValue? d with
      | some a, some b, some c, some d => .ok (((a * 16 + b) * 16 + c) * 16 + d, rest)
      | _, _, _, _ => bad
    | _ => bad

/-- The given character, or the end of an escape that should have gone on. -/
def continueEscape (expected : Char) : Reader Unit
  | [] => failBefore .endInString []
  | c :: rest => if c = expected then .ok ((), rest) else failAt .unfinishedSurrogate (c :: rest)

/-- The character of an escape and the number of characters that it takes behind its `u`. A code
point above the first plane takes two escapes. -/
def unicodeEscape (cs : List Char) : Except Failure (Char × Nat) := do
  let (first, rest) ← hexEscape cs
  if 0xDC00 ≤ first && first ≤ 0xDFFF then failBefore .loneSurrogate rest
  else if first < 0xD800 || 0xDBFF < first then .ok (Char.ofNat first, 4)
  else
    let (_, rest) ← continueEscape '\\' rest
    let (_, rest) ← continueEscape 'u' rest
    let (second, rest) ← hexEscape rest
    if second < 0xDC00 || 0xDFFF < second then failBefore .loneSurrogate rest
    else .ok (Char.ofNat (0x10000 + (first - 0xD800) * 1024 + (second - 0xDC00)), 10)

/-- The character of an escape and the number of characters that it takes behind its backslash. -/
def escape : List Char → Except Failure (Char × Nat)
  | [] => failBefore .endInString []
  | '"' :: _ => .ok ('"', 1)
  | '\\' :: _ => .ok ('\\', 1)
  | '/' :: _ => .ok ('/', 1)
  | 'b' :: _ => .ok ('\x08', 1)
  | 'f' :: _ => .ok ('\x0c', 1)
  | 'n' :: _ => .ok ('\n', 1)
  | 'r' :: _ => .ok ('\r', 1)
  | 't' :: _ => .ok ('\t', 1)
  | 'u' :: rest => (unicodeEscape rest).map fun read => (read.1, read.2 + 1)
  | c :: rest => failAt .invalidEscape (c :: rest)

/-- The characters up to the closing quote, which is taken too. The first `passed` characters belong
to an escape that was already read. -/
def stringBody (passed : Nat) : Reader (List Char)
  | [] => failBefore .endInString []
  | c :: rest =>
    match passed with
    | left + 1 => stringBody left rest
    | 0 =>
      if c = '"' then .ok ([], rest)
      else if c = '\\' then do
        let (read, length) ← escape rest
        let (more, rest) ← stringBody length rest
        .ok (read :: more, rest)
      else if c.toNat < 32 then failBefore .controlCharacter rest
      else do
        let (more, rest) ← stringBody 0 rest
        .ok (c :: more, rest)

/-- The text behind an opening quote. -/
def stringRest : Reader String := fun cs => do
  let (read, rest) ← stringBody 0 cs
  .ok (String.ofList read, rest)

/-- Appends digits to a number for as long as it fits in 64 bits. -/
def appendDigits (value : Nat) : List Char → Nat × List Char
  | [] => (value, [])
  | c :: rest =>
    let next := value * 10 + (c.toNat - '0'.toNat)
    if isAsciiDigit c && next < Nat.pow 2 64 then appendDigits next rest else (value, c :: rest)

/-- The number `significand * 10 ^ exponent` with its sign. -/
def scaledNumber (negative : Bool) (significand : Nat) (exponent : Int) : Reader Number :=
  fun rest =>
    match Decimal.Magnitude.scaled? significand exponent with
    | some magnitude => .ok (.double ⟨negative, magnitude⟩, rest)
    | none => failBefore .numberOutOfRange rest

/-- The digits of an exponent appended to its value. Above 31 bits the exponent decides the number
alone: it is zero, or too large. -/
def exponentDigits (negative : Bool) (significand : Nat) (base : Int) (below : Bool)
    (value : Nat) : Reader Number
  | [] => scaledNumber negative significand (if below then base - value else base + value) []
  | c :: rest =>
    if isAsciiDigit c then
      let next := value * 10 + (c.toNat - '0'.toNat)
      if next < Nat.pow 2 31 then exponentDigits negative significand base below next rest
      else if significand ≠ 0 && !below then failBefore .numberOutOfRange rest
      else .ok (.double ⟨negative, .zero⟩, rest.dropWhile isAsciiDigit)
    else
      scaledNumber negative significand (if below then base - value else base + value) (c :: rest)

/-- An exponent, behind its letter. -/
def exponent (negative : Bool) (significand : Nat) (base : Int) : Reader Number := fun cs =>
  let (below, digits) :=
    match cs with
    | '+' :: rest => (false, rest)
    | '-' :: rest => (true, rest)
    | _ => (false, cs)
  match digits with
  | [] => failBefore .endInValue []
  | c :: rest =>
    if isAsciiDigit c then
      exponentDigits negative significand base below (c.toNat - '0'.toNat) rest
    else failAt .invalidNumber (c :: rest)

/-- An exponent if there is one, and else the end of the number. -/
def optionalExponent (negative : Bool) (significand : Nat) (base : Int) : Reader Number
  | 'e' :: rest => exponent negative significand base rest
  | 'E' :: rest => exponent negative significand base rest
  | rest => scaledNumber negative significand base rest

/-- The decimal places, behind the point. Places that no longer fit in 64 bits are passed over. -/
def fraction (negative : Bool) (significand : Nat) (base : Int) : Reader Number := fun cs =>
  let (value, rest) := appendDigits significand cs
  let places := cs.length - rest.length
  let scaledBase := base - places
  match rest with
  | [] =>
    if places = 0 then failBefore .endInValue []
    else scaledNumber negative value scaledBase []
  | c :: more =>
    if isAsciiDigit c then
      optionalExponent negative value scaledBase (more.dropWhile isAsciiDigit)
    else if places = 0 then failAt .invalidNumber (c :: more)
    else optionalExponent negative value scaledBase (c :: more)

/-- The number of a whole part that fits in 64 bits. A negative zero, and a negative number below
the 64-bit integers, are not whole. -/
def wholeNumber (negative : Bool) (significand : Nat) : Number :=
  if !negative then .int significand
  else if 0 < significand && significand ≤ Nat.pow 2 63 then .int (-significand)
  else .double ⟨true, (Decimal.Magnitude.ofRatio? significand 1).getD .zero⟩

/-- What follows a whole part that fits in 64 bits. -/
def afterWhole (negative : Bool) (significand : Nat) : Reader Number
  | '.' :: rest => fraction negative significand 0 rest
  | 'e' :: rest => exponent negative significand 0 rest
  | 'E' :: rest => exponent negative significand 0 rest
  | rest => .ok (wholeNumber negative significand, rest)

/-- A whole part that does not fit: the digits behind its first 64 bits only count as places. -/
def longWhole (negative : Bool) (significand : Nat) : Reader Number := fun cs =>
  let places : Int := (cs.takeWhile isAsciiDigit).length
  match cs.dropWhile isAsciiDigit with
  | '.' :: rest => fraction negative significand places rest
  | rest => optionalExponent negative significand places rest

/-- A number, behind its sign. -/
def unsignedNumber (negative : Bool) : Reader Number
  | [] => failBefore .endInValue []
  | '0' :: rest =>
    match rest with
    | c :: _ => if isAsciiDigit c then failAt .invalidNumber rest else afterWhole negative 0 rest
    | [] => afterWhole negative 0 []
  | c :: rest =>
    if isAsciiDigit c then
      match appendDigits (c.toNat - '0'.toNat) rest with
      | (significand, []) => afterWhole negative significand []
      | (significand, next :: more) =>
        if isAsciiDigit next then longWhole negative significand (next :: more)
        else afterWhole negative significand (next :: more)
    else failAt .invalidNumber (c :: rest)

/-- A number with its sign. The first character is known to be a digit or a minus sign. -/
def number : Reader Number
  | '-' :: rest => unsignedNumber true rest
  | rest => unsignedNumber false rest

/-- The remaining letters of a word whose first letter was taken. -/
def word : List Char → Reader Unit
  | [], cs => .ok ((), cs)
  | _ :: _, [] => failBefore .endInValue []
  | expected :: more, c :: rest =>
    if c = expected then word more rest else failAt .expectedWord (c :: rest)

/-- The entries up to the closing bracket, which is taken too. They are read in order, and the first
fault ends the reading. Every round takes a character, so the length of the text is enough fuel. -/
def entriesFrom {α : Type} (closing : Char) (unclosed uncommaed : Fault) (entry : Reader α) :
    Nat → Bool → Reader (List α)
  | 0, _, cs => failBefore unclosed cs
  | fuel + 1, first, cs =>
    let readEntry : Reader (List α) := fun cs => do
      let (read, rest) ← entry cs
      let (more, rest) ← entriesFrom closing unclosed uncommaed entry fuel false rest
      .ok (read :: more, rest)
    match skipSpace cs with
    | [] => failBefore unclosed []
    | c :: rest =>
      if c = closing then .ok ([], rest)
      else if first then readEntry (c :: rest)
      else if c = ',' then
        match skipSpace rest with
        | [] => failBefore .endInValue []
        | next :: rest =>
          if next = closing then failAt .trailingComma (next :: rest) else readEntry (next :: rest)
      else failAt uncommaed (c :: rest)

/-- The items of an array, behind its opening bracket. -/
def items {α : Type} (item : Reader α) : Reader (List α) := fun cs =>
  entriesFrom ']' .endInList .expectedListComma item (cs.length + 1) true cs

/-- The colon behind a key. -/
def colon : Reader Unit := fun cs =>
  match skipSpace cs with
  | [] => failBefore .endInObject []
  | c :: rest => if c = ':' then .ok ((), rest) else failAt .expectedColon (c :: rest)

/-- A key and its value. The key is read behind its opening quote and may be refused before the
value is looked at. -/
def member {κ α : Type} (key : Reader κ) (value : Reader α) : Reader (κ × α)
  | '"' :: rest => do
    let (name, rest) ← key rest
    let (_, rest) ← colon rest
    let (read, rest) ← value rest
    .ok ((name, read), rest)
  | cs => failAt .keyNotString cs

/-- The members of an object, behind its opening brace. -/
def members {κ α : Type} (key : Reader κ) (value : Reader α) : Reader (List (κ × α)) := fun cs =>
  entriesFrom '\x7d' .endInObject .expectedObjectComma (member key value) (cs.length + 1) true cs

/-- Any value, given a reader for what stands inside brackets. Without one, brackets are too deep. -/
def valueWith (nested? : Option (Reader Json)) : Reader Json := fun cs =>
  match skipSpace cs with
  | [] => failBefore .endInValue []
  | 'n' :: rest => do
    let (_, rest) ← word ['u', 'l', 'l'] rest
    .ok (.null, rest)
  | 't' :: rest => do
    let (_, rest) ← word ['r', 'u', 'e'] rest
    .ok (.bool true, rest)
  | 'f' :: rest => do
    let (_, rest) ← word ['a', 'l', 's', 'e'] rest
    .ok (.bool false, rest)
  | '"' :: rest => do
    let (read, rest) ← stringRest rest
    .ok (.string read, rest)
  | '[' :: rest =>
    match nested? with
    | none => failAt .tooDeep ('[' :: rest)
    | some nested => do
      let (read, rest) ← items nested rest
      .ok (.array read, rest)
  | '\x7b' :: rest =>
    match nested? with
    | none => failAt .tooDeep ('\x7b' :: rest)
    | some nested => do
      let (read, rest) ← members stringRest nested rest
      .ok (.object (Members.ofList read), rest)
  | c :: rest =>
    if c = '-' || isAsciiDigit c then do
      let (read, rest) ← number (c :: rest)
      .ok (.number read, rest)
    else failAt .expectedValue (c :: rest)

/-- Any value, with at most that many brackets open at once. Of two members with one name the later
value counts. -/
def value : Nat → Reader Json
  | 0 => valueWith none
  | depth + 1 => valueWith (some (value depth))

/-- The depth of nesting that is accepted in an option object. -/
def maximalDepth : Nat := 127

/-- A whole text, with nothing but blanks behind the value. -/
def readAll {α : Type} (reader : Reader α) (cs : List Char) : Except Failure α := do
  let (read, rest) ← reader cs
  match skipSpace rest with
  | [] => .ok read
  | rest => failAt .trailingText rest

end ResponsiveImages.Json.Reader

namespace ResponsiveImages.Json

/-- The value that a whole text writes, if it is one with at most that many brackets open at once. -/
def ofText? (depth : Nat) (text : String) : Option Json :=
  (Reader.readAll (Reader.value depth) text.toList).toOption

end ResponsiveImages.Json
