import ResponsiveImages.Decimal.Notation
import ResponsiveImages.Directive.Payload
import ResponsiveImages.Json.Message
import ResponsiveImages.Json.Reader
import ResponsiveImages.Options
import ResponsiveImages.Text.LowerCase

/-!
The value of a directive attribute: flags as words of their own, and options with a payload. Every
payload is checked in a fixed order, and the first that is refused decides the error.
-/
namespace ResponsiveImages.Directive

/-- Why a directive is refused. -/
inductive Error where
  /-- A payload that does not read as a value for its key. The column counts the bytes read. -/
  | payload (key : Key) (fault : Json.Fault) (column : Nat)
  | quality (excess : QualityExcess)
  deriving DecidableEq, Repr

namespace Error

/-- A payload holds no line feed, so every place in it is on the first line. -/
def message : Error → String
  | payload key fault column =>
    "Invalid value for " ++ key.name ++ ": " ++ fault.message ++ " at line 1 column "
      ++ toString column
  | quality excess => excess.message

end Error

open Json (Reader Fault failBefore failAt)
open Json.Reader

/-- A value of another kind than expected. A scalar is read to its end before it is refused. -/
def refuse {α : Type} (expected : Expected) : Reader α
  | [] => failBefore .endInValue []
  | 'n' :: rest => do
    let (_, rest) ← word ['u', 'l', 'l'] rest
    failBefore (.mismatch (.kind .null expected)) rest
  | 't' :: rest => do
    let (_, rest) ← word ['r', 'u', 'e'] rest
    failBefore (.mismatch (.kind (.boolean true) expected)) rest
  | 'f' :: rest => do
    let (_, rest) ← word ['a', 'l', 's', 'e'] rest
    failBefore (.mismatch (.kind (.boolean false) expected)) rest
  | '"' :: rest => do
    let (read, rest) ← stringRest rest
    failBefore (.mismatch (.kind (.string read) expected)) rest
  | '[' :: rest => failBefore (.mismatch (.kind .sequence expected)) ('[' :: rest)
  | '\x7b' :: rest => failBefore (.mismatch (.kind .map expected)) ('\x7b' :: rest)
  | c :: rest =>
    if c = '-' || Text.isAsciiDigit c then do
      let (read, rest) ← number (c :: rest)
      match read with
      | .int value => failBefore (.mismatch (.kind (.integer value) expected)) rest
      | .double value => failBefore (.mismatch (.kind (.float (value.text .data)) expected)) rest
    else failAt .expectedValue (c :: rest)

/-- A text in quotes. -/
def string : Reader String := fun cs =>
  match skipSpace cs with
  | '"' :: rest => stringRest rest
  | cs => refuse .string cs

/-- A whole number from 0 to 255. -/
def byte : Reader Nat := fun cs =>
  match skipSpace cs with
  | [] => failBefore .endInValue []
  | c :: rest =>
    if c = '-' || Text.isAsciiDigit c then do
      let (read, rest) ← number (c :: rest)
      match read with
      | .int value =>
        if 0 ≤ value ∧ value ≤ 255 then .ok (value.toNat, rest)
        else failBefore (.mismatch (.range value)) rest
      | .double value => failBefore (.mismatch (.kind (.float (value.text .data)) .byte)) rest
    else refuse .byte (c :: rest)

/-- The format that a key of a quality table names. -/
def qualityKey : Reader Format := fun cs => do
  let (name, rest) ← stringRest cs
  match Format.ofName? name with
  | some format => .ok (format, rest)
  | none => failBefore (.mismatch (.key name)) rest

/-- What is left once the end of a list, or the comma behind an entry, was looked for. -/
def afterEntry (rest : List Char) : List Char :=
  match skipSpace rest with
  | ']' :: rest => rest
  | ',' :: rest => skipSpace rest
  | rest => rest

/-- An entry of a format list. An unknown name is noticed behind the end of the list or the comma
that follows it. -/
def formatEntry : Reader SourceFormat := fun cs => do
  let (name, rest) ← string cs
  match SourceFormat.ofName? name with
  | some entry => .ok (entry, rest)
  | none => failBefore (.mismatch (.format name)) (afterEntry rest)

/-- A list or an object behind its opening bracket, which the payload is known to begin with. -/
def behindBracket {α : Type} (reader : Reader α) : Reader α := fun cs =>
  reader (cs.drop 1)

def formatList : Reader (List SourceFormat) :=
  behindBracket (items formatEntry)

def stringList : Reader (List String) :=
  behindBracket (items string)

def qualityTable : Reader Quality := fun cs => do
  let (entries, rest) ← behindBracket (members qualityKey byte) cs
  .ok (Quality.ofList entries, rest)

/-- The object itself counts as one level of nesting. -/
def memberTable : Reader Members := fun cs => do
  let (entries, rest) ← behindBracket (members stringRest (value (maximalDepth - 1))) cs
  .ok (Members.ofList entries, rest)

/-- The value of a key, if the text has a payload for it. -/
def extract {α : Type} (key : Key) (reader : Reader α) (text : List Char) :
    Except Error (Option α) :=
  match payload? key text with
  | none => .ok none
  | some payload =>
    match readAll reader payload with
    | .ok read => .ok (some read)
    | .error failure =>
      .error (.payload key failure.fault (Text.byteLength payload - failure.left))

/-- A flag is set by its name as a word of the text, in any case. -/
def flag (name : String) (text : List Char) : Option Bool :=
  if (Text.words (Text.lower text)).contains (Text.lower name.toList) then some true else none

/-- The options that a directive value gives. -/
def parse (value : String) : Except Error Options := do
  let text := value.toList
  let quality ← extract .quality qualityTable text
  match quality with
  | some table => (table.validate).mapError Error.quality
  | none => .ok ()
  let imageFormats ← extract .imageFormats formatList text
  let sizes ← extract .sizes stringList text
  let srcsetMembers ← extract .imageSrcsetLoaderOptions memberTable text
  let resizeMembers ← extract .imageResizeLoaderOptions memberTable text
  return {
    compressOnly := flag "compressOnly" text
    onlyUseImg := flag "onlyUseImg" text
    noLazy := flag "noLazy" text
    imageFormats, sizes, quality, srcsetMembers, resizeMembers }

end ResponsiveImages.Directive
