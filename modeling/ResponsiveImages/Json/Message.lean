import ResponsiveImages.Image
import ResponsiveImages.Json.Failure

/-!
The wording of faults and mismatches.
-/
namespace ResponsiveImages

/-- One sentence for every cause, without a place. -/
def Mismatch.message : Mismatch → String
  | kind found expected => "invalid type: " ++ found.text ++ ", expected " ++ expected.text
  | range value => "invalid value: integer `" ++ toString value ++ "`, expected u8"
  | key name =>
    "unknown variant `" ++ name ++ "`, expected one of `jpeg`, `png`, `webp`, `avif`"
  | format name => unknownFormatMessage name
  | length count =>
    "invalid length " ++ toString count ++ ", expected fewer elements in array"

namespace Json.Fault

def message : Fault → String
  | endInValue => "EOF while parsing a value"
  | endInString => "EOF while parsing a string"
  | endInList => "EOF while parsing a list"
  | endInObject => "EOF while parsing an object"
  | expectedValue => "expected value"
  | expectedColon => "expected `:`"
  | expectedListComma => "expected `,` or `]`"
  | expectedObjectComma => "expected `,` or `\x7d`"
  | expectedWord => "expected ident"
  | invalidNumber => "invalid number"
  | numberOutOfRange => "number out of range"
  | invalidEscape => "invalid escape"
  | loneSurrogate => "lone leading surrogate in hex escape"
  | unfinishedSurrogate => "unexpected end of hex escape"
  | controlCharacter => "control character (\\u0000-\\u001F) found while parsing a string"
  | keyNotString => "key must be a string"
  | trailingComma => "trailing comma"
  | trailingText => "trailing characters"
  | tooDeep => "recursion limit exceeded"
  | mismatch cause => cause.message

end Json.Fault

end ResponsiveImages
