import ResponsiveImages.Mismatch
import ResponsiveImages.Text.Utf8

/-!
Why the reading of a structured text stops, and where. The place is kept as the number of bytes not
yet read, so that no reader has to count what came before it.
-/
namespace ResponsiveImages.Json

inductive Fault where
  | endInValue
  | endInString
  | endInList
  | endInObject
  | expectedValue
  | expectedColon
  | expectedListComma
  | expectedObjectComma
  | expectedWord
  | invalidNumber
  | numberOutOfRange
  | invalidEscape
  | loneSurrogate
  | unfinishedSurrogate
  | controlCharacter
  | keyNotString
  | trailingComma
  | trailingText
  | tooDeep
  | mismatch (cause : Mismatch)
  deriving DecidableEq, Repr

/-- A fault, noticed when that many bytes were left. -/
structure Failure where
  fault : Fault
  left : Nat
  deriving DecidableEq, Repr

/-- A reader takes its value off the front of a text and gives back what follows. -/
abbrev Reader (α : Type) := List Char → Except Failure (α × List Char)

/-- A fault noticed in front of the given rest. -/
def failBefore {α : Type} (fault : Fault) (rest : List Char) : Except Failure α :=
  .error ⟨fault, Text.byteLength rest⟩

/-- A fault whose first byte begins the given text. That byte counts as read; at the end of the text
there is none to count. -/
def failAt {α : Type} (fault : Fault) (cs : List Char) : Except Failure α :=
  .error ⟨fault, Text.byteLength cs - 1⟩

end ResponsiveImages.Json
