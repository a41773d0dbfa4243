import ResponsiveImages.Toml.Scalar
import ResponsiveImages.Toml.Table

/-!
Whole TOML documents. A text that is no document has no value; why it is none is not told.
-/
namespace ResponsiveImages.Toml

open Reader

/-- The items of an array, with gaps around them. A comma may follow the last one. -/
def arrayItems (item : Reader Value) : Reader (List Value) := do
  char '['
  let spaced : Reader Value := do
    gap
    let value ← item
    gap
    return value
  let items ← attempt do
    let items ← separated spaced (char ',')
    let _ ← attempt (char ',')
    return items
  gap
  char ']'
  return items.getD []

/-- A key with its value, up to the end of the value. -/
def pair (value : Reader Value) : Reader Pair := do
  let parts ← dottedKey
  char '='
  blanks
  let value ← value
  match parts.reverse with
  | [] => fail
  | key :: path => return ⟨path.reverse, key, value⟩

/-- The entries of a table on one line. No comma may follow the last one. -/
def inlineEntries (value : Reader Value) : Reader Entries := do
  char '\x7b'
  let spaced : Reader Pair := do
    let read ← pair value
    blanks
    return read
  let pairs ← attempt (separated spaced (char ','))
  blanks
  char '\x7d'
  match Entries.addPairs [] (pairs.getD []) with
  | some entries => return entries
  | none => fail

/-- A value, given a reader for what stands inside brackets. -/
def valueWith (nested? : Option (Reader Value)) : Reader Value := do
  match ← next? with
  | some '"' | some '\'' => return .string (← string)
  | some '[' =>
    match nested? with
    | some nested => return .array (← arrayItems nested)
    | none => fail
  | some '\x7b' =>
    match nested? with
    | some nested => return .table (closeEntries (← inlineEntries nested))
    | none => fail
  | some 't' | some 'f' => return .boolean (← boolean)
  | some 'i' | some 'n' => return .float (← specialFloat)
  | _ =>
    (do return .dateTime (← dateTime)) <|> (do return .float (← float))
      <|> (do return .integer (← integer))

/-- A value with at most that many brackets open at once. -/
def value : Nat → Reader Value
  | 0 => valueWith none
  | depth + 1 => valueWith (some (value depth))

/-- A key with its value on a line of its own. -/
def pairLine : Reader Pair := do
  let read ← pair (value (maximalDepth - 1))
  lineEnd
  return read

/-- A line without content. -/
def emptyLine : Reader Unit :=
  newline <|> (do comment; newline <|> endOfText)

/-- The pairs of a section. -/
def pairs : Reader (List Pair) := do
  blanks
  let lines ← many do
    let line ← (do return [← pairLine]) <|> (do emptyLine; return [])
    blanks
    return line
  return lines.flatten

/-- A key in brackets that begins a section. -/
def header : Reader Header := do
  let row ← attempt (literal ['[', '['])
  let parts ← if row.isSome then pure () *> dottedKey else char '[' *> dottedKey
  if row.isSome then literal [']', ']'] else char ']'
  lineEnd
  match parts.reverse with
  | [] => fail
  | key :: path =>
    if row.isSome then return .row path.reverse key else return .table path.reverse key

/-- A header and the pairs under it. -/
def headedSection : Reader Section := do
  let head ← header
  return ⟨head, ← pairs⟩

/-- The pairs in front of the first header, and the sections. A byte order mark may come first. -/
def statements : Reader (List Pair × List Section) := do
  let _ ← attempt (char '\ufeff')
  let leading ← pairs
  let sections ← many headedSection
  endOfText
  return (leading, sections)

/-- The entries of a document, in the order in which they were written. -/
def parse (text : String) : Option (List (String × Value)) := do
  let ((leading, sections), _) ← statements text.toList
  let root ← Entries.addPairs [] leading
  let root ← sections.foldlM Entries.addSection root
  some (closeEntries root)

end ResponsiveImages.Toml
