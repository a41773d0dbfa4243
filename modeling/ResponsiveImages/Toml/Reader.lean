import ResponsiveImages.Text.Character

/-!
Readers of TOML text: blanks, comments, line ends, strings and keys. A reader that fails takes
nothing. Repetition is bounded by the characters that are left, since every round takes one.
-/
namespace ResponsiveImages.Toml

/-- A reader takes its value off the front of the text. -/
abbrev Reader (α : Type) := StateT (List Char) Option α

namespace Reader

def fail {α : Type} : Reader α := fun _ => none

/-- The next character, which is not taken. -/
def next? : Reader (Option Char) := fun cs => some (cs.head?, cs)

/-- A character that satisfies the condition. -/
def satisfy (condition : Char → Bool) : Reader Char
  | [] => none
  | c :: cs => if condition c then some (c, cs) else none

def char (expected : Char) : Reader Unit := do
  let _ ← satisfy (· == expected)

/-- The characters up to the first that does not satisfy the condition. -/
def takeWhile (condition : Char → Bool) : Reader (List Char) := fun cs =>
  some (cs.takeWhile condition, cs.dropWhile condition)

/-- Exactly these characters. -/
def literal (expected : List Char) : Reader Unit := fun cs =>
  if expected.isPrefixOf cs then some ((), cs.drop expected.length) else none

/-- The reader's value, or nothing taken. -/
def attempt {α : Type} (reader : Reader α) : Reader (Option α) := fun cs =>
  match reader cs with
  | some (value, rest) => some (some value, rest)
  | none => some (none, cs)

/-- The end of the text. -/
def endOfText : Reader Unit
  | [] => some ((), [])
  | _ :: _ => none

/-- The reader's values until it fails, at most as many as there is fuel. -/
def repeatUpTo {α : Type} (reader : Reader α) : Nat → Reader (List α)
  | 0 => pure []
  | fuel + 1 => do
    match ← attempt reader with
    | none => pure []
    | some value => return value :: (← repeatUpTo reader fuel)

/-- The values of a reader that takes at least one character each time. -/
def many {α : Type} (reader : Reader α) : Reader (List α) := fun cs =>
  repeatUpTo reader cs.length cs

/-- One value, or several with a separator between them. -/
def separated {α : Type} (reader : Reader α) (separator : Reader Unit) : Reader (List α) := do
  let first ← reader
  let more ← many do
    separator
    reader
  return first :: more

end Reader

open Reader

def isBlank (c : Char) : Bool := c == ' ' || c == '\t'

def blanks : Reader Unit := do
  let _ ← takeWhile isBlank

/-- Any character but the controls; the tab is none of them. -/
def isVisible (c : Char) : Bool :=
  c == '\t' || (32 ≤ c.toNat && c.toNat ≠ 127)

/-- A line feed, with or without a carriage return in front of it. -/
def newline : Reader Unit :=
  literal ['\n'] <|> literal ['\r', '\n']

def comment : Reader Unit := do
  char '#'
  let _ ← takeWhile isVisible

/-- What may follow a complete statement up to the end of its line. -/
def lineEnd : Reader Unit := do
  blanks
  let _ ← attempt comment
  newline <|> endOfText

/-- One step over blanks, comments and line ends. -/
def gapPart : Reader Unit :=
  (do let _ ← satisfy isBlank) <|> newline <|> (do comment; newline)

/-- Blanks, comments and line ends, as many as there are. -/
def gap : Reader Unit := do
  let _ ← many gapPart

/-- The character of that number of hexadecimal digits. -/
def codePoint (width : Nat) : Reader Char := do
  let digits ← (List.replicate width ()).mapM fun _ => satisfy (Text.hexValue? · |>.isSome)
  let code := digits.foldl (fun code c => 16 * code + (Text.hexValue? c).getD 0) 0
  if code.isValidChar then return Char.ofNat code else fail

/-- A character behind a backslash. -/
def escaped : Reader Char := do
  char '\\'
  match ← satisfy fun _ => true with
  | 'b' => return '\x08'
  | 't' => return '\t'
  | 'n' => return '\n'
  | 'f' => return '\x0c'
  | 'r' => return '\r'
  | '"' => return '"'
  | '\\' => return '\\'
  | 'u' => codePoint 4
  | 'U' => codePoint 8
  | _ => fail

/-- A character of a string that stands for itself. -/
def plain (quote : Char) : Reader Char :=
  satisfy fun c => isVisible c && c != quote

/-- A string in double quotes on one line. -/
def basicString : Reader (List Char) := do
  char '"'
  let content ← many ((satisfy fun c => isVisible c && c != '"' && c != '\\') <|> escaped)
  char '"'
  return content

/-- A string in single quotes on one line. Nothing in it is an escape. -/
def literalString : Reader (List Char) := do
  char '\''
  let content ← many (plain '\'')
  char '\''
  return content

/-- A backslash at the end of a line, with all blanks and line ends that follow. -/
def lineContinuation : Reader (List Char) := do
  char '\\'
  blanks
  newline
  let _ ← many ((do let _ ← satisfy isBlank) <|> newline)
  return []

/-- One or two quotes that do not end a string of several lines. -/
def innerQuotes (quote : Char) : Reader (List Char) := do
  let quotes ← takeWhile (· == quote)
  if quotes.length = 1 || quotes.length = 2 then return quotes else fail

/-- The three quotes that end a string of several lines, and up to two more that belong to it. -/
def endQuotes (quote : Char) : Reader (List Char) := fun cs =>
  let count := (cs.takeWhile (· == quote)).length
  if count < 3 then none
  else
    let inside := min (count - 3) 2
    some (List.replicate inside quote, cs.drop (inside + 3))

/-- A string of several lines whose parts are read by the given reader. A line end right behind the
opening quotes does not count, and every other one is a line feed. -/
def linesString (quote : Char) (part : Reader (List Char)) : Reader (List Char) := do
  literal [quote, quote, quote]
  let _ ← attempt newline
  let lineFeed : Reader (List Char) := do
    newline
    return ['\n']
  let content ← many (part <|> lineFeed <|> innerQuotes quote)
  let last ← endQuotes quote
  return content.flatten ++ last

/-- A part of a string of several lines in double quotes. -/
def basicPart : Reader (List Char) :=
  (do return [← satisfy fun c => isVisible c && c != '"' && c != '\\'])
    <|> (do return [← escaped]) <|> lineContinuation

/-- A part of a string of several lines in single quotes. -/
def literalPart : Reader (List Char) := do
  return [← plain '\'']

def string : Reader String := do
  let content ←
    linesString '"' basicPart <|> basicString <|> linesString '\'' literalPart <|> literalString
  return String.ofList content

def isKeyChar (c : Char) : Bool :=
  c.isAlphanum || c == '_' || c == '-'

/-- A key without dots. -/
def simpleKey : Reader String := do
  match ← next? with
  | some '"' => return String.ofList (← basicString)
  | some '\'' => return String.ofList (← literalString)
  | _ =>
    let key ← takeWhile isKeyChar
    if key.isEmpty then fail else return String.ofList key

/-- Keys and brackets may be nested below this depth only. -/
def maximalDepth : Nat := 80

/-- The parts of a key, with blanks around them. -/
def dottedKey : Reader (List String) := do
  let part : Reader String := do
    blanks
    let key ← simpleKey
    blanks
    return key
  let parts ← separated part (char '.')
  if parts.length < maximalDepth then return parts else fail

end ResponsiveImages.Toml
