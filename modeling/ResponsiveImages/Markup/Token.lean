import ResponsiveImages.Text.Utf8

/-!
Markup cut into lexemes. Every character belongs to exactly one lexeme, and the lexemes stand in the
order of the text. Only the space, the tab, the line feed and the carriage return count as blanks.
-/
namespace ResponsiveImages.Markup

/-- What a lexeme is. The content of a tag stands between its name brackets; the slash of a
self-closing tag is not part of it. -/
inductive Token where
  | startTag (content : List Char)
  | selfClosingTag (content : List Char)
  | endTag (name : List Char)
  | text
  | verbatim
  deriving DecidableEq, Repr

/-- A token with the text that it was read from. -/
structure Lexeme where
  token : Token
  source : List Char
  deriving DecidableEq, Repr

/-- Why no lexeme begins at a place. -/
inductive LexicalFault where
  | tagNotClosed
  | referenceNotClosed
  | instructionNotClosed
  | commentNotClosed
  | characterDataNotClosed
  | doctypeNotClosed
  | doctypeWithoutName
  | unknownMarkup
  deriving DecidableEq, Repr

/-- A fault and the number of bytes from the start of the lexeme to where it shows. -/
structure LexicalError where
  fault : LexicalFault
  offset : Nat
  deriving DecidableEq, Repr

def isMarkupSpace (c : Char) : Bool :=
  c == ' ' || c == '\t' || c == '\n' || c == '\r'

namespace Lexeme

/-- A text up to the first bracket that ends a tag, and what follows that bracket. Inside quotes a
bracket ends nothing; `quote` is the quote that is open. -/
def splitTag (quote : Option Char) : List Char → Option (List Char × List Char)
  | [] => none
  | c :: rest =>
    let after : Option Char :=
      match quote with
      | some opened => if c = opened then none else some opened
      | none => if c = '"' ∨ c = '\'' then some c else none
    if quote = none ∧ c = '>' then some ([], rest)
    else (splitTag after rest).map fun parts => (c :: parts.1, parts.2)

/-- A text up to the first occurrence of a mark, and what follows the mark. -/
def splitMark (mark : List Char) : List Char → Option (List Char × List Char)
  | [] => none
  | c :: rest =>
    if mark.isPrefixOf (c :: rest) then some ([], (c :: rest).drop mark.length)
    else (splitMark mark rest).map fun parts => (c :: parts.1, parts.2)

/-- A text up to the bracket that closes a declaration in which `depth` brackets are open, and what
follows it. -/
def splitBalanced (depth : Nat) : List Char → Option (List Char × List Char)
  | [] => none
  | c :: rest =>
    if c = '>' then
      match depth with
      | 0 => some ([], rest)
      | inner + 1 => (splitBalanced inner rest).map fun parts => (c :: parts.1, parts.2)
    else
      (splitBalanced (if c = '<' then depth + 1 else depth) rest).map
        fun parts => (c :: parts.1, parts.2)

/-- The first lexeme of a text and what follows it. -/
abbrev Scan := Except LexicalError (Lexeme × List Char)

def verbatimBetween (opening content closing rest : List Char) : Scan :=
  .ok (⟨.verbatim, opening ++ content ++ closing⟩, rest)

/-- Character data up to the next bracket or ampersand. -/
def scanText (cs : List Char) : Scan :=
  let inText := fun c => c ≠ '<' && c ≠ '&'
  .ok (⟨.text, cs.takeWhile inText⟩, cs.dropWhile inText)

/-- A reference, behind its ampersand. Its name is not looked at. -/
def scanReference (rest : List Char) : Scan :=
  let inName := fun c => c ≠ ';' && c ≠ '&' && c ≠ '<'
  match rest.dropWhile inName with
  | ';' :: after => .ok (⟨.text, '&' :: (rest.takeWhile inName ++ [';'])⟩, after)
  | _ => .error ⟨.referenceNotClosed, 0⟩

/-- A processing instruction, behind its question mark. The shortest one has a second mark. -/
def scanInstruction (rest : List Char) : Scan :=
  if rest.head? = some '>' then .error ⟨.instructionNotClosed, 0⟩
  else
    match splitMark ['?', '>'] rest with
    | some (content, after) => verbatimBetween ['<', '?'] content ['?', '>'] after
    | none => .error ⟨.instructionNotClosed, 0⟩

/-- A comment, behind its exclamation mark. -/
def scanComment (rest : List Char) : Scan :=
  match rest with
  | '-' :: '-' :: body =>
    match splitMark ['-', '-', '>'] body with
    | some (content, after) =>
      verbatimBetween ['<', '!', '-', '-'] content ['-', '-', '>'] after
    | none => .error ⟨.commentNotClosed, 0⟩
  | _ => .error ⟨.commentNotClosed, 0⟩

/-- The word that follows the bracket of a character data section. -/
def sectionWord : List Char := ['[', 'C', 'D', 'A', 'T', 'A', '[']

/-- A character data section, behind its exclamation mark. -/
def scanSection (rest : List Char) : Scan :=
  if sectionWord.isPrefixOf rest then
    match splitMark [']', ']', '>'] (rest.drop sectionWord.length) with
    | some (content, after) =>
      .ok (⟨.text, ['<', '!'] ++ sectionWord ++ content ++ [']', ']', '>']⟩, after)
    | none => .error ⟨.characterDataNotClosed, 0⟩
  else .error ⟨.characterDataNotClosed, 0⟩

/-- The word that begins a document type, in lower case. -/
def doctypeWord : List Char := ['d', 'o', 'c', 't', 'y', 'p', 'e']

/-- A document type, behind its exclamation mark. It must have more than blanks in it. -/
def scanDoctype (rest : List Char) : Scan :=
  let word := rest.take doctypeWord.length
  if word.map Char.toLower = doctypeWord then
    match splitBalanced 0 (rest.drop doctypeWord.length) with
    | some (content, after) =>
      if content.all isMarkupSpace then .error ⟨.doctypeWithoutName, 2 + Text.byteLength (word ++ content)⟩
      else verbatimBetween ['<', '!'] (word ++ content) ['>'] after
    | none => .error ⟨.doctypeNotClosed, 0⟩
  else .error ⟨.doctypeNotClosed, 0⟩

/-- The name in the content of an end tag. Blanks behind it do not belong to it, but blanks alone
are a name, which no element has. -/
def endTagName (content : List Char) : List Char :=
  match content.reverse.dropWhile isMarkupSpace with
  | [] => content
  | c :: cs => (c :: cs).reverse

/-- An end tag, behind its slash. -/
def scanEndTag (rest : List Char) : Scan :=
  match splitTag none rest with
  | some (content, after) =>
    .ok (⟨.endTag (endTagName content), ['<', '/'] ++ content ++ ['>']⟩, after)
  | none => .error ⟨.tagNotClosed, 0⟩

/-- A start tag, behind its bracket. -/
def scanStartTag (rest : List Char) : Scan :=
  match splitTag none rest with
  | some (content, after) =>
    let source := '<' :: (content ++ ['>'])
    if content.getLast? = some '/' then .ok (⟨.selfClosingTag content.dropLast, source⟩, after)
    else .ok (⟨.startTag content, source⟩, after)
  | none => .error ⟨.tagNotClosed, 0⟩

/-- The first lexeme of a text that is not empty. -/
def scan (cs : List Char) : Scan :=
  match cs with
  | '<' :: '?' :: rest => scanInstruction rest
  | '<' :: '!' :: rest =>
    match rest with
    | '-' :: _ => scanComment rest
    | '[' :: _ => scanSection rest
    | 'D' :: _ => scanDoctype rest
    | 'd' :: _ => scanDoctype rest
    | _ => .error ⟨.unknownMarkup, 0⟩
  | '<' :: '/' :: rest => scanEndTag rest
  | '<' :: rest => scanStartTag rest
  | '&' :: rest => scanReference rest
  | cs => scanText cs

/-- The lexemes of a text up to the first fault, and the fault. Every lexeme takes a character, so
the length of the text is enough fuel. -/
def scanFrom : Nat → List Char → List Lexeme × Option LexicalError
  | 0, _ => ([], none)
  | _ + 1, [] => ([], none)
  | fuel + 1, c :: cs =>
    match scan (c :: cs) with
    | .error error => ([], some error)
    | .ok (lexeme, rest) =>
      let (lexemes, error?) := scanFrom fuel rest
      (lexeme :: lexemes, error?)

/-- The lexemes of a text up to the first fault, and the fault. -/
def scanAll (cs : List Char) : List Lexeme × Option LexicalError :=
  scanFrom cs.length cs

end Lexeme

namespace LexicalFault

def message : LexicalFault → String
  | tagNotClosed => "syntax error: tag not closed: `>` not found before end of input"
  | referenceNotClosed =>
    "ill-formed document: entity or character reference not closed: `;` not found before end of input"
  | instructionNotClosed =>
    "syntax error: processing instruction or xml declaration not closed: `?>` not found before end of input"
  | commentNotClosed => "syntax error: comment not closed: `-->` not found before end of input"
  | characterDataNotClosed =>
    "syntax error: CDATA not closed: `]]>` not found before end of input"
  | doctypeNotClosed => "syntax error: DOCTYPE not closed: `>` not found before end of input"
  | doctypeWithoutName =>
    "ill-formed document: `<!DOCTYPE>` declaration does not contain a name of a document type"
  | unknownMarkup => "syntax error: unknown or missed symbol in markup"

end LexicalFault

end ResponsiveImages.Markup
