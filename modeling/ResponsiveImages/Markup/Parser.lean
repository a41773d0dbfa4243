import ResponsiveImages.Markup.TagContent
import ResponsiveImages.Markup.Tree

/-!
Markup read into a tree. Nesting is never an error: an element may stay open, and an end tag that
closes nothing is passed through. A byte order mark in front of the markup belongs to no lexeme, and
positions of lexemes do not count it.
-/
namespace ResponsiveImages.Markup

open Text (byteLength splitBytes)

inductive ParseError where
  /-- No lexeme begins where one should. -/
  | lexical (position : Nat) (fault : LexicalFault)
  /-- The attributes of the tag at the position cannot be read. -/
  | attributes (position length : Nat) (fault : AttributeFault)
  /-- The text of a lexeme would begin or end inside a character. -/
  | insideCharacter
  deriving DecidableEq, Repr

namespace ParseError

/-- The wording. A cut inside a character has none. -/
def message : ParseError → String
  | lexical position fault =>
    "template parse error at byte " ++ toString position ++ ": " ++ fault.message
  | attributes position length fault =>
    "template parse error at byte " ++ toString position ++ ": " ++ fault.message length
  | insideCharacter => ""

end ParseError

/-- Where the parser is: the next byte as positions count, and the text from there on. The text is
that of the whole source, so behind a byte order mark it begins too early. -/
structure Cursor where
  position : Nat
  unread : List Char

/-- The tag of an element that begins at the position. Places inside the tag are counted from the
true start of its content. -/
def readTag (closing : Closing) (position contentStart : Nat) (span : Span) (raw : String)
    (content : List Char) : Except ParseError Tag :=
  match writtenAttributes content with
  | .error fault => .error (.attributes position (byteLength content) fault)
  | .ok written =>
    .ok {
      name := String.ofList (tagName content)
      attrs := written.map (·.toAttribute contentStart)
      closing
      span := some span
      raw := some ⟨raw, none⟩ }

/-- The tree after one more lexeme, which takes the given span and text. -/
def Tree.extend (tree : Tree) (token : Token) (markLength : Nat) (span : Span) (raw : String) :
    Except ParseError Tree :=
  let contentStart := markLength + span.start + 1
  match token with
  | .text => .ok (tree.appendText raw)
  | .verbatim => .ok (tree.append (.verbatim raw))
  | .endTag name => .ok (tree.close (String.ofList name) raw span.stop)
  | .selfClosingTag content => do
    let tag ← readTag .selfClosing span.start contentStart span raw content
    .ok (tree.append (.element tag []))
  | .startTag content =>
    if isVoidName (String.ofList (tagName content)) then do
      let tag ← readTag .void span.start contentStart span raw content
      .ok (tree.append (.element tag []))
    else do
      let tag ← readTag .endTag span.start contentStart span raw content
      .ok (tree.openTag tag)

/-- The tree after a list of lexemes, and the position behind them. The text of each is cut from the
source by its length. -/
def Tree.extendAll (markLength : Nat) (tree : Tree) (cursor : Cursor) :
    List Lexeme → Except ParseError (Tree × Nat)
  | [] => .ok (tree, cursor.position)
  | lexeme :: lexemes =>
    let length := byteLength lexeme.source
    match splitBytes length cursor.unread with
    | none => .error .insideCharacter
    | some (raw, unread) => do
      let span : Span := ⟨cursor.position, cursor.position + length⟩
      let tree ← tree.extend lexeme.token markLength span (String.ofList raw)
      tree.extendAll markLength ⟨span.stop, unread⟩ lexemes

/-- The text behind a byte order mark, and the length of the mark. -/
def behindMark : List Char → List Char × Nat
  | '\ufeff' :: rest => (rest, 3)
  | cs => (cs, 0)

/-- The nodes of a template. -/
def parse (source : String) : Except ParseError (List Node) := do
  let cs := source.toList
  let (text, markLength) := behindMark cs
  let (lexemes, error?) := Lexeme.scanAll text
  let (tree, position) ← Tree.empty.extendAll markLength ⟨0, cs⟩ lexemes
  match error? with
  | some error => .error (.lexical (position + error.offset) error.fault)
  | none => .ok tree.finish

end ResponsiveImages.Markup
