import ResponsiveImages.Markup.Script

/-!
Markup written from a tree. An element that still has the text of its tags is written with that
text, every other one from its name and attributes. Between the quotes of an attribute value, every
character that could end the value or begin a reference is written as a reference.
-/
namespace ResponsiveImages.Markup

/-- One character of an attribute value. -/
def escapedChar : Char → List Char
  | '<' => ['&', 'l', 't', ';']
  | '>' => ['&', 'g', 't', ';']
  | '&' => ['&', 'a', 'm', 'p', ';']
  | '"' => ['&', 'q', 'u', 'o', 't', ';']
  | '\'' => ['&', '#', '3', '9', ';']
  | c => [c]

/-- An attribute value as it is written between quotes of either kind. -/
def escape (value : String) : String :=
  String.ofList (value.toList.flatMap escapedChar)

/-- An attribute with the blank in front of it. A bound one begins with a colon. -/
def Attribute.write (style : ImportStyle) (attr : Attribute) : String :=
  match attr.value with
  | .text value => " " ++ attr.name ++ "=\"" ++ escape value ++ "\""
  | .bound expression =>
    " :" ++ attr.name ++ "=\"" ++ escape (expression.write style) ++ "\""

/-- What ends a start tag. -/
def Closing.startEnd : Closing → String
  | selfClosing => " />"
  | endTag | void => ">"

namespace Tag

/-- The start tag: as it was read, or from the name and the attributes. -/
def writeStart (style : ImportStyle) (tag : Tag) : String :=
  match tag.raw with
  | some raw => raw.start
  | none =>
    "<" ++ tag.name ++ String.join (tag.attrs.map (·.write style)) ++ tag.closing.startEnd

/-- The end tag, or nothing. -/
def writeEnd (tag : Tag) : String :=
  match tag.raw with
  | some raw => raw.stop.getD ""
  | none => if tag.closing = .endTag then "</" ++ tag.name ++ ">" else ""

end Tag

mutual

/-- The markup of a node. -/
def Node.write (style : ImportStyle) : Node → String
  | .text content => content
  | .verbatim content => content
  | .element tag children =>
    tag.writeStart style ++ writeAll style children ++ tag.writeEnd

/-- The markup of several nodes, one after the other. -/
def writeAll (style : ImportStyle) : List Node → String
  | [] => ""
  | node :: nodes => node.write style ++ writeAll style nodes

end

end ResponsiveImages.Markup
