import ResponsiveImages.Imports
import ResponsiveImages.Text.Character

/-!
Markup as a tree. An element that was read keeps the text of its tags for as long as its attributes
stay as they were read, so that it can be written back unchanged.
-/
namespace ResponsiveImages.Markup

/-- A range of byte positions, the end not included. -/
structure Span where
  start : Nat
  stop : Nat
  deriving DecidableEq, Repr

/-- The value of a bound attribute. -/
inductive Expression where
  /-- Script text that is passed through. -/
  | raw (text : String)
  /-- An imported module. -/
  | module (target : ImportRef)
  /-- The default export of an imported module. -/
  | moduleDefault (target : ImportRef)
  deriving DecidableEq, Repr

inductive Value where
  | text (value : String)
  | bound (expression : Expression)
  deriving DecidableEq, Repr

namespace Value

/-- The text of a static value. -/
def text? : Value → Option String
  | text value => some value
  | bound _ => none

def isStatic : Value → Bool
  | text _ => true
  | bound _ => false

end Value

structure Attribute where
  name : String
  value : Value
  span : Option Span
  deriving DecidableEq, Repr

namespace Attribute

def isStatic (attr : Attribute) : Bool := attr.value.isStatic

/-- A static attribute of that name. -/
def isStaticNamed (name : String) (attr : Attribute) : Bool :=
  attr.isStatic && attr.name == name

theorem isStaticNamed_iff (name : String) (attr : Attribute) :
    attr.isStaticNamed name = true ↔ attr.isStatic = true ∧ attr.name = name := by
  simp [isStaticNamed]

end Attribute

/-- How the end of an element is written. -/
inductive Closing where
  /-- With an end tag. -/
  | endTag
  /-- With a slash in the start tag. -/
  | selfClosing
  /-- Not at all. -/
  | void
  deriving DecidableEq, Repr

/-- The text of an element's tags as they were read. An element that was never closed has no end. -/
structure RawTags where
  start : String
  stop : Option String
  deriving DecidableEq, Repr

/-- An element without its children. -/
structure Tag where
  name : String
  attrs : List Attribute
  closing : Closing
  span : Option Span
  raw : Option RawTags
  deriving DecidableEq, Repr

inductive Node where
  | element (tag : Tag) (children : List Node)
  /-- Character data as written, references included. -/
  | text (content : String)
  /-- Markup that is passed through: comments, declarations, and end tags that close nothing. -/
  | verbatim (content : String)
  deriving Inhabited

structure Element where
  tag : Tag
  children : List Node

def Element.toNode (element : Element) : Node :=
  .element element.tag element.children

namespace Tag

/-- A tag without attributes, closed by an end tag. -/
def named (name : String) : Tag :=
  ⟨name, [], .endTag, none, none⟩

/-- Tag names are compared without regard to ASCII case. -/
def isNamed (tag : Tag) (name : String) : Bool :=
  Text.equalIgnoringCase tag.name name

/-- A tag has only one name. -/
theorem isNamed_eq_false {tag : Tag} {name other : String} (h : tag.isNamed name = true)
    (hOther : Text.equalIgnoringCase name other = false) : tag.isNamed other = false := by
  simp only [isNamed, Text.equalIgnoringCase, beq_iff_eq, beq_eq_false_iff_ne] at h hOther ⊢
  rwa [h]

/-- The first attribute of exactly that name. -/
def attr? (tag : Tag) (name : String) : Option Attribute :=
  tag.attrs.find? (·.name == name)

/-- The place of the first attribute of exactly that name. -/
def attrIndex? (tag : Tag) (name : String) : Option Nat :=
  tag.attrs.findIdx? (·.name == name)

def hasAttr (tag : Tag) (name : String) : Bool :=
  (tag.attr? name).isSome

/-- The text of the first attribute of that name, if that one is static. -/
def text? (tag : Tag) (name : String) : Option String :=
  (tag.attr? name).bind (·.value.text?)

/-- An attribute at the end. The text of the tags no longer holds. -/
def push (tag : Tag) (attr : Attribute) : Tag :=
  { tag with attrs := tag.attrs ++ [attr], raw := none }

/-- A new value at a place. Behind the last attribute nothing changes. -/
def setValueAt (tag : Tag) (index : Nat) (value : Value) : Tag :=
  if index < tag.attrs.length then
    { tag with
      attrs := tag.attrs.modify index fun attr => { attr with value := value }
      raw := none }
  else tag

/-- The attributes that satisfy the condition. If these are all, nothing changes. -/
def keep (tag : Tag) (condition : Attribute → Bool) : Tag :=
  let kept := tag.attrs.filter condition
  if kept.length = tag.attrs.length then tag
  else { tag with attrs := kept, raw := none }

/-- Exactly the attributes that satisfy the condition are left, whether any was dropped or not. -/
@[simp] theorem keep_attrs (tag : Tag) (condition : Attribute → Bool) :
    (tag.keep condition).attrs = tag.attrs.filter condition := by
  simp only [keep]
  split
  · rename_i hLength
    exact (List.filter_eq_self.mpr (List.length_filter_eq_length_iff.mp hLength)).symm
  · rfl

@[simp] theorem push_name (tag : Tag) (attr : Attribute) : (tag.push attr).name = tag.name := rfl

@[simp] theorem setValueAt_name (tag : Tag) (index : Nat) (value : Value) :
    (tag.setValueAt index value).name = tag.name := by
  unfold setValueAt
  split <;> rfl

@[simp] theorem keep_name (tag : Tag) (condition : Attribute → Bool) :
    (tag.keep condition).name = tag.name := by
  simp only [keep]
  split <;> rfl

/-- The text of the tags as it was read. -/
def setRaw (tag : Tag) (raw : RawTags) : Tag :=
  { tag with raw := some raw }

/-- A change to the text of the tags, if there is one. -/
def editRaw (tag : Tag) (edit : RawTags → RawTags) : Tag :=
  { tag with raw := tag.raw.map edit }

end Tag

/-- The elements that never have children or an end tag. -/
def voidNames : List String :=
  ["area", "base", "br", "col", "embed", "hr", "img", "input", "link", "meta", "source", "track",
    "wbr"]

def isVoidName (name : String) : Bool :=
  voidNames.any fun known => Text.equalIgnoringCase known name

end ResponsiveImages.Markup
