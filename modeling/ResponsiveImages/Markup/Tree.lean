import ResponsiveImages.Markup.Node

/-!
A tree built from left to right. Elements that are still open form a stack, the innermost first, and
the nodes of every list that is not finished stand with the latest first.
-/
namespace ResponsiveImages.Markup

structure Tree where
  /-- The finished nodes outside all open elements, the latest first. -/
  roots : List Node
  /-- The open elements, the innermost first, each with its children so far, the latest first. -/
  opened : List Element

namespace Tree

def empty : Tree := ⟨[], []⟩

/-- An element whose children are complete. -/
def finished (element : Element) : Node :=
  .element element.tag element.children.reverse

/-- A node behind the latest one. -/
def append (tree : Tree) (node : Node) : Tree :=
  match tree.opened with
  | [] => { tree with roots := node :: tree.roots }
  | innermost :: outer =>
    { tree with opened := ⟨innermost.tag, node :: innermost.children⟩ :: outer }

/-- Character data behind the latest node. It joins character data that stands there. -/
def joinText (content : String) : List Node → List Node
  | .text before :: nodes => .text (before ++ content) :: nodes
  | nodes => .text content :: nodes

/-- Character data behind the latest node. -/
def appendText (tree : Tree) (content : String) : Tree :=
  match tree.opened with
  | [] => { tree with roots := joinText content tree.roots }
  | innermost :: outer =>
    { tree with opened := ⟨innermost.tag, joinText content innermost.children⟩ :: outer }

/-- An element without children so far, open from now on. -/
def openTag (tree : Tree) (tag : Tag) : Tree :=
  { tree with opened := ⟨tag, []⟩ :: tree.opened }

/-- A tag that is closed by the given end tag. Its span ends with it. -/
def closedBy (raw : String) (stop : Nat) (tag : Tag) : Tag :=
  let ended := tag.editRaw fun tags => { tags with stop := some raw }
  { ended with span := tag.span.map fun span => { span with stop := stop } }

/-- Closes the innermost element of a name. Elements inside it that are still open end with it,
without an end tag; `pending` is the element that ended last. -/
def closeThrough (name raw : String) (stop : Nat) (roots pending : List Node) :
    List Element → Tree
  | [] => ⟨pending ++ roots, []⟩
  | innermost :: outer =>
    let element : Element := ⟨innermost.tag, pending ++ innermost.children⟩
    if element.tag.isNamed name then
      append ⟨roots, outer⟩ (finished { element with tag := closedBy raw stop element.tag })
    else closeThrough name raw stop roots [finished element] outer

/-- An end tag. If no open element has its name it is passed through. -/
def close (tree : Tree) (name raw : String) (stop : Nat) : Tree :=
  if tree.opened.any (·.tag.isNamed name) then
    closeThrough name raw stop tree.roots [] tree.opened
  else tree.append (.verbatim raw)

/-- The roots once every open element has ended, the latest first. -/
def finishFrom (roots pending : List Node) : List Element → List Node
  | [] => pending ++ roots
  | innermost :: outer =>
    finishFrom roots [finished ⟨innermost.tag, pending ++ innermost.children⟩] outer

/-- The nodes of the text. Elements that are still open end with it, without an end tag. -/
def finish (tree : Tree) : List Node :=
  (finishFrom tree.roots [] tree.opened).reverse

end Tree

end ResponsiveImages.Markup
