import ResponsiveImages.Proofs.Markup.Reading
import ResponsiveImages.Proofs.Markup.Rescanning
import ResponsiveImages.Proofs.Markup.WrittenTags

/-! Trees that are written from names, attributes and texts alone, and read again. Their markup
holds every lexeme that they were written as, and the lexemes nest as the elements do. What was never
read has no places and no tags as they were read, so nothing is said about these. -/
namespace ResponsiveImages.Markup

open Text (byteLength)

def Node.isText : Node → Bool
  | .text _ => true
  | _ => false

mutual

/-- The node can be told from its markup: names are names, every element ends as it should, and
character data is neither empty nor holds what begins another lexeme. -/
def Node.isWritable : Node → Bool
  | .element tag children =>
    decide tag.IsWritable && (tag.closing == .endTag || children.isEmpty) && writableAll children
  | .text content => content != "" && content.toList.all fun c => c != '<' && c != '&'
  | .verbatim _ => false

/-- The nodes can be told from their markup. Two texts side by side cannot. -/
def writableAll : List Node → Bool
  | [] => true
  | node :: nodes =>
    node.isWritable && writableAll nodes && !(node.isText && nodes.head?.any Node.isText)

end

mutual

/-- Every tag of a node changed in the same way. -/
def Node.mapTags (f : Tag → Tag) : Node → Node
  | .element tag children => .element (f tag) (mapTagsAll f children)
  | .text content => .text content
  | .verbatim content => .verbatim content

/-- Every tag of several nodes changed in the same way. -/
def mapTagsAll (f : Tag → Tag) : List Node → List Node
  | [] => []
  | node :: nodes => node.mapTags f :: mapTagsAll f nodes

end

@[simp] theorem Node.isText_mapTags (f : Tag → Tag) (node : Node) :
    (node.mapTags f).isText = node.isText := by
  cases node <;> simp [mapTags, isText]

theorem Node.isWritable_element {tag : Tag} {children : List Node} :
    (Node.element tag children).isWritable = true ↔
      tag.IsWritable ∧ (tag.closing ≠ .endTag → children = []) ∧ writableAll children = true := by
  simp [isWritable, and_assoc, Decidable.imp_iff_not_or]

theorem Node.isWritable_text {content : String} :
    (Node.text content).isWritable = true ↔
      content.toList ≠ [] ∧ ∀ c ∈ content.toList, c ≠ '<' ∧ c ≠ '&' := by
  simp [isWritable]

theorem writableAll_cons {node : Node} {nodes : List Node} :
    writableAll (node :: nodes) = true ↔ node.isWritable = true ∧ writableAll nodes = true ∧
      (node.isText = true → ∀ next ∈ nodes.head?, next.isText = false) := by
  simp only [writableAll, Bool.and_eq_true, and_assoc]
  cases nodes <;> simp [Decidable.imp_iff_not_or]

/-- The lexeme of the end tag, if there is one. -/
def Tag.stopLexemes (tag : Tag) : List Lexeme :=
  if tag.closing = .endTag then [⟨.endTag tag.name.toList, tag.writeEnd.toList⟩] else []

mutual

/-- The lexemes that a node is written as. -/
def Node.lexemes (style : ImportStyle) : Node → List Lexeme
  | .element tag children =>
    ⟨tag.startToken style, (tag.writeStart style).toList⟩ ::
      (lexemesAll style children ++ tag.stopLexemes)
  | .text content => [⟨.text, content.toList⟩]
  | .verbatim content => [⟨.verbatim, content.toList⟩]

/-- The lexemes that several nodes are written as. -/
def lexemesAll (style : ImportStyle) : List Node → List Lexeme
  | [] => []
  | node :: nodes => node.lexemes style ++ lexemesAll style nodes

end

theorem Node.write_element (style : ImportStyle) (tag : Tag) (children : List Node)
    (rest : List Char) :
    ((Node.element tag children).write style).toList ++ rest =
      (tag.writeStart style).toList ++
        ((writeAll style children).toList ++ (tag.writeEnd.toList ++ rest)) := by
  simp [write]

theorem Tag.endsText_writeEnd {tag : Tag} (hTag : tag.IsWritable) {rest : List Char}
    (hClosing : tag.closing = .endTag) : EndsText (tag.writeEnd.toList ++ rest) := by
  rw [toList_writeEnd hTag.raw hClosing]
  simp [EndsText]

/-- A tag begins where no text stands. -/
theorem endsText_writeAll (style : ImportStyle) {nodes : List Node} {rest : List Char}
    (hNodes : writableAll nodes = true) (hText : ∀ node ∈ nodes.head?, node.isText = false)
    (hRest : EndsText rest) : EndsText ((writeAll style nodes).toList ++ rest) := by
  match nodes with
  | [] => simpa [writeAll] using hRest
  | .text content :: nodes => simp [Node.isText] at hText
  | .verbatim content :: nodes => simp [writableAll, Node.isWritable] at hNodes
  | .element tag children :: nodes =>
      have hTag := (Node.isWritable_element.mp (writableAll_cons.mp hNodes).1).1
      rw [writeAll, String.toList_append, List.append_assoc, Node.write_element,
        Tag.toList_writeStart hTag.raw]
      simp [EndsText]

mutual

/-- The markup of a node holds the lexemes of the node, and then those of what follows it. -/
theorem Node.scanAll_write (style : ImportStyle) (node : Node) (rest : List Char)
    (hNode : node.isWritable = true) (hRest : node.isText = true → EndsText rest) :
    Lexeme.scanAll ((node.write style).toList ++ rest) =
      (node.lexemes style ++ (Lexeme.scanAll rest).1, (Lexeme.scanAll rest).2) := by
  match node with
  | .verbatim content => simp [Node.isWritable] at hNode
  | .text content =>
      obtain ⟨hSome, hChars⟩ := Node.isWritable_text.mp hNode
      exact Lexeme.scanAll_append hSome (Lexeme.scan_text hSome hChars (hRest rfl))
  | .element tag children =>
      obtain ⟨hTag, hClosing, hChildren⟩ := Node.isWritable_element.mp hNode
      have hStart : (tag.writeStart style).toList ≠ [] := by
        rw [Tag.toList_writeStart hTag.raw]
        exact List.cons_ne_nil _ _
      rw [Node.write_element, Lexeme.scanAll_append hStart (Tag.scan_writeStart hTag.isLegible style _),
        Node.lexemes]
      by_cases hEnd : tag.closing = .endTag
      · have hStop : tag.writeEnd.toList ≠ [] := by
          rw [Tag.toList_writeEnd hTag.raw hEnd]
          exact List.cons_ne_nil _ _
        rw [scanAll_writeAll style children _ hChildren (Tag.endsText_writeEnd hTag hEnd),
          Lexeme.scanAll_append hStop (Tag.scan_writeEnd hTag.isLegible hEnd rest)]
        simp [Tag.stopLexemes, hEnd]
      · rw [hClosing hEnd, Tag.writeEnd_eq_empty hTag.raw hEnd]
        simp [writeAll, lexemesAll, Tag.stopLexemes, hEnd]

/-- The markup of several nodes holds their lexemes, and then those of what follows them. -/
theorem scanAll_writeAll (style : ImportStyle) (nodes : List Node) (rest : List Char)
    (hNodes : writableAll nodes = true) (hRest : EndsText rest) :
    Lexeme.scanAll ((writeAll style nodes).toList ++ rest) =
      (lexemesAll style nodes ++ (Lexeme.scanAll rest).1, (Lexeme.scanAll rest).2) := by
  match nodes with
  | [] => simp [writeAll, lexemesAll]
  | node :: nodes =>
      obtain ⟨hNode, hOthers, hApart⟩ := writableAll_cons.mp hNodes
      rw [writeAll, String.toList_append, List.append_assoc,
        Node.scanAll_write style node _ hNode fun hText =>
          endsText_writeAll style hOthers (hApart hText) hRest,
        scanAll_writeAll style nodes rest hOthers hRest]
      simp [lexemesAll]

end

namespace Tree

/-- The node in front of the place where the tree grows. -/
def latest? (tree : Tree) : Option Node :=
  match tree.opened with
  | [] => tree.roots.head?
  | innermost :: _ => innermost.children.head?

/-- Several nodes behind the latest one. -/
def appendAll (tree : Tree) (nodes : List Node) : Tree := nodes.foldl append tree

@[simp] theorem latest?_append (tree : Tree) (node : Node) :
    (tree.append node).latest? = some node := by
  unfold append latest?
  cases tree.opened <;> rfl

theorem appendText_eq_append {tree : Tree} (content : String)
    (h : ∀ node ∈ tree.latest?, node.isText = false) :
    tree.appendText content = tree.append (.text content) := by
  have hJoin : ∀ nodes : List Node, (∀ node ∈ nodes.head?, node.isText = false) →
      joinText content nodes = .text content :: nodes := by
    intro nodes hLatest
    unfold joinText
    split
    · simp [Node.isText] at hLatest
    · rfl
  unfold latest? at h
  unfold appendText append
  cases hOpened : tree.opened with
  | nil =>
      rw [hOpened] at h
      simp only [hJoin _ h]
  | cons innermost outer =>
      rw [hOpened] at h
      simp only [hJoin _ h]

theorem appendAll_roots (roots nodes : List Node) :
    (⟨roots, []⟩ : Tree).appendAll nodes = ⟨nodes.reverse ++ roots, []⟩ := by
  induction nodes generalizing roots with
  | nil => rfl
  | cons node nodes ih =>
      rw [appendAll, List.foldl_cons]
      refine (ih (node :: roots)).trans ?_
      simp

theorem appendAll_innermost (roots nodes : List Node) (innermost : Element)
    (outer : List Element) :
    (⟨roots, innermost :: outer⟩ : Tree).appendAll nodes =
      ⟨roots, ⟨innermost.tag, nodes.reverse ++ innermost.children⟩ :: outer⟩ := by
  induction nodes generalizing innermost with
  | nil => rfl
  | cons node nodes ih =>
      rw [appendAll, List.foldl_cons]
      refine (ih ⟨innermost.tag, node :: innermost.children⟩).trans ?_
      simp

/-- An element that is opened, filled and closed is appended as a whole. -/
theorem close_appendAll_openTag (tree : Tree) {tag : Tag} {name : String} (children : List Node)
    (hName : tag.isNamed name = true) (raw : String) (stop : Nat) :
    ((tree.openTag tag).appendAll children).close name raw stop =
      tree.append (.element (closedBy raw stop tag) children) := by
  rw [openTag, appendAll_innermost, List.append_nil]
  simp [close, closeThrough, hName, finished]

theorem finish_appendAll_empty (nodes : List Node) : (empty.appendAll nodes).finish = nodes := by
  rw [empty, appendAll_roots]
  simp [finish, finishFrom]

end Tree

theorem Tag.isNamed_of_bare_eq {style : ImportStyle} {tag read : Tag}
    (h : read.bare = tag.readBack style) : read.isNamed tag.name = true := by
  have hName : read.name = tag.name := show read.bare.name = (tag.readBack style).name by rw [h]
  rw [isNamed, hName]
  exact Text.equalIgnoringCase_refl tag.name

theorem Tag.readAll_stopLexemes {tag : Tag} (hClosing : tag.closing = .endTag) (tree : Tree)
    (markLength position : Nat) :
    tree.readAll markLength position tag.stopLexemes = .ok
      (tree.close tag.name tag.writeEnd (position + byteLength tag.writeEnd.toList)) := by
  simp [stopLexemes, hClosing, Tree.readAll, Tree.extend, bind, Except.bind]

mutual

/-- The lexemes of a node add this node to a tree, unless character data joins a text that stands
there. -/
theorem Node.readAll_lexemes (style : ImportStyle) (markLength : Nat) (node : Node) (tree : Tree)
    (position : Nat) (hNode : node.isWritable = true)
    (hText : node.isText = true → ∀ latest ∈ tree.latest?, latest.isText = false) :
    ∃ read : Node, read.mapTags Tag.bare = node.mapTags (Tag.readBack style) ∧
      tree.readAll markLength position (node.lexemes style) = .ok (tree.append read) := by
  match node with
  | .verbatim content => simp [Node.isWritable] at hNode
  | .text content =>
      refine ⟨.text content, rfl, ?_⟩
      rw [← tree.appendText_eq_append content (hText rfl)]
      simp [Node.lexemes, Tree.readAll, Tree.extend, bind, Except.bind]
  | .element tag children =>
      obtain ⟨hTag, hClosing, hChildren⟩ := Node.isWritable_element.mp hNode
      obtain ⟨read, hRead, hOpened⟩ := Tag.extend_startToken hTag.isLegible style tree markLength
        ⟨position, position + byteLength (tag.writeStart style).toList⟩
        (String.ofList (tag.writeStart style).toList)
      simp only [Node.lexemes, Tree.readAll, hOpened, bind, Except.bind]
      by_cases hEnd : tag.closing = .endTag
      · obtain ⟨inside, hInside, hFilled⟩ := readAll_lexemesAll style markLength children
          (tree.openTag read) (position + byteLength (tag.writeStart style).toList) hChildren
          (fun _ _ _ _ hLatest => by cases hLatest)
        rw [if_pos hEnd, Tree.readAll_append _ hFilled, Tag.readAll_stopLexemes hEnd,
          Tree.close_appendAll_openTag tree inside (Tag.isNamed_of_bare_eq hRead)]
        refine ⟨_, ?_, rfl⟩
        rw [Node.mapTags, Node.mapTags, Tag.closedBy_bare, hRead, hInside]
      · refine ⟨.element read [], ?_, ?_⟩
        · rw [Node.mapTags, Node.mapTags, hRead, hClosing hEnd]
          rfl
        · simp [hEnd, hClosing hEnd, lexemesAll, Tag.stopLexemes, Tree.readAll]

/-- The lexemes of several nodes add these nodes to a tree. -/
theorem readAll_lexemesAll (style : ImportStyle) (markLength : Nat) (nodes : List Node)
    (tree : Tree) (position : Nat) (hNodes : writableAll nodes = true)
    (hText : ∀ node ∈ nodes.head?, node.isText = true →
      ∀ latest ∈ tree.latest?, latest.isText = false) :
    ∃ read, mapTagsAll Tag.bare read = mapTagsAll (Tag.readBack style) nodes ∧
      tree.readAll markLength position (lexemesAll style nodes) = .ok (tree.appendAll read) := by
  match nodes with
  | [] => exact ⟨[], rfl, rfl⟩
  | node :: nodes =>
      obtain ⟨hNode, hOthers, hApart⟩ := writableAll_cons.mp hNodes
      obtain ⟨read, hRead, hTree⟩ :=
        Node.readAll_lexemes style markLength node tree position hNode (hText node rfl)
      have hIsText : read.isText = node.isText := by
        rw [← Node.isText_mapTags Tag.bare, hRead, Node.isText_mapTags]
      -- Behind a text stands no other one, so that the next node joins nothing.
      have hNext : ∀ next ∈ nodes.head?, next.isText = true →
          ∀ latest ∈ (tree.append read).latest?, latest.isText = false := by
        intro next hMem hNextText latest hLatest
        rw [Tree.latest?_append, Option.mem_some_iff] at hLatest
        rw [← hLatest, hIsText, ← Bool.not_eq_true]
        intro hBefore
        rw [hApart hBefore next hMem] at hNextText
        cases hNextText
      obtain ⟨behind, hBehind, hAll⟩ := readAll_lexemesAll style markLength nodes
        (tree.append read) (position + byteLength ((node.lexemes style).flatMap Lexeme.source))
        hOthers hNext
      refine ⟨read :: behind, ?_, ?_⟩
      · rw [mapTagsAll, hRead, hBehind, mapTagsAll]
      · rw [lexemesAll, Tree.readAll_append _ hTree, hAll]
        rfl

end

/-- Markup that is written from names, attributes and texts can be parsed, and gives the tree that
it was written from, with script text in place of imports. The values of attributes are any
texts. -/
theorem parse_writeAll (style : ImportStyle) (nodes : List Node)
    (hNodes : writableAll nodes = true) (hMark : ¬ BeginsWithMark (writeAll style nodes)) :
    ∃ read, parse (writeAll style nodes) = .ok read ∧
      mapTagsAll Tag.bare read = mapTagsAll (Tag.readBack style) nodes := by
  obtain ⟨read, hRead, hTree⟩ := readAll_lexemesAll style 0 nodes Tree.empty 0 hNodes
    (fun _ _ _ _ hLatest => by cases hLatest)
  have hScan : Lexeme.scanAll (writeAll style nodes).toList = (lexemesAll style nodes, none) := by
    simpa [Lexeme.scanAll, Lexeme.scanFrom] using
      scanAll_writeAll style nodes [] hNodes (by simp [EndsText])
  have hSource :
      (lexemesAll style nodes).flatMap Lexeme.source = (writeAll style nodes).toList := by
    obtain ⟨unread, hSource, hEnd⟩ := Lexeme.scanAll_source (writeAll style nodes).toList
    rw [hScan] at hSource hEnd
    rwa [hEnd rfl, List.append_nil] at hSource
  have hExtend := Tree.extendAll_of_readAll [] hTree
  rw [List.append_nil, hSource] at hExtend
  refine ⟨read, parse_eq_ok_iff.mpr ?_, hRead⟩
  rw [behindMark_of_not_beginsWithMark hMark, hScan]
  exact ⟨_, _, hExtend, rfl, (Tree.finish_appendAll_empty read).symm⟩

/-- Quotes, brackets and ampersands in values, an import, and elements of one name inside each
other. -/
theorem parse_writeAll_nested :
    let target : ImportRef := ⟨0, "compress:it's & \"more\".png"⟩
    let image : Tag := ⟨"img", [⟨"src", .bound (.module target), none⟩], .void, none, none⟩
    let inner : Tag := ⟨"X-item", [⟨"@click.once", .text "a && b < 1 ? '>' : \"\\n\"", none⟩],
      .endTag, none, none⟩
    let outer : Tag := ⟨"x-item",
      [⟨"-", .text "", none⟩, ⟨"key", .bound (.raw "&lt;/x-item>"), none⟩], .endTag, none, none⟩
    let nodes : List Node := [.text " ", .element outer [.element inner [], .text "> \"",
      .element image [], .element ⟨"br", [], .selfClosing, none, none⟩ []], .text "\n"]
    writableAll nodes = true ∧ ¬ BeginsWithMark (writeAll .require nodes) ∧
      ∃ read, parse (writeAll .require nodes) = .ok read ∧
        mapTagsAll Tag.bare read = mapTagsAll (Tag.readBack .require) nodes := by
  intro target image inner outer nodes
  have hNodes : writableAll nodes = true := by decide
  have hMark : ¬ BeginsWithMark (writeAll .require nodes) := by
    simp [BeginsWithMark, nodes, writeAll, Node.write]
  exact ⟨hNodes, hMark, parse_writeAll .require nodes hNodes hMark⟩

end ResponsiveImages.Markup
