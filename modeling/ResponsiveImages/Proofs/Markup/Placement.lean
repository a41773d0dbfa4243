import ResponsiveImages.Proofs.Markup.Reading

/-! The text behind a tree. Nodes that were read stand in the source one behind the other, each
element with the text of its tags and with its span. The statements hold for any list of lexemes,
whether they were cut from the source at the right places or not. -/
namespace ResponsiveImages.Markup

open Text (byteLength)

/-- The start tag as it was read. -/
def Tag.startSource (tag : Tag) : List Char :=
  match tag.raw with
  | some raw => raw.start.toList
  | none => []

/-- The end tag as it was read. An element that was never closed has none. -/
def Tag.stopSource (tag : Tag) : List Char :=
  match tag.raw with
  | some ⟨_, some stop⟩ => stop.toList
  | _ => []

mutual

/-- The text that a node was read from. -/
def Node.source : Node → List Char
  | .text content => content.toList
  | .verbatim content => content.toList
  | .element tag children => tag.startSource ++ sourceAll children ++ tag.stopSource

/-- The text that several nodes were read from. -/
def sourceAll : List Node → List Char
  | [] => []
  | node :: nodes => node.source ++ sourceAll nodes

end

@[simp] theorem sourceAll_append (left right : List Node) :
    sourceAll (left ++ right) = sourceAll left ++ sourceAll right := by
  induction left with
  | nil => rfl
  | cons node nodes ih => simp [sourceAll, ih]

section

variable (lexemes : List Lexeme) (markLength : Nat)

/-- The tag was read from one of the lexemes, and that one stands at the position. -/
def Tag.BeginsAt (position : Nat) (tag : Tag) : Prop :=
  ∃ lexeme ∈ lexemes, ∃ content, lexeme.token.opens = some (tag.closing, content) ∧
    readTag tag.closing position (markLength + position + 1)
      ⟨position, position + byteLength lexeme.source⟩ (String.ofList lexeme.source) content =
        .ok tag

/-- The ways in which an element at a position was read: without children and end tag, with children
only, or with an end tag, which then also ends its span. -/
inductive Tag.ReadAt (position : Nat) : Tag → List Node → Prop
  | leaf {tag : Tag} (begins : tag.BeginsAt lexemes markLength position)
      (hClosing : tag.closing ≠ .endTag) : ReadAt position tag []
  | unclosed {tag : Tag} {children : List Node}
      (begins : tag.BeginsAt lexemes markLength position)
      (hClosing : tag.closing = .endTag) : ReadAt position tag children
  | closed {tag : Tag} {children : List Node} {lexeme : Lexeme} {name : List Char}
      (begins : tag.BeginsAt lexemes markLength position)
      (hClosing : tag.closing = .endTag) (hMem : lexeme ∈ lexemes)
      (hToken : lexeme.token = .endTag name)
      (hName : tag.isNamed (String.ofList name) = true) :
      ReadAt position (Tree.closedBy (String.ofList lexeme.source)
        (position + byteLength (tag.startSource ++ sourceAll children ++ lexeme.source)) tag)
        children

mutual

/-- Every element of a node that stands at the position was read at its place. -/
def Node.StandsAt (position : Nat) : Node → Prop
  | .text _ => True
  | .verbatim _ => True
  | .element tag children =>
    tag.ReadAt lexemes markLength position children ∧
      StandAt (position + byteLength tag.startSource) children

/-- Every element of several nodes was read at its place, when the first node stands at the
position. -/
def StandAt (position : Nat) : List Node → Prop
  | [] => True
  | node :: nodes => node.StandsAt position ∧ StandAt (position + byteLength node.source) nodes

end

variable {lexemes : List Lexeme} {markLength : Nat}

theorem standAt_append (position : Nat) (left right : List Node) :
    StandAt lexemes markLength position (left ++ right) ↔
      StandAt lexemes markLength position left ∧
        StandAt lexemes markLength (position + byteLength (sourceAll left)) right := by
  induction left generalizing position with
  | nil => simp [StandAt, sourceAll]
  | cons node nodes ih => simp [StandAt, sourceAll, ih, and_assoc, Nat.add_assoc]

/-- A tag is read with the attributes in its content. -/
theorem exists_written_of_readTag {closing : Closing} {position contentStart : Nat} {span : Span}
    {raw : String} {content : List Char} {tag : Tag}
    (h : readTag closing position contentStart span raw content = .ok tag) :
    ∃ written, writtenAttributes content = .ok written ∧
      tag = ⟨String.ofList (tagName content), written.map (·.toAttribute contentStart), closing,
        some span, some ⟨raw, none⟩⟩ := by
  unfold readTag at h
  split at h
  · cases h
  · rename_i written hWritten
    exact ⟨written, hWritten, (Except.ok.inj h).symm⟩

/-- What the tag of an element keeps of its lexeme. There is no end tag yet. -/
theorem Tag.BeginsAt.fields {position : Nat} {tag : Tag}
    (begins : tag.BeginsAt lexemes markLength position) :
    ∃ lexeme ∈ lexemes, ∃ content written, lexeme.token.opens = some (tag.closing, content) ∧
      writtenAttributes content = .ok written ∧ tag.name = String.ofList (tagName content) ∧
      tag.attrs = written.map (·.toAttribute (markLength + position + 1)) ∧
      tag.span = some ⟨position, position + byteLength lexeme.source⟩ ∧
      tag.raw = some ⟨String.ofList lexeme.source, none⟩ := by
  obtain ⟨lexeme, hMem, content, hOpens, hRead⟩ := begins
  obtain ⟨written, hWritten, hTag⟩ := exists_written_of_readTag hRead
  exact ⟨lexeme, hMem, content, written, hOpens, hWritten, congrArg Tag.name hTag,
    congrArg Tag.attrs hTag, congrArg Tag.span hTag, congrArg Tag.raw hTag⟩

theorem Tag.BeginsAt.raw_span {position : Nat} {tag : Tag}
    (begins : tag.BeginsAt lexemes markLength position) :
    ∃ start, tag.raw = some ⟨start, none⟩ ∧
      tag.span = some ⟨position, position + byteLength start.toList⟩ := by
  obtain ⟨lexeme, -, content, written, -, -, -, -, hSpan, hRaw⟩ := begins.fields
  exact ⟨_, hRaw, by rw [hSpan, String.toList_ofList]⟩

theorem Tag.BeginsAt.stopSource_eq {position : Nat} {tag : Tag}
    (begins : tag.BeginsAt lexemes markLength position) : tag.stopSource = [] := by
  obtain ⟨start, hRaw, -⟩ := begins.raw_span
  simp [stopSource, hRaw]

end

section

variable {lexemes : List Lexeme} {markLength position : Nat}

/-- A name that never has an end tag does not wait for one. -/
theorem Tag.BeginsAt.not_void {tag : Tag} (begins : tag.BeginsAt lexemes markLength position)
    (hClosing : tag.closing = .endTag) : isVoidName tag.name = false := by
  obtain ⟨lexeme, -, content, written, hOpens, -, hName, -⟩ := begins.fields
  rw [hClosing] at hOpens
  unfold Token.opens at hOpens
  split at hOpens
  · simp at hOpens
  · split at hOpens
    · simp at hOpens
    · rename_i hVoid
      obtain ⟨-, hContent⟩ := Prod.mk.inj (Option.some.inj hOpens)
      rw [hName, ← hContent]
      simpa using hVoid
  · cases hOpens

/-- An element with such a name is its start tag and nothing else. -/
theorem Tag.ReadAt.of_void {tag : Tag} {children : List Node}
    (h : tag.ReadAt lexemes markLength position children) (hVoid : isVoidName tag.name = true) :
    children = [] ∧ tag.BeginsAt lexemes markLength position := by
  cases h with
  | leaf begins _ => exact ⟨rfl, begins⟩
  | unclosed begins hClosing => exact absurd hVoid (by simp [begins.not_void hClosing])
  | closed begins hClosing _ _ _ =>
      have hName := begins.not_void hClosing
      simp only [Tree.closedBy, Tag.editRaw] at hVoid
      exact absurd hVoid (by simp [hName])

theorem Tag.BeginsAt.startSource_ne_nil {tag : Tag}
    (begins : tag.BeginsAt lexemes markLength position)
    (hSome : ∀ lexeme ∈ lexemes, lexeme.source ≠ []) : tag.startSource ≠ [] := by
  obtain ⟨lexeme, hMem, content, written, -, -, -, -, -, hRaw⟩ := begins.fields
  simpa [startSource, hRaw] using hSome lexeme hMem

end

namespace Tree

/-- The text read so far: the roots, and then every open element from the outermost to the
innermost, its start tag with its children so far. -/
def sourceFrom (roots : List Node) : List Element → List Char
  | [] => sourceAll roots.reverse
  | innermost :: outer =>
    sourceFrom roots outer ++ innermost.tag.startSource ++ sourceAll innermost.children.reverse

def source (tree : Tree) : List Char :=
  sourceFrom tree.roots tree.opened

section

variable (lexemes : List Lexeme) (markLength : Nat)

def StandsFrom (roots : List Node) : List Element → Prop
  | [] => StandAt lexemes markLength 0 roots.reverse
  | innermost :: outer =>
    StandsFrom roots outer ∧
      innermost.tag.BeginsAt lexemes markLength (byteLength (sourceFrom roots outer)) ∧
      innermost.tag.closing = .endTag ∧
      StandAt lexemes markLength
        (byteLength (sourceFrom roots outer ++ innermost.tag.startSource))
        innermost.children.reverse

/-- Every element of the tree was read at its place, whether it is finished or open. -/
def Stands (tree : Tree) : Prop :=
  StandsFrom lexemes markLength tree.roots tree.opened

variable {lexemes : List Lexeme} {markLength : Nat}

theorem append_source (tree : Tree) (node : Node) :
    (tree.append node).source = tree.source ++ node.source := by
  rcases tree with ⟨roots, _ | ⟨innermost, outer⟩⟩ <;>
    simp [append, source, sourceFrom, sourceAll]

theorem append_stands {tree : Tree} {node : Node} (hTree : tree.Stands lexemes markLength)
    (hNode : node.StandsAt lexemes markLength (byteLength tree.source)) :
    (tree.append node).Stands lexemes markLength := by
  rcases tree with ⟨roots, _ | ⟨innermost, outer⟩⟩
  · simp only [append, Stands, StandsFrom, List.reverse_cons, standAt_append] at hTree ⊢
    exact ⟨hTree, by simpa [source, sourceFrom] using hNode, trivial⟩
  · simp only [append, Stands, StandsFrom, List.reverse_cons, standAt_append] at hTree ⊢
    obtain ⟨hOuter, hBegins, hClosing, hChildren⟩ := hTree
    exact ⟨hOuter, hBegins, hClosing, hChildren,
      by simpa [source, sourceFrom, Nat.add_assoc] using hNode, trivial⟩

theorem joinText_source (content : String) (nodes : List Node) :
    sourceAll (joinText content nodes).reverse = sourceAll nodes.reverse ++ content.toList := by
  unfold joinText
  split <;> simp [sourceAll, Node.source]

theorem joinText_standAt {position : Nat} {nodes : List Node} (content : String)
    (h : StandAt lexemes markLength position nodes.reverse) :
    StandAt lexemes markLength position (joinText content nodes).reverse := by
  unfold joinText
  split
  · simp only [List.reverse_cons, standAt_append] at h ⊢
    exact ⟨h.1, trivial, trivial⟩
  · simp only [List.reverse_cons, standAt_append]
    exact ⟨h, trivial, trivial⟩

theorem appendText_source (tree : Tree) (content : String) :
    (tree.appendText content).source = tree.source ++ content.toList := by
  rcases tree with ⟨roots, _ | ⟨innermost, outer⟩⟩ <;>
    simp [appendText, source, sourceFrom, joinText_source]

theorem appendText_stands {tree : Tree} (content : String)
    (h : tree.Stands lexemes markLength) :
    (tree.appendText content).Stands lexemes markLength := by
  rcases tree with ⟨roots, _ | ⟨innermost, outer⟩⟩
  · exact joinText_standAt content h
  · obtain ⟨hOuter, hBegins, hClosing, hChildren⟩ := h
    exact ⟨hOuter, hBegins, hClosing, joinText_standAt content hChildren⟩

theorem openTag_source (tree : Tree) (tag : Tag) :
    (tree.openTag tag).source = tree.source ++ tag.startSource := by
  simp [openTag, source, sourceFrom, sourceAll]

theorem openTag_stands {tree : Tree} {tag : Tag} (hTree : tree.Stands lexemes markLength)
    (begins : tag.BeginsAt lexemes markLength (byteLength tree.source))
    (hClosing : tag.closing = .endTag) : (tree.openTag tag).Stands lexemes markLength :=
  ⟨hTree, begins, hClosing, trivial⟩

theorem closedBy_startSource {position : Nat} {tag : Tag} (raw : String) (stop : Nat)
    (begins : tag.BeginsAt lexemes markLength position) :
    (closedBy raw stop tag).startSource = tag.startSource := by
  obtain ⟨start, hRaw, -⟩ := begins.raw_span
  simp [closedBy, Tag.editRaw, Tag.startSource, hRaw]

theorem closedBy_stopSource {position : Nat} {tag : Tag} (raw : String) (stop : Nat)
    (begins : tag.BeginsAt lexemes markLength position) :
    (closedBy raw stop tag).stopSource = raw.toList := by
  obtain ⟨start, hRaw, -⟩ := begins.raw_span
  simp [closedBy, Tag.editRaw, Tag.stopSource, hRaw]

/-- The nodes that ended last are the last children of the innermost element. -/
theorem standAt_children {roots pending : List Node} {innermost : Element}
    {outer : List Element} (hTree : StandsFrom lexemes markLength roots (innermost :: outer))
    (hPending : StandAt lexemes markLength
      (byteLength (sourceFrom roots (innermost :: outer))) pending.reverse) :
    StandAt lexemes markLength
      (byteLength (sourceFrom roots outer) + byteLength innermost.tag.startSource)
      (pending ++ innermost.children).reverse := by
  obtain ⟨-, -, -, hChildren⟩ := hTree
  rw [List.reverse_append, standAt_append]
  exact ⟨by simpa using hChildren, by simpa [sourceFrom, Nat.add_assoc] using hPending⟩

/-- The innermost element as it ends without an end tag. -/
theorem finished_stands {roots pending : List Node} {innermost : Element}
    {outer : List Element} (hTree : StandsFrom lexemes markLength roots (innermost :: outer))
    (hPending : StandAt lexemes markLength
      (byteLength (sourceFrom roots (innermost :: outer))) pending.reverse) :
    (finished ⟨innermost.tag, pending ++ innermost.children⟩).StandsAt lexemes markLength
      (byteLength (sourceFrom roots outer)) :=
  ⟨.unclosed hTree.2.1 hTree.2.2.1, standAt_children hTree hPending⟩

theorem finished_source {roots : List Node} (pending : List Node) {innermost : Element}
    {outer : List Element} (hTree : StandsFrom lexemes markLength roots (innermost :: outer)) :
    sourceFrom roots outer ++ (finished ⟨innermost.tag, pending ++ innermost.children⟩).source =
      sourceFrom roots (innermost :: outer) ++ sourceAll pending.reverse := by
  simp [finished, Node.source, sourceFrom, hTree.2.1.stopSource_eq]

/-- An end tag takes its own text behind everything that was read, however many elements end with
it. The induction is on the open elements, and what ended last stands behind them. -/
theorem closeThrough_stands {lexeme : Lexeme} {name : List Char} {stop : Nat}
    (hMem : lexeme ∈ lexemes) (hToken : lexeme.token = .endTag name)
    {roots pending : List Node} {opened : List Element}
    (hOpen : opened.any (·.tag.isNamed (String.ofList name)) = true)
    (hTree : StandsFrom lexemes markLength roots opened)
    (hPending : StandAt lexemes markLength (byteLength (sourceFrom roots opened)) pending.reverse)
    (hStop : stop =
      byteLength (sourceFrom roots opened ++ sourceAll pending.reverse ++ lexeme.source)) :
    let tree :=
      closeThrough (String.ofList name) (String.ofList lexeme.source) stop roots pending opened
    tree.source = sourceFrom roots opened ++ sourceAll pending.reverse ++ lexeme.source ∧
      tree.Stands lexemes markLength := by
  induction opened generalizing pending with
  | nil => simp at hOpen
  | cons innermost outer ih =>
      have hBegins := hTree.2.1
      have hChildren := standAt_children hTree hPending
      simp only [closeThrough]
      split
      · rename_i hName
        have hRead : (closedBy (String.ofList lexeme.source) stop innermost.tag).ReadAt lexemes
            markLength (byteLength (sourceFrom roots outer))
            (pending ++ innermost.children).reverse := by
          have hText : byteLength (sourceFrom roots outer) + byteLength (innermost.tag.startSource
              ++ sourceAll (pending ++ innermost.children).reverse ++ lexeme.source) = stop := by
            simp [hStop, sourceFrom]
          rw [← hText]
          exact .closed hBegins hTree.2.2.1 hMem hToken hName
        constructor
        · rw [append_source]
          simp [source, sourceFrom, finished, Node.source, closedBy_startSource _ _ hBegins,
            closedBy_stopSource _ _ hBegins]
        · refine append_stands hTree.1 ⟨hRead, ?_⟩
          rw [closedBy_startSource _ _ hBegins]
          exact hChildren
      · rename_i hName
        have hSource := finished_source pending hTree
        have hRest := @ih [finished ⟨innermost.tag, pending ++ innermost.children⟩]
          (by simpa [hName] using hOpen) hTree.1 ⟨finished_stands hTree hPending, trivial⟩
          (by simpa [sourceAll, ← hSource] using hStop)
        simpa [sourceAll, ← hSource] using hRest

theorem close_stands {tree : Tree} {lexeme : Lexeme} {name : List Char} {stop : Nat}
    (hMem : lexeme ∈ lexemes) (hToken : lexeme.token = .endTag name)
    (hTree : tree.Stands lexemes markLength)
    (hStop : stop = byteLength (tree.source ++ lexeme.source)) :
    let closed := tree.close (String.ofList name) (String.ofList lexeme.source) stop
    closed.source = tree.source ++ lexeme.source ∧ closed.Stands lexemes markLength := by
  simp only [close]
  split
  · rename_i hOpen
    have hNone : StandAt lexemes markLength (byteLength tree.source) [].reverse := trivial
    simpa [sourceAll, source] using closeThrough_stands hMem hToken hOpen hTree hNone
      (by simpa [sourceAll, source] using hStop)
  · constructor
    · simp [append_source, Node.source]
    · exact append_stands hTree trivial

/-- Elements that the end of the text ends have no end tag, and nothing is added to the text. -/
theorem finishFrom_stands {roots pending : List Node} {opened : List Element}
    (hTree : StandsFrom lexemes markLength roots opened)
    (hPending :
      StandAt lexemes markLength (byteLength (sourceFrom roots opened)) pending.reverse) :
    let nodes := (finishFrom roots pending opened).reverse
    sourceAll nodes = sourceFrom roots opened ++ sourceAll pending.reverse ∧
      StandAt lexemes markLength 0 nodes := by
  induction opened generalizing pending with
  | nil =>
      simp only [finishFrom, sourceFrom, List.reverse_append, sourceAll_append, true_and]
      exact (standAt_append _ _ _).mpr ⟨hTree, by simpa [sourceFrom] using hPending⟩
  | cons innermost outer ih =>
      have hRest := @ih [finished ⟨innermost.tag, pending ++ innermost.children⟩] hTree.1
        ⟨finished_stands hTree hPending, trivial⟩
      simpa [finishFrom, sourceAll, finished_source pending hTree] using hRest

theorem finish_stands {tree : Tree} (hTree : tree.Stands lexemes markLength) :
    sourceAll tree.finish = tree.source ∧ StandAt lexemes markLength 0 tree.finish := by
  have hNone : StandAt lexemes markLength (byteLength tree.source) [].reverse := trivial
  simpa [finish, source, sourceAll] using finishFrom_stands hTree hNone

/-- A tag that was read begins where the text of its lexeme does. -/
theorem beginsAt_of_readTag {position : Nat} {lexeme : Lexeme} {closing : Closing}
    {content : List Char} {tag : Tag} (hMem : lexeme ∈ lexemes)
    (hOpens : lexeme.token.opens = some (closing, content))
    (h : readTag closing position (markLength + position + 1)
      ⟨position, position + byteLength lexeme.source⟩ (String.ofList lexeme.source) content =
        .ok tag) :
    tag.BeginsAt lexemes markLength position ∧ tag.closing = closing ∧
      tag.startSource = lexeme.source := by
  have hTag : tag.closing = closing ∧ tag.startSource = lexeme.source := by
    obtain ⟨written, -, rfl⟩ := exists_written_of_readTag h
    exact ⟨rfl, by simp [Tag.startSource]⟩
  exact ⟨⟨lexeme, hMem, content, by rw [hTag.1, hOpens], by rw [hTag.1, h]⟩, hTag⟩

theorem append_leaf_stands {tree : Tree} {lexeme : Lexeme} {closing : Closing}
    {content : List Char} {tag : Tag} (hMem : lexeme ∈ lexemes)
    (hTree : tree.Stands lexemes markLength)
    (hOpens : lexeme.token.opens = some (closing, content)) (hClosing : closing ≠ .endTag)
    (h : readTag closing (byteLength tree.source) (markLength + byteLength tree.source + 1)
      ⟨byteLength tree.source, byteLength tree.source + byteLength lexeme.source⟩
      (String.ofList lexeme.source) content = .ok tag) :
    (tree.append (.element tag [])).source = tree.source ++ lexeme.source ∧
      (tree.append (.element tag [])).Stands lexemes markLength := by
  obtain ⟨hBegins, hKind, hStart⟩ := beginsAt_of_readTag hMem hOpens h
  refine ⟨?_, append_stands hTree ⟨.leaf hBegins (hKind ▸ hClosing), trivial⟩⟩
  rw [append_source, Node.source, hStart, hBegins.stopSource_eq]
  simp [sourceAll]

/-- A lexeme takes its text behind everything that was read, and an element that it opens, closes or
leaves alone stands at its place. -/
theorem extend_stands {tree final : Tree} {lexeme : Lexeme} (hMem : lexeme ∈ lexemes)
    (hTree : tree.Stands lexemes markLength)
    (h : tree.extend lexeme.token markLength
      ⟨byteLength tree.source, byteLength tree.source + byteLength lexeme.source⟩
      (String.ofList lexeme.source) = .ok final) :
    final.source = tree.source ++ lexeme.source ∧ final.Stands lexemes markLength := by
  cases hToken : lexeme.token with
  | text =>
      simp only [extend, hToken, Except.ok.injEq] at h
      subst h
      exact ⟨by simp [appendText_source], appendText_stands _ hTree⟩
  | verbatim =>
      simp only [extend, hToken, Except.ok.injEq] at h
      subst h
      exact ⟨by simp [append_source, Node.source], append_stands hTree trivial⟩
  | endTag name =>
      simp only [extend, hToken, Except.ok.injEq] at h
      subst h
      exact close_stands hMem hToken hTree (by simp)
  | selfClosingTag content =>
      simp only [extend, hToken] at h
      obtain ⟨tag, hRead, hFinal⟩ := bind_eq_ok.mp h
      cases hFinal
      exact append_leaf_stands hMem hTree (by rw [hToken]; rfl) (by decide) hRead
  | startTag content =>
      simp only [extend, hToken] at h
      split at h
      · rename_i hVoid
        obtain ⟨tag, hRead, hFinal⟩ := bind_eq_ok.mp h
        cases hFinal
        exact append_leaf_stands hMem hTree (by simp [hToken, Token.opens, hVoid]) (by decide) hRead
      · rename_i hVoid
        obtain ⟨tag, hRead, hFinal⟩ := bind_eq_ok.mp h
        cases hFinal
        obtain ⟨hBegins, hKind, hStart⟩ := beginsAt_of_readTag hMem
          (by simp [hToken, Token.opens, hVoid]) hRead
        exact ⟨by rw [openTag_source, hStart], openTag_stands hTree hBegins hKind⟩

end

end Tree

end ResponsiveImages.Markup
