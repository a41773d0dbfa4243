import Mathlib.Data.List.Chain
import ResponsiveImages.Proofs.Markup.AttributeSpans
import ResponsiveImages.Proofs.Markup.ReadBack

/-! The shape of trees that were read. How an element ends follows from its start tag and its name,
character data is joined, and an end tag is passed through only where no element of its name is
open. -/
namespace ResponsiveImages.Markup

/-- The text is an end tag of that name. -/
def IsEndTagOf (name content : String) : Prop :=
  ∃ inside, content.toList = '<' :: '/' :: (inside ++ ['>']) ∧
    Text.equalIgnoringCase name (String.ofList (Lexeme.endTagName inside)) = true

/-- How a tag was read that stands in a tree with these children. Its start tag and its name decide
how it ends, and only where an end tag may stand there are children or an end tag. -/
structure Tag.IsShaped (tag : Tag) (children : List Node) : Prop where
  raw : ∃ raw, tag.raw = some raw ∧ (tag.closing ≠ .endTag → raw.stop = none) ∧
    ∀ stop ∈ raw.stop, IsEndTagOf tag.name stop
  closing : tag.closing =
    if ['/', '>'].isSuffixOf tag.startSource then .selfClosing
    else if isVoidName tag.name then .void
    else .endTag
  leaf : tag.closing ≠ .endTag → children = []

/-- Only a slash at the end of the content makes a tag self-closing. -/
theorem isSuffixOf_startTag {content : List Char} (h : content.getLast? ≠ some '/') :
    ['/', '>'].isSuffixOf ('<' :: (content ++ ['>'])) = false := by
  rw [Bool.eq_false_iff, Ne, List.isSuffixOf_iff_suffix]
  rintro ⟨front, hFront⟩
  have hSlash : front ++ ['/'] = '<' :: content := by
    rw [← List.cons_append, ← List.singleton_append (l := ['>']), ← List.append_assoc] at hFront
    exact List.append_cancel_right hFront
  cases front with
  | nil => simp at hSlash
  | cons c front =>
      obtain ⟨-, rfl⟩ := List.cons.inj hSlash
      simp at h

section

variable {lexemes : List Lexeme} (hSpelled : ∀ lexeme ∈ lexemes, lexeme.IsSpelled)
include hSpelled

theorem Tag.BeginsAt.closing_eq {position : Nat} {tag : Tag}
    (begins : tag.BeginsAt lexemes 0 position) :
    tag.closing =
      if ['/', '>'].isSuffixOf tag.startSource then .selfClosing
      else if isVoidName tag.name then .void
      else .endTag := by
  obtain ⟨lexeme, hMem, content, read, hOpens, -, hName, -, -, hRaw⟩ := begins.fields
  have hIsSpelled := hSpelled lexeme hMem
  have hStart : tag.startSource = lexeme.source := by simp [startSource, hRaw]
  rw [hStart, hName]
  unfold Lexeme.IsSpelled at hIsSpelled
  unfold Token.opens at hOpens
  split at hOpens
  · rename_i hToken
    rw [hToken] at hIsSpelled
    obtain ⟨hClosing, rfl⟩ := Prod.mk.inj (Option.some.inj hOpens)
    have hSlash : ['/', '>'].isSuffixOf lexeme.source = true := by
      rw [hIsSpelled, List.isSuffixOf_iff_suffix]
      exact ⟨'<' :: _, rfl⟩
    rw [if_pos hSlash, hClosing]
  · rename_i hToken
    rw [hToken] at hIsSpelled
    obtain ⟨hClosing, rfl⟩ := Prod.mk.inj (Option.some.inj hOpens)
    have hSlash : ['/', '>'].isSuffixOf lexeme.source = false := by
      rw [hIsSpelled.1]
      exact isSuffixOf_startTag hIsSpelled.2
    simp only [hSlash, Bool.false_eq_true, if_false, hClosing]
  · cases hOpens

/-- An end tag that closed an element is spelled with the name of the element. -/
theorem isEndTagOf_of_isSpelled {lexeme : Lexeme} {name : List Char} {tag : Tag}
    (hMem : lexeme ∈ lexemes) (hToken : lexeme.token = .endTag name)
    (hName : tag.isNamed (String.ofList name) = true) :
    IsEndTagOf tag.name (String.ofList lexeme.source) := by
  have hIsSpelled := hSpelled lexeme hMem
  rw [Lexeme.IsSpelled, hToken] at hIsSpelled
  obtain ⟨inside, hSource, rfl⟩ := hIsSpelled
  exact ⟨inside, by rw [String.toList_ofList, hSource], hName⟩

theorem Tag.ReadAt.isShaped {position : Nat} {tag : Tag} {children : List Node}
    (h : tag.ReadAt lexemes 0 position children) : tag.IsShaped children := by
  cases h with
  | leaf begins _ =>
      obtain ⟨start, hRaw, -⟩ := begins.raw_span
      exact ⟨⟨_, hRaw, fun _ => rfl, by simp⟩, begins.closing_eq hSpelled, fun _ => rfl⟩
  | unclosed begins hClosing =>
      obtain ⟨start, hRaw, -⟩ := begins.raw_span
      exact ⟨⟨_, hRaw, fun _ => rfl, by simp⟩, begins.closing_eq hSpelled,
        fun hOther => absurd hClosing hOther⟩
  | @closed opened _ lexeme name begins hClosing hMem hToken hName =>
      obtain ⟨start, hRaw, -⟩ := begins.raw_span
      have hEnd := isEndTagOf_of_isSpelled hSpelled hMem hToken hName
      refine ⟨⟨_, congrArg (Option.map _) hRaw, fun hOther => absurd hClosing hOther, ?_⟩, ?_,
        fun hOther => absurd hClosing hOther⟩
      · rintro stop hStop
        obtain rfl := Option.some.inj hStop
        exact hEnd
      · rw [Tree.closedBy_startSource _ _ begins]
        exact begins.closing_eq hSpelled

end

/-- An element whose name never has an end tag has no children. -/
theorem Tag.IsShaped.children_eq_nil {tag : Tag} {children : List Node} (h : tag.IsShaped children)
    (hVoid : isVoidName tag.name = true) : children = [] := by
  refine h.leaf ?_
  rw [h.closing, hVoid]
  split <;> decide

/-- No two texts stand side by side. -/
def TextsApart (nodes : List Node) : Prop :=
  nodes.IsChain fun left right => ¬ (left.isText = true ∧ right.isText = true)

/-- The shape of a node inside elements of these names, the innermost first. Nothing in it is empty,
texts are joined, and no end tag is passed through inside an element of its name. -/
inductive Node.IsShaped : List String → Node → Prop
  | text {around : List String} {content : String} (hSome : content ≠ "") :
      IsShaped around (.text content)
  | verbatim {around : List String} {content : String} (hSome : content ≠ "")
      (hOther : ∀ name ∈ around, ¬ IsEndTagOf name content) : IsShaped around (.verbatim content)
  | element {around : List String} {tag : Tag} {children : List Node}
      (hApart : TextsApart children)
      (hChildren : ∀ child ∈ children, IsShaped (tag.name :: around) child) :
      IsShaped around (.element tag children)

/-- The shape of all nodes in one place. -/
structure AreShaped (around : List String) (nodes : List Node) : Prop where
  apart : TextsApart nodes
  each : ∀ node ∈ nodes, node.IsShaped around

theorem areShaped_nil (around : List String) : AreShaped around [] :=
  ⟨.nil, List.forall_mem_nil _⟩

namespace AreShaped

variable {around : List String} {nodes : List Node}

theorem reverse (h : AreShaped around nodes) : AreShaped around nodes.reverse := by
  refine ⟨List.isChain_reverse.mpr (h.apart.imp fun left right hApart hTexts => ?_),
    fun node hNode => h.each node (List.mem_reverse.mp hNode)⟩
  exact hApart hTexts.symm

theorem cons {node : Node} (h : AreShaped around nodes) (hNode : node.IsShaped around)
    (hText : node.isText = false) : AreShaped around (node :: nodes) := by
  refine ⟨List.isChain_cons.mpr ⟨fun next _ hTexts => ?_, h.apart⟩,
    List.forall_mem_cons.mpr ⟨hNode, h.each⟩⟩
  simp [hText] at hTexts

theorem append {pending : List Node} (h : AreShaped around nodes)
    (hPending : ∀ node ∈ pending, node.IsShaped around ∧ node.isText = false) :
    AreShaped around (pending ++ nodes) := by
  induction pending with
  | nil => exact h
  | cons node pending ih =>
      obtain ⟨⟨hNode, hText⟩, hRest⟩ := List.forall_mem_cons.mp hPending
      exact (ih hRest).cons hNode hText

/-- A text that stands behind a text is joined to it. -/
theorem joinText {content : String} (h : AreShaped around nodes) (hSome : content ≠ "") :
    AreShaped around (Tree.joinText content nodes) := by
  unfold Tree.joinText
  split
  · rename_i before rest
    obtain ⟨hHead, hRest⟩ := List.isChain_cons.mp h.apart
    refine ⟨List.isChain_cons.mpr ⟨hHead, hRest⟩, List.forall_mem_cons.mpr ⟨.text ?_, ?_⟩⟩
    · simp [hSome]
    · exact (List.forall_mem_cons.mp h.each).2
  · rename_i hNoText
    refine ⟨List.isChain_cons.mpr ⟨fun next hNext hTexts => ?_, h.apart⟩,
      List.forall_mem_cons.mpr ⟨.text hSome, h.each⟩⟩
    obtain ⟨rest, rfl⟩ := List.head?_eq_some_iff.mp (Option.mem_def.mp hNext)
    cases next with
    | text before => exact hNoText before rest rfl
    | element _ _ | verbatim _ => simp [Node.isText] at hTexts

end AreShaped

namespace Tree

/-- The names of the open elements, the innermost first. -/
def names (opened : List Element) : List String := opened.map (·.tag.name)

/-- The shape of the finished nodes: those outside all open elements, and the children so far of every
open element. -/
def ShapedFrom (roots : List Node) : List Element → Prop
  | [] => AreShaped [] roots
  | innermost :: outer =>
    ShapedFrom roots outer ∧ AreShaped (names (innermost :: outer)) innermost.children

def IsShaped (tree : Tree) : Prop := ShapedFrom tree.roots tree.opened

theorem empty_isShaped : Tree.empty.IsShaped := areShaped_nil []

theorem append_isShaped {tree : Tree} {node : Node} (hTree : tree.IsShaped)
    (hNode : node.IsShaped (names tree.opened)) (hText : node.isText = false) :
    (tree.append node).IsShaped := by
  rcases tree with ⟨roots, _ | ⟨innermost, outer⟩⟩
  · exact AreShaped.cons hTree hNode hText
  · exact ⟨hTree.1, hTree.2.cons hNode hText⟩

theorem appendText_isShaped {tree : Tree} {content : String} (hTree : tree.IsShaped)
    (hSome : content ≠ "") : (tree.appendText content).IsShaped := by
  rcases tree with ⟨roots, _ | ⟨innermost, outer⟩⟩
  · exact AreShaped.joinText hTree hSome
  · exact ⟨hTree.1, hTree.2.joinText hSome⟩

theorem openTag_isShaped {tree : Tree} (hTree : tree.IsShaped) (tag : Tag) :
    (tree.openTag tag).IsShaped :=
  ⟨hTree, areShaped_nil _⟩

theorem finished_isShaped {around : List String} (element : Element)
    (h : AreShaped (element.tag.name :: around) element.children) :
    (finished element).IsShaped around ∧ (finished element).isText = false :=
  ⟨.element h.reverse.apart h.reverse.each, rfl⟩

/-- Elements end one inside the other. The induction is on the open elements; what ended last is a
child of the innermost one. -/
theorem closeThrough_isShaped (name raw : String) (stop : Nat) {roots pending : List Node}
    {opened : List Element} (hTree : ShapedFrom roots opened)
    (hPending : ∀ node ∈ pending, node.IsShaped (names opened) ∧ node.isText = false) :
    (closeThrough name raw stop roots pending opened).IsShaped := by
  induction opened generalizing pending with
  | nil => exact AreShaped.append hTree hPending
  | cons innermost outer ih =>
      obtain ⟨hOuter, hChildren⟩ := hTree
      have hInnermost := hChildren.append hPending
      simp only [closeThrough]
      split
      · have hEnded : AreShaped ((closedBy raw stop innermost.tag).name :: names outer)
            (pending ++ innermost.children) := hInnermost
        obtain ⟨hShaped, hText⟩ := finished_isShaped ⟨closedBy raw stop innermost.tag, _⟩ hEnded
        exact append_isShaped hOuter hShaped hText
      · refine ih hOuter (List.forall_mem_singleton.mpr ?_)
        exact finished_isShaped ⟨innermost.tag, _⟩ hInnermost

theorem close_isShaped {tree : Tree} {name raw : String} (hTree : tree.IsShaped) (stop : Nat)
    (hSome : raw ≠ "") (hRaw : ∀ other, IsEndTagOf other raw →
      Text.equalIgnoringCase other name = true) : (tree.close name raw stop).IsShaped := by
  unfold close
  split
  · exact closeThrough_isShaped name raw stop hTree (List.forall_mem_nil _)
  · rename_i hNone
    refine append_isShaped hTree (.verbatim hSome fun other hOther hEnd => hNone ?_) rfl
    obtain ⟨element, hElement, rfl⟩ := List.mem_map.mp hOther
    exact List.any_eq_true.mpr ⟨element, hElement, hRaw _ hEnd⟩

theorem finishFrom_areShaped {roots pending : List Node} {opened : List Element}
    (hTree : ShapedFrom roots opened)
    (hPending : ∀ node ∈ pending, node.IsShaped (names opened) ∧ node.isText = false) :
    AreShaped [] (finishFrom roots pending opened) := by
  induction opened generalizing pending with
  | nil => exact AreShaped.append hTree hPending
  | cons innermost outer ih =>
      refine ih hTree.1 (List.forall_mem_singleton.mpr ?_)
      exact finished_isShaped ⟨innermost.tag, _⟩ (hTree.2.append hPending)

theorem finish_areShaped {tree : Tree} (hTree : tree.IsShaped) : AreShaped [] tree.finish :=
  (finishFrom_areShaped hTree (List.forall_mem_nil _)).reverse

theorem ofList_ne_empty {cs : List Char} (h : cs ≠ []) : String.ofList cs ≠ "" := fun hEmpty =>
  h (by simpa using congrArg String.toList hEmpty)

/-- One more lexeme. What is passed through is no end tag, or one that closes nothing. -/
theorem extend_isShaped {tree final : Tree} {lexeme : Lexeme} {markLength : Nat} {span : Span}
    (hSpelled : lexeme.IsSpelled) (hTree : tree.IsShaped)
    (h : tree.extend lexeme.token markLength span (String.ofList lexeme.source) = .ok final) :
    final.IsShaped := by
  unfold Lexeme.IsSpelled at hSpelled
  cases hToken : lexeme.token with
  | text =>
      rw [hToken] at h hSpelled
      cases h
      exact appendText_isShaped hTree (ofList_ne_empty hSpelled)
  | verbatim =>
      rw [hToken] at h hSpelled
      cases h
      obtain ⟨mark, rest, hSource, hMark⟩ := hSpelled
      refine append_isShaped hTree (.verbatim (ofList_ne_empty (by simp [hSource])) ?_) rfl
      rintro name - ⟨inside, hInside, -⟩
      rw [String.toList_ofList, hSource] at hInside
      obtain rfl : mark = '/' := (List.cons.inj (List.cons.inj hInside).2).1
      revert hMark
      decide
  | endTag name =>
      rw [hToken] at h hSpelled
      cases h
      obtain ⟨content, hSource, rfl⟩ := hSpelled
      refine close_isShaped hTree _ (ofList_ne_empty (by simp [hSource])) ?_
      rintro other ⟨inside, hInside, hName⟩
      rw [String.toList_ofList, hSource, List.cons_inj_right, List.cons_inj_right] at hInside
      rwa [List.append_cancel_right hInside]
  | selfClosingTag content =>
      rw [hToken] at h
      obtain ⟨tag, -, hFinal⟩ := bind_eq_ok.mp h
      cases hFinal
      exact append_isShaped hTree (.element .nil (List.forall_mem_nil _)) rfl
  | startTag content =>
      rw [hToken] at h
      simp only [extend] at h
      split at h
      · obtain ⟨tag, -, hFinal⟩ := bind_eq_ok.mp h
        cases hFinal
        exact append_isShaped hTree (.element .nil (List.forall_mem_nil _)) rfl
      · obtain ⟨tag, -, hFinal⟩ := bind_eq_ok.mp h
        cases hFinal
        exact openTag_isShaped hTree tag

theorem readAll_isShaped {tree final : Tree} {markLength position : Nat} {lexemes : List Lexeme}
    (hSpelled : ∀ lexeme ∈ lexemes, lexeme.IsSpelled) (hTree : tree.IsShaped)
    (h : tree.readAll markLength position lexemes = .ok final) : final.IsShaped := by
  induction lexemes generalizing tree position with
  | nil =>
      cases h
      exact hTree
  | cons lexeme lexemes ih =>
      obtain ⟨hFirst, hRest⟩ := List.forall_mem_cons.mp hSpelled
      obtain ⟨next, hNext, hFinal⟩ := bind_eq_ok.mp h
      exact ih hRest (extend_isShaped hFirst hTree hNext) hFinal

theorem append_opened_length (tree : Tree) (node : Node) :
    (tree.append node).opened.length = tree.opened.length := by
  rcases tree with ⟨roots, _ | ⟨innermost, outer⟩⟩ <;> rfl

theorem closeThrough_opened_length {name : String} (raw : String) (stop : Nat)
    (roots pending : List Node) {opened : List Element}
    (hOpen : opened.any (·.tag.isNamed name) = true) :
    (closeThrough name raw stop roots pending opened).opened.length < opened.length := by
  induction opened generalizing pending with
  | nil => simp at hOpen
  | cons innermost outer ih =>
      simp only [closeThrough]
      split
      · rw [append_opened_length]
        exact Nat.lt_succ_self _
      · rename_i hName
        exact (ih _ (by simpa [hName] using hOpen)).trans (Nat.lt_succ_self _)

/-- An end tag closes an element if it can. -/
theorem close_eq_append_iff (tree : Tree) (name raw : String) (stop : Nat) :
    tree.close name raw stop = tree.append (.verbatim raw) ↔
      ∀ element ∈ tree.opened, element.tag.isNamed name = false := by
  rw [close]
  split
  · rename_i hOpen
    have hLess := closeThrough_opened_length raw stop tree.roots [] hOpen
    obtain ⟨element, hElement, hNamed⟩ := List.any_eq_true.mp hOpen
    constructor
    · intro hSame
      rw [hSame, append_opened_length] at hLess
      exact absurd hLess (Nat.lt_irrefl _)
    · intro hNone
      rw [hNone element hElement] at hNamed
      cases hNamed
  · rename_i hNone
    simpa using hNone

/-- A run reads a first part of its lexemes before the others. -/
theorem readAll_of_append {tree final : Tree} {markLength position : Nat} {left right : List Lexeme}
    (h : tree.readAll markLength position (left ++ right) = .ok final) :
    ∃ next, tree.readAll markLength position left = .ok next ∧
      next.readAll markLength (position + Text.byteLength (left.flatMap Lexeme.source)) right =
        .ok final := by
  induction left generalizing tree position with
  | nil => exact ⟨tree, rfl, h⟩
  | cons lexeme left ih =>
      obtain ⟨middle, hMiddle, hFinal⟩ := bind_eq_ok.mp h
      obtain ⟨next, hNext, hRest⟩ := ih hFinal
      refine ⟨next, bind_eq_ok.mpr ⟨middle, hMiddle, hNext⟩, ?_⟩
      rwa [List.flatMap_cons, Text.byteLength_append, ← Nat.add_assoc]

end Tree

/-- The run that ends with these nodes reads an end tag behind some of its lexemes and in front of the
others. It is passed through exactly if no element of its name is open there. -/
def ReadsEndTag (nodes : List Node) (before : List Lexeme) (name raw : List Char)
    (behind : List Lexeme) : Prop :=
  ∃ tree next final position stop, Tree.empty.readAll 0 0 before = .ok tree ∧
    tree.extend (.endTag name) 0 ⟨position, stop⟩ (String.ofList raw) = .ok next ∧
    next.readAll 0 stop behind = .ok final ∧ nodes = final.finish ∧
    (next = tree.append (.verbatim (String.ofList raw)) ↔
      ∀ element ∈ tree.opened, element.tag.isNamed (String.ofList name) = false)

theorem readsEndTag_of_readAll {before behind : List Lexeme} {name raw : List Char} {final : Tree}
    (h : Tree.empty.readAll 0 0 (before ++ ⟨.endTag name, raw⟩ :: behind) = .ok final) :
    ReadsEndTag final.finish before name raw behind := by
  obtain ⟨tree, hTree, hRest⟩ := Tree.readAll_of_append h
  obtain ⟨next, hNext, hFinal⟩ := bind_eq_ok.mp hRest
  refine ⟨tree, next, final, _, _, hTree, hNext, hFinal, rfl, ?_⟩
  obtain rfl := Except.ok.inj hNext
  exact Tree.close_eq_append_iff tree _ _ _

/-- A picture that takes the place of an element keeps everything that was in it, if there was
nothing. -/
theorem children_of_stage_picture {converter : Converter} {element picture : Element}
    {imports later : Imports} {pending : Pending}
    (hNone : converter.isCandidate element.tag = true → element.children = [])
    (h : converter.stage element imports = .ok (.picture picture pending, later)) :
    ∃ image, picture.children = [.element image element.children] := by
  rcases Converter.stage_ok h with ⟨-, hStep, -⟩ | ⟨hCandidate, plan, image, -, -, hStep | hStep⟩
  · cases hStep
  · cases hStep
    exact ⟨image, by rw [hNone hCandidate, Converter.skeleton]⟩
  · cases hStep

/-- Siblings and elements that were read have their shape, an end tag closes an element if it can,
and no candidate has children that a picture would lose. -/
theorem parse_shape (source : String) (nodes : List Node) (hMark : ¬ BeginsWithMark source)
    (h : parse source = .ok nodes) :
    AreShaped [] nodes ∧
      (∀ element ∈ elementsAll nodes, element.tag.IsShaped element.children) ∧
      (∀ before name raw behind,
        (Lexeme.scanAll source.toList).1 = before ++ ⟨.endTag name, raw⟩ :: behind →
          ReadsEndTag nodes before name raw behind) ∧
      ∀ converter : Converter, ∀ element ∈ elementsAll nodes,
        (converter.isCandidate element.tag = true → element.children = []) ∧
        ∀ imports picture pending later,
          converter.stage element imports = .ok (.picture picture pending, later) →
            ∃ image, picture.children = [.element image element.children] := by
  have hSpelled := Lexeme.scanAll_isSpelled source.toList
  obtain ⟨-, hStands⟩ := parse_scanned hMark h
  obtain ⟨-, tree, rfl, hTree⟩ := readAll_of_parse hMark h
  have hShaped : ∀ element ∈ elementsAll tree.finish, element.tag.IsShaped element.children := by
    intro element hElement
    obtain ⟨place, hRead⟩ := readAt_of_mem_elementsAll 0 tree.finish hStands element hElement
    exact hRead.isShaped hSpelled
  refine ⟨Tree.finish_areShaped (Tree.readAll_isShaped hSpelled Tree.empty_isShaped hTree), hShaped,
    fun before name raw behind hScan => ?_, fun converter element hElement => ?_⟩
  · rw [hScan] at hTree
    exact readsEndTag_of_readAll hTree
  · have hNone : converter.isCandidate element.tag = true → element.children = [] :=
      fun hCandidate => (hShaped element hElement).children_eq_nil
        (Converter.candidate_isVoid hCandidate)
    exact ⟨hNone, fun _ _ _ _ => children_of_stage_picture hNone⟩

/-- Text around a reference, an element that ends with its parent, and an end tag that closes
nothing. -/
theorem parse_shape_soup :
    let source := "a&amp;b<ul><LI>c<img src=x modernize></ul ></p>"
    let before := (Lexeme.scanAll "a&amp;b<ul><LI>c<img src=x modernize></ul >".toList).1
    ¬ BeginsWithMark source ∧ ∃ nodes, parse source = .ok nodes ∧ AreShaped [] nodes ∧
      (∀ element ∈ elementsAll nodes, element.tag.IsShaped element.children) ∧
      ((Lexeme.scanAll source.toList).1 = before ++ [⟨.endTag ['p'], "</p>".toList⟩] ∧
        ReadsEndTag nodes before ['p'] "</p>".toList []) ∧
      ∀ converter : Converter, ∀ element ∈ elementsAll nodes,
        (converter.isCandidate element.tag = true → element.children = []) ∧
        ∀ imports picture pending later,
          converter.stage element imports = .ok (.picture picture pending, later) →
            ∃ image, picture.children = [.element image element.children] := by
  intro source before
  have hMark : ¬ BeginsWithMark source := by decide
  have hScan : (Lexeme.scanAll source.toList).1 =
      before ++ [⟨.endTag ['p'], "</p>".toList⟩] := by decide +kernel
  obtain ⟨nodes, hParse⟩ := isOk_iff.mp (by decide +kernel : (parse source).isOk = true)
  obtain ⟨hShaped, hTags, hEndTags, hCandidates⟩ := parse_shape source nodes hMark hParse
  exact ⟨hMark, nodes, hParse, hShaped, hTags, ⟨hScan, hEndTags before _ _ [] hScan⟩, hCandidates⟩

end ResponsiveImages.Markup
