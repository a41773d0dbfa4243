import ResponsiveImages.Proofs.Conversion.ParsedTemplates

/-! Elements without a tree. Start tags are read one by one, and where an element stands in the tree
depends on everything in front of it; but the elements that never stay open are found in the tree in
the order in which their tags stand in the text. -/
namespace ResponsiveImages.Markup

open Text (byteLength)

/-- The tag that a lexeme at the position begins an element with, if it does. -/
def Lexeme.startTag? (markLength position : Nat) (lexeme : Lexeme) : Option Tag :=
  lexeme.token.opens.bind fun (closing, content) =>
    (readTag closing position (markLength + position + 1)
      ⟨position, position + byteLength lexeme.source⟩ (String.ofList lexeme.source)
      content).toOption

/-- The start tags of lexemes that stand one behind the other, the first one at the position. -/
def startTags (markLength position : Nat) : List Lexeme → List Tag
  | [] => []
  | lexeme :: lexemes =>
    (lexeme.startTag? markLength position).toList ++
      startTags markLength (position + byteLength lexeme.source) lexemes

theorem Lexeme.startTag?_of_readTag {lexeme : Lexeme} {markLength position : Nat}
    {closing : Closing} {content : List Char} {tag : Tag}
    (hOpens : lexeme.token.opens = some (closing, content))
    (h : readTag closing position (markLength + position + 1)
      ⟨position, position + byteLength lexeme.source⟩ (String.ofList lexeme.source) content =
        .ok tag) :
    lexeme.startTag? markLength position = some tag := by
  simp [startTag?, hOpens, h, Except.toOption]

theorem Lexeme.beginsAt_of_startTag? {lexeme : Lexeme} {markLength position : Nat} {tag : Tag}
    (h : lexeme.startTag? markLength position = some tag) :
    tag.BeginsAt [lexeme] markLength position ∧ tag.startSource = lexeme.source := by
  obtain ⟨⟨closing, content⟩, hOpens, hTag⟩ := Option.bind_eq_some_iff.mp h
  cases hRead : readTag closing position (markLength + position + 1)
      ⟨position, position + byteLength lexeme.source⟩ (String.ofList lexeme.source) content with
  | error error => simp [hRead, Except.toOption] at hTag
  | ok read =>
      simp only [hRead, Except.toOption, Option.some.injEq] at hTag
      subst hTag
      obtain ⟨hBegins, -, hStart⟩ :=
        Tree.beginsAt_of_readTag (List.mem_singleton_self lexeme) hOpens hRead
      exact ⟨hBegins, hStart⟩

/-- Each start tag stands in the text at its span. -/
theorem isTagIn_of_mem_startTags {position : Nat} {lexemes : List Lexeme}
    (hSome : ∀ lexeme ∈ lexemes, lexeme.source ≠ []) :
    ∀ tag ∈ startTags 0 position lexemes,
      (Element.mk tag []).IsTagIn position (lexemes.flatMap Lexeme.source) := by
  induction lexemes generalizing position with
  | nil => exact List.forall_mem_nil _
  | cons lexeme lexemes ih =>
      obtain ⟨hFirst, hRest⟩ := List.forall_mem_cons.mp hSome
      refine List.forall_mem_append.mpr ⟨fun tag hTag => ?_, fun tag hTag => ?_⟩
      · obtain ⟨hBegins, hStart⟩ :=
          Lexeme.beginsAt_of_startTag? (Option.mem_toList.mp hTag)
        obtain ⟨raw, hRaw, hSpan⟩ := hBegins.raw_span
        have hText : raw.toList = lexeme.source := by simpa [Tag.startSource, hRaw] using hStart
        refine ⟨rfl, raw, [], lexemes.flatMap Lexeme.source, by simp [hText], ?_, hRaw,
          by simpa using hSpan⟩
        rintro rfl
        exact hFirst hText.symm
      · have hIn := (ih hRest tag hTag).extend lexeme.source []
        rwa [List.append_nil] at hIn

namespace Tree

section

variable (p : Tag → Bool)

/-- The elements of a kind: those in the roots, and those in the children of every open element from
the outermost to the innermost. The open elements themselves are left out. -/
def foundFrom (roots : List Node) : List Element → List Element
  | [] => (elementsAll roots.reverse).filter (p ·.tag)
  | innermost :: outer =>
    foundFrom roots outer ++ (elementsAll innermost.children.reverse).filter (p ·.tag)

def found (tree : Tree) : List Element :=
  foundFrom p tree.roots tree.opened

end

/-- Every open element has a name that waits for an end tag. -/
def OpensNoVoid (tree : Tree) : Prop :=
  ∀ element ∈ tree.opened, isVoidName element.tag.name = false

variable {p : Tag → Bool}

theorem empty_opensNoVoid : Tree.empty.OpensNoVoid := List.forall_mem_nil _

theorem empty_found : Tree.empty.found p = [] := rfl

theorem append_opensNoVoid {tree : Tree} (node : Node) (h : tree.OpensNoVoid) :
    (tree.append node).OpensNoVoid := by
  rcases tree with ⟨roots, _ | ⟨innermost, outer⟩⟩
  · exact h
  · obtain ⟨hFirst, hRest⟩ := List.forall_mem_cons.mp h
    exact List.forall_mem_cons.mpr ⟨hFirst, hRest⟩

theorem append_found (tree : Tree) (node : Node) :
    (tree.append node).found p = tree.found p ++ node.elements.filter (p ·.tag) := by
  rcases tree with ⟨roots, _ | ⟨innermost, outer⟩⟩ <;>
    simp [append, found, foundFrom, elementsAll_append, elementsAll]

/-- An element that is complete with its start tag. -/
theorem append_leaf_found {tree : Tree} (tag : Tag) (h : tree.OpensNoVoid) :
    (tree.append (.element tag [])).OpensNoVoid ∧
      (tree.append (.element tag [])).found p =
        tree.found p ++ ([tag].filter p).map (Element.mk · []) := by
  refine ⟨append_opensNoVoid _ h, ?_⟩
  cases hTag : p tag <;> simp [append_found, Node.elements, elementsAll, hTag]

theorem joinText_elementsAll (content : String) (nodes : List Node) :
    elementsAll (joinText content nodes).reverse = elementsAll nodes.reverse := by
  unfold joinText
  split <;> simp [elementsAll_append, elementsAll, Node.elements]

theorem appendText_found (tree : Tree) (content : String) :
    (tree.appendText content).found p = tree.found p := by
  rcases tree with ⟨roots, _ | ⟨innermost, outer⟩⟩ <;>
    simp [appendText, found, foundFrom, joinText_elementsAll]

theorem appendText_opensNoVoid {tree : Tree} (content : String) (h : tree.OpensNoVoid) :
    (tree.appendText content).OpensNoVoid := by
  rcases tree with ⟨roots, _ | ⟨innermost, outer⟩⟩
  · exact h
  · obtain ⟨hFirst, hRest⟩ := List.forall_mem_cons.mp h
    exact List.forall_mem_cons.mpr ⟨hFirst, hRest⟩

/-- An element of another kind that ends stands for the elements in it. -/
theorem finished_found {tag : Tag} (children : List Node) (h : p tag = false) :
    (finished ⟨tag, children⟩).elements.filter (p ·.tag) =
      (elementsAll children.reverse).filter (p ·.tag) := by
  simp [finished, Node.elements, h]

section

variable (hVoid : ∀ tag, p tag = true → isVoidName tag.name = true)
include hVoid

theorem eq_false_of_not_void {tag : Tag} (h : isVoidName tag.name = false) : p tag = false := by
  rw [← Bool.not_eq_true]
  intro hTag
  simp [hVoid tag hTag] at h

/-- However many elements end with an end tag, the order of the elements in them stays the same. The
induction is on the open elements, and what ended last stands behind them. -/
theorem closeThrough_found (name raw : String) (stop : Nat) {roots pending : List Node}
    {opened : List Element} (h : (⟨roots, opened⟩ : Tree).OpensNoVoid) :
    let tree := closeThrough name raw stop roots pending opened
    tree.OpensNoVoid ∧ tree.found p =
      foundFrom p roots opened ++ (elementsAll pending.reverse).filter (p ·.tag) := by
  induction opened generalizing pending with
  | nil => exact ⟨List.forall_mem_nil _, by
      simp [closeThrough, found, foundFrom, elementsAll_append]⟩
  | cons innermost outer ih =>
      obtain ⟨hFirst, hOuter⟩ := List.forall_mem_cons.mp h
      simp only [closeThrough]
      split
      · have hClosed : p (closedBy raw stop innermost.tag) = false :=
          eq_false_of_not_void hVoid hFirst
        refine ⟨append_opensNoVoid _ hOuter, ?_⟩
        rw [append_found, finished_found _ hClosed]
        simp [found, foundFrom, elementsAll_append]
      · obtain ⟨hOpened, hFound⟩ :=
          @ih [finished ⟨innermost.tag, pending ++ innermost.children⟩] hOuter
        refine ⟨hOpened, ?_⟩
        rw [hFound, List.reverse_singleton, elementsAll, elementsAll, List.append_nil,
          finished_found _ (eq_false_of_not_void hVoid hFirst)]
        simp [foundFrom, elementsAll_append]

theorem close_found (name raw : String) (stop : Nat) {tree : Tree} (h : tree.OpensNoVoid) :
    (tree.close name raw stop).OpensNoVoid ∧
      (tree.close name raw stop).found p = tree.found p := by
  unfold close
  split
  · obtain ⟨hOpened, hFound⟩ := @closeThrough_found p hVoid name raw stop tree.roots [] tree.opened h
    exact ⟨hOpened, by simpa [elementsAll, found] using hFound⟩
  · exact ⟨append_opensNoVoid _ h, by simp [append_found, Node.elements]⟩

theorem finishFrom_found {roots pending : List Node} {opened : List Element}
    (h : (⟨roots, opened⟩ : Tree).OpensNoVoid) :
    (elementsAll (finishFrom roots pending opened).reverse).filter (p ·.tag) =
      foundFrom p roots opened ++ (elementsAll pending.reverse).filter (p ·.tag) := by
  induction opened generalizing pending with
  | nil => simp [finishFrom, foundFrom, elementsAll_append]
  | cons innermost outer ih =>
      obtain ⟨hFirst, hOuter⟩ := List.forall_mem_cons.mp h
      rw [finishFrom, ih hOuter, List.reverse_singleton, elementsAll, elementsAll, List.append_nil,
        finished_found _ (eq_false_of_not_void hVoid hFirst)]
      simp [foundFrom, elementsAll_append]

theorem finish_found {tree : Tree} (h : tree.OpensNoVoid) :
    (elementsAll tree.finish).filter (p ·.tag) = tree.found p := by
  have hNone := @finishFrom_found p hVoid tree.roots [] tree.opened h
  simpa [finish, found, elementsAll] using hNone

/-- A lexeme adds the element that it begins, if this is one of the kind. -/
theorem extend_found {tree final : Tree} {lexeme : Lexeme} {markLength position : Nat}
    (hTree : tree.OpensNoVoid)
    (h : tree.extend lexeme.token markLength ⟨position, position + byteLength lexeme.source⟩
      (String.ofList lexeme.source) = .ok final) :
    final.OpensNoVoid ∧ final.found p = tree.found p ++
      ((lexeme.startTag? markLength position).toList.filter p).map (Element.mk · []) := by
  cases hToken : lexeme.token with
  | text =>
      simp only [extend, hToken, Except.ok.injEq] at h
      subst h
      exact ⟨appendText_opensNoVoid _ hTree,
        by simp [appendText_found, Lexeme.startTag?, hToken, Token.opens]⟩
  | verbatim =>
      simp only [extend, hToken, Except.ok.injEq] at h
      subst h
      exact ⟨append_opensNoVoid _ hTree,
        by simp [append_found, Node.elements, Lexeme.startTag?, hToken, Token.opens]⟩
  | endTag name =>
      simp only [extend, hToken, Except.ok.injEq] at h
      subst h
      obtain ⟨hOpened, hFound⟩ := close_found hVoid (String.ofList name)
        (String.ofList lexeme.source) (position + byteLength lexeme.source) hTree
      exact ⟨hOpened, by simp [hFound, Lexeme.startTag?, hToken, Token.opens]⟩
  | selfClosingTag content =>
      simp only [extend, hToken] at h
      obtain ⟨tag, hRead, hFinal⟩ := bind_eq_ok.mp h
      cases hFinal
      rw [Lexeme.startTag?_of_readTag (by rw [hToken]; rfl) hRead]
      exact append_leaf_found tag hTree
  | startTag content =>
      simp only [extend, hToken] at h
      split at h
      · rename_i hName
        obtain ⟨tag, hRead, hFinal⟩ := bind_eq_ok.mp h
        cases hFinal
        rw [Lexeme.startTag?_of_readTag (by simp [hToken, Token.opens, hName]) hRead]
        exact append_leaf_found tag hTree
      · rename_i hName
        obtain ⟨tag, hRead, hFinal⟩ := bind_eq_ok.mp h
        cases hFinal
        have hOpens : lexeme.token.opens = some (.endTag, content) := by
          simp [hToken, Token.opens, hName]
        obtain ⟨hBegins, hClosing, -⟩ :=
          beginsAt_of_readTag (List.mem_singleton_self lexeme) hOpens hRead
        have hTag := hBegins.not_void hClosing
        rw [Lexeme.startTag?_of_readTag hOpens hRead]
        refine ⟨List.forall_mem_cons.mpr ⟨hTag, hTree⟩, ?_⟩
        simp [openTag, found, foundFrom, elementsAll, eq_false_of_not_void hVoid hTag]

theorem readAll_found {tree final : Tree} {lexemes : List Lexeme} {markLength position : Nat}
    (hTree : tree.OpensNoVoid)
    (h : tree.readAll markLength position lexemes = .ok final) :
    final.OpensNoVoid ∧ final.found p = tree.found p ++
      ((startTags markLength position lexemes).filter p).map (Element.mk · []) := by
  induction lexemes generalizing tree position with
  | nil =>
      cases h
      exact ⟨hTree, by simp [startTags]⟩
  | cons lexeme lexemes ih =>
      obtain ⟨next, hNext, hFinal⟩ := bind_eq_ok.mp h
      obtain ⟨hOpened, hFound⟩ := extend_found hVoid hTree hNext
      obtain ⟨hAll, hRest⟩ := ih hOpened hFinal
      exact ⟨hAll, by simp [hRest, hFound, startTags]⟩

end

/-- If all attributes can be read, all lexemes can be added. -/
theorem readAll_of_readable (markLength : Nat) (tree : Tree) (position : Nat)
    (lexemes : List Lexeme) (h : ∀ lexeme ∈ lexemes, lexeme.token.isReadable = true) :
    ∃ final, tree.readAll markLength position lexemes = .ok final := by
  induction lexemes generalizing tree position with
  | nil => exact ⟨tree, rfl⟩
  | cons lexeme lexemes ih =>
      obtain ⟨hFirst, hRest⟩ := List.forall_mem_cons.mp h
      rcases tree.extend_cases lexeme.token markLength
        ⟨position, position + byteLength lexeme.source⟩ (String.ofList lexeme.source) with
        ⟨-, next, hExtend⟩ | ⟨hUnreadable, -⟩
      · obtain ⟨final, hFinal⟩ := ih next (position + byteLength lexeme.source) hRest
        exact ⟨final, by simp [readAll, hExtend, hFinal, bind, Except.bind]⟩
      · rw [hFirst] at hUnreadable
        cases hUnreadable

end Tree

/-- Without a byte order mark the lexemes of a source are read as they were scanned. -/
theorem parse_of_readable {source : String} (hMark : ¬ BeginsWithMark source)
    (h : Readable source.toList) :
    ∃ tree, Tree.empty.readAll 0 0 (Lexeme.scanAll source.toList).1 = .ok tree ∧
      parse source = .ok tree.finish := by
  obtain ⟨hError, hReadable⟩ := h
  obtain ⟨tree, hTree⟩ := Tree.readAll_of_readable 0 Tree.empty 0 _ hReadable
  obtain ⟨unread, hSource, hEnd⟩ := Lexeme.scanAll_source source.toList
  have hExtend := Tree.extendAll_of_readAll unread hTree
  rw [hSource] at hExtend
  refine ⟨tree, hTree, parse_eq_ok_iff.mpr ?_⟩
  rw [behindMark_of_not_beginsWithMark hMark]
  exact ⟨tree, _, hExtend, hError, rfl⟩

theorem parse_ok_iff_readable {source : String} (hMark : ¬ BeginsWithMark source) :
    (∃ nodes, parse source = .ok nodes) ↔ Readable source.toList := by
  constructor
  · intro hNodes
    have hReadable := ((parse_ok_iff source).mp hNodes).2
    rwa [behindMark_of_not_beginsWithMark hMark] at hReadable
  · intro hReadable
    obtain ⟨tree, -, hParse⟩ := parse_of_readable hMark hReadable
    exact ⟨_, hParse⟩

/-- The text of a source that can be read is that of its lexemes. -/
theorem Readable.source_eq {cs : List Char} (h : Readable cs) :
    (Lexeme.scanAll cs).1.flatMap Lexeme.source = cs := by
  obtain ⟨unread, hSource, hEnd⟩ := Lexeme.scanAll_source cs
  rwa [hEnd h.1, List.append_nil] at hSource

end ResponsiveImages.Markup

namespace ResponsiveImages.Converter

open Markup

/-- The candidates among the start tags of a text without a byte order mark. -/
def candidateTags (converter : Converter) (cs : List Char) : List Tag :=
  (startTags 0 0 (Lexeme.scanAll cs).1).filter converter.isCandidate

variable {converter : Converter} {source : String} {nodes : List Node}

/-- The candidates of a template are found among its start tags, whatever the tree looks like. -/
theorem candidates_parse (hMark : ¬ BeginsWithMark source) (h : parse source = .ok nodes) :
    converter.candidates nodes =
      (converter.candidateTags source.toList).map (Element.mk · []) := by
  have hVoid : ∀ tag, converter.isCandidate tag = true → isVoidName tag.name = true :=
    fun _ => candidate_isVoid
  obtain ⟨tree, hTree, hParse⟩ :=
    parse_of_readable hMark ((parse_ok_iff_readable hMark).mp ⟨nodes, h⟩)
  rw [h, Except.ok.injEq] at hParse
  obtain ⟨hOpened, hFound⟩ := Tree.readAll_found hVoid Tree.empty_opensNoVoid hTree
  rw [candidates, hParse, Tree.finish_found hVoid hOpened, hFound, Tree.empty_found,
    List.nil_append, candidateTags]

/-- Each candidate is a start tag that stands in the source at its span. -/
theorem isTagIn_of_mem_candidates (hMark : ¬ BeginsWithMark source)
    (h : parse source = .ok nodes) :
    ∀ candidate ∈ converter.candidates nodes, candidate.IsTagIn 0 source.toList := by
  have hReadable := (parse_ok_iff_readable hMark).mp ⟨nodes, h⟩
  intro candidate hCandidate
  rw [candidates_parse hMark h] at hCandidate
  obtain ⟨tag, hTag, rfl⟩ := List.mem_map.mp hCandidate
  have hIn := isTagIn_of_mem_startTags (Lexeme.scanAll_ne_nil source.toList) tag
    (List.mem_filter.mp hTag).1
  rwa [hReadable.source_eq] at hIn

end ResponsiveImages.Converter
