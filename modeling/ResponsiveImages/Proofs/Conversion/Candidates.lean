import ResponsiveImages.Proofs.Conversion.OneShotWalk
import ResponsiveImages.Proofs.Markup.RoundTrip
import ResponsiveImages.Proofs.Markup.Splicing
import ResponsiveImages.Template

/-! What the compiler changes in a template. An image that was read has no children and no end tag,
so that a candidate is one start tag. Only the texts of these tags are replaced, and everything else
is written as it was read, however badly it is nested. -/
namespace ResponsiveImages.Markup

open Text (byteLength)

mutual

/-- The elements in a node, each one in front of those in it. -/
def Node.elements : Node → List Element
  | .text _ => []
  | .verbatim _ => []
  | .element tag children => ⟨tag, children⟩ :: elementsAll children

/-- The elements in several nodes, in the order of the text. -/
def elementsAll : List Node → List Element
  | [] => []
  | node :: nodes => node.elements ++ elementsAll nodes

end

/-- The element is no more than a start tag, which stands at the span of the element in a text that
begins at the position. -/
def Element.IsTagIn (position : Nat) (cs : List Char) (element : Element) : Prop :=
  element.children = [] ∧ ∃ raw before after, cs = before ++ raw.toList ++ after ∧ raw ≠ "" ∧
    element.tag.raw = some ⟨raw, none⟩ ∧
    element.tag.span = some ⟨position + byteLength before,
      position + byteLength before + byteLength raw.toList⟩

theorem Element.IsTagIn.extend {position : Nat} (left : List Char) {cs : List Char}
    {element : Element} (h : element.IsTagIn (position + byteLength left) cs)
    (right : List Char) : element.IsTagIn position (left ++ cs ++ right) := by
  obtain ⟨hChildren, raw, before, after, hText, hSome, hRaw, hSpan⟩ := h
  refine ⟨hChildren, raw, left ++ before, after ++ right, ?_, hSome, hRaw, ?_⟩
  · simp [hText]
  · simp [hSpan, Nat.add_assoc]

end ResponsiveImages.Markup

namespace ResponsiveImages.Converter

open Markup
open Text (byteLength)

/-- The candidates among the nodes, in the order of the text. -/
def candidates (converter : Converter) (nodes : List Node) : List Element :=
  (elementsAll nodes).filter (converter.isCandidate ·.tag)

/-- The imports after the conversion of elements one after the other. -/
def importsAfter (converter : Converter) (imports : Imports) : List Element → Imports
  | [] => imports
  | element :: elements =>
    converter.importsAfter (converter.transform element imports).imports elements

/-- What is written at the span of each element: what becomes of it with the imports that the
elements in front of it left. -/
def edits (converter : Converter) (style : ImportStyle) (imports : Imports) :
    List Element → List (Span × String)
  | [] => []
  | element :: elements =>
    let run := converter.transform element imports
    let later := converter.edits style run.imports elements
    match element.tag.span with
    | some span => (span, run.left.toNode.write style) :: later
    | none => later

theorem importsAfter_append (converter : Converter) (imports : Imports)
    (early late : List Element) :
    converter.importsAfter imports (early ++ late) =
      converter.importsAfter (converter.importsAfter imports early) late := by
  induction early generalizing imports with
  | nil => rfl
  | cons element elements ih => exact ih _

theorem edits_append (converter : Converter) (style : ImportStyle) (imports : Imports)
    (early late : List Element) :
    converter.edits style imports (early ++ late) =
      converter.edits style imports early ++
        converter.edits style (converter.importsAfter imports early) late := by
  induction early generalizing imports with
  | nil => rfl
  | cons element elements ih =>
      simp only [List.cons_append, edits, importsAfter, ih]
      split <;> rfl

theorem edits_spans (converter : Converter) (style : ImportStyle) (imports : Imports)
    (elements : List Element) :
    (converter.edits style imports elements).map Prod.fst =
      elements.filterMap (·.tag.span) := by
  induction elements generalizing imports with
  | nil => rfl
  | cons element elements ih =>
      cases hSpan : element.tag.span <;> simp [edits, hSpan, ih]

/-- What is no candidate is not changed. -/
theorem transform_of_not_candidate {converter : Converter} (element : Element)
    (imports : Imports) (h : converter.isCandidate element.tag = false) :
    converter.transform element imports = ⟨.ok .unchanged, element, imports, []⟩ := by
  simp [transform, stage_of_not_candidate imports h]

/-- At an element without children a walk has nothing to do but to convert it. -/
theorem walk_childless (converter : Converter) (imports : Imports) (tag : Tag) :
    (converter.walk imports (.element tag [])).left =
        (converter.transform ⟨tag, []⟩ imports).left.toNode ∧
      (converter.walk imports (.element tag [])).imports =
        (converter.transform ⟨tag, []⟩ imports).imports := by
  rw [walk_element]
  dsimp only
  split
  · exact ⟨rfl, rfl⟩
  · rename_i hOutcome
    have hChildren := transform_children hOutcome (Or.inl rfl)
    simp [hChildren, walkAll_nil, Walk.below, Element.toNode]
  · rename_i hOutcome
    have hChildren := transform_children hOutcome (Or.inr rfl)
    simp [hChildren, walkAll_nil, Walk.below, Element.toNode]
  · exact ⟨rfl, rfl⟩

/-- A text that begins at the position is turned into another one, in which only the candidates have
changed, and the imports are turned into later ones. -/
structure Rewrites (converter : Converter) (style : ImportStyle) (position : Nat)
    (imports later : Imports) (candidates : List Element) (cs written : List Char) : Prop where
  later_eq : later = converter.importsAfter imports candidates
  tags : ∀ candidate ∈ candidates, candidate.IsTagIn position cs
  splices : Splices position cs (converter.edits style imports candidates) written

namespace Rewrites

variable {converter : Converter} {style : ImportStyle} {position : Nat}

/-- Text without candidates stays as it is. -/
theorem text (imports : Imports) (cs : List Char) :
    Rewrites converter style position imports imports [] cs cs :=
  ⟨rfl, List.forall_mem_nil _, .rest position cs⟩

theorem append {imports middle last : Imports} {early late : List Element}
    {left leftWritten right rightWritten : List Char}
    (hLeft : Rewrites converter style position imports middle early left leftWritten)
    (hRight : Rewrites converter style (position + byteLength left) middle last late right
      rightWritten) :
    Rewrites converter style position imports last (early ++ late) (left ++ right)
      (leftWritten ++ rightWritten) where
  later_eq := by rw [hRight.later_eq, hLeft.later_eq, importsAfter_append]
  tags candidate hMem := by
    rcases List.mem_append.mp hMem with hEarly | hLate
    · have hTag : candidate.IsTagIn (position + byteLength []) left := hLeft.tags candidate hEarly
      exact hTag.extend [] right
    · simpa using (hRight.tags candidate hLate).extend left []
  splices := by
    rw [edits_append, ← hLeft.later_eq]
    exact hLeft.splices.append hRight.splices

end Rewrites

section

variable {converter : Converter} {lexemes : List Lexeme} (style : ImportStyle)

theorem candidate_isVoid {tag : Tag} (h : converter.isCandidate tag = true) :
    isVoidName tag.name = true := by
  have hNamed := ((converter.isCandidate_iff tag).mp h).1
  rw [Tag.isNamed, Text.equalIgnoringCase_comm] at hNamed
  simp [isVoidName, voidNames, hNamed]

/-- A candidate is its start tag, and what becomes of it is written in the place of this tag. -/
theorem candidate_rewrites {imports : Imports} {position : Nat} {tag : Tag} {children : List Node}
    (hSome : ∀ lexeme ∈ lexemes, lexeme.source ≠ [])
    (hRead : tag.ReadAt lexemes 0 position children)
    (hCandidate : converter.isCandidate tag = true) :
    Rewrites converter style position imports
      (converter.walk imports (.element tag children)).imports [⟨tag, children⟩]
      (Node.element tag children).source
      ((converter.walk imports (.element tag children)).left.write style).toList := by
  obtain ⟨rfl, begins⟩ := hRead.of_void (candidate_isVoid hCandidate)
  obtain ⟨raw, hRaw, hSpan⟩ := begins.raw_span
  have hStart : tag.startSource = raw.toList := by simp [Tag.startSource, hRaw]
  have hSource : (Node.element tag []).source = raw.toList := by
    simp [Node.source, sourceAll, hStart, begins.stopSource_eq]
  have hNotEmpty : raw ≠ "" := by
    have hNe := begins.startSource_ne_nil hSome
    rw [hStart] at hNe
    exact fun hEmpty => hNe (by rw [hEmpty]; rfl)
  obtain ⟨hLeft, hImports⟩ := walk_childless converter imports tag
  rw [hLeft, hImports, hSource]
  refine ⟨rfl, ?_, ?_⟩
  · rw [List.forall_mem_singleton]
    exact ⟨rfl, raw, [], [], by simp, hNotEmpty, hRaw, by simp [hSpan]⟩
  · have hText : raw.toList = [] ++ raw.toList ++ [] := by simp
    simp only [edits, hSpan]
    exact .edit hText rfl rfl (.rest _ []) (by simp)

mutual

/-- A walk that ends well replaces the candidates in a node and nothing else. -/
theorem node_rewrites (hSome : ∀ lexeme ∈ lexemes, lexeme.source ≠ []) (position : Nat)
    (imports : Imports) : ∀ (node : Node), node.StandsAt lexemes 0 position →
      ∀ encounters, (converter.walk imports node).result = .ok encounters →
      Rewrites converter style position imports (converter.walk imports node).imports
        (node.elements.filter (converter.isCandidate ·.tag)) node.source
        ((converter.walk imports node).left.write style).toList
  | .text content, _, _, _ => by
      rw [walk]
      exact .text imports content.toList
  | .verbatim content, _, _, _ => by
      rw [walk]
      exact .text imports content.toList
  | .element tag children, ⟨hRead, hChildren⟩, encounters, hResult => by
      cases hCandidate : converter.isCandidate tag with
      | true =>
          obtain ⟨rfl, -⟩ := hRead.of_void (candidate_isVoid hCandidate)
          simpa [Node.elements, elementsAll, hCandidate] using
            candidate_rewrites style hSome hRead hCandidate
      | false =>
          have hWalk : converter.walk imports (.element tag children) =
              (converter.walkAll imports children).below ⟨tag, .unchanged, ⟨tag, children⟩⟩ [] := by
            rw [walk_element, transform_of_not_candidate ⟨tag, children⟩ imports hCandidate]
          -- The tag keeps its text, so that only the children can be written in another way.
          rw [hWalk] at hResult ⊢
          obtain ⟨inner, hInner, -⟩ := map_eq_ok.mp hResult
          have hFront : Rewrites converter style position imports imports [] tag.startSource
              tag.startSource := .text imports tag.startSource
          have hInside := nodes_rewrite hSome (position + byteLength tag.startSource) imports
            children hChildren inner hInner
          have hAll := (hFront.append hInside).append (.text _ tag.stopSource)
          simpa [Node.elements, hCandidate, candidates, Node.source, Walk.below, Node.write,
            hRead.writeStart_eq style, hRead.writeEnd_eq] using hAll

theorem nodes_rewrite (hSome : ∀ lexeme ∈ lexemes, lexeme.source ≠ []) (position : Nat)
    (imports : Imports) : ∀ (nodes : List Node), StandAt lexemes 0 position nodes →
      ∀ encounters, (converter.walkAll imports nodes).result = .ok encounters →
      Rewrites converter style position imports (converter.walkAll imports nodes).imports
        (converter.candidates nodes) (sourceAll nodes)
        (writeAll style (converter.walkAll imports nodes).left).toList
  | [], _, _, _ => by
      rw [walkAll_nil]
      exact .text imports []
  | node :: nodes, ⟨hNode, hNodes⟩, encounters, hResult => by
      rw [walkAll_cons] at hResult ⊢
      cases hFirst : (converter.walk imports node).result with
      | error error => simp [hFirst] at hResult
      | ok early =>
          simp only [hFirst] at hResult ⊢
          obtain ⟨late, hLate, -⟩ := map_eq_ok.mp hResult
          have hNodeRewrites := node_rewrites hSome position imports node hNode early hFirst
          have hNodesRewrite := nodes_rewrite hSome (position + byteLength node.source) _ nodes
            hNodes late hLate
          simpa [candidates, elementsAll, sourceAll, writeAll] using
            hNodeRewrites.append hNodesRewrite

end

end

/-- Compiling a template without a byte order mark replaces the bytes of its candidates. Each of
these is a start tag with nothing in it, which stands in the source at the span of the candidate,
and the spans follow each other. In the place of each one stands what becomes of the candidate, with the
imports that the candidates in front of it left. -/
theorem compile_splices (converter : Converter) (style : ImportStyle) (source : String)
    (compiled : Template.Compiled) (hMark : ¬ BeginsWithMark source)
    (h : (Template.compile converter style source).value = .ok compiled) :
    ∃ nodes, parse source = .ok nodes ∧
      (∀ candidate ∈ converter.candidates nodes, candidate.children = [] ∧
        ∃ span raw, candidate.tag.span = some span ∧ span.start < span.stop ∧
          candidate.tag.raw = some ⟨raw, none⟩ ∧ slice span source.toList = some raw.toList) ∧
      ((converter.candidates nodes).filterMap (·.tag.span)).Pairwise
        (fun earlier later => earlier.stop ≤ later.start) ∧
      splice source.toList
          (converter.edits style Imports.empty (converter.candidates nodes)) =
        some compiled.markup.toList := by
  obtain ⟨nodes, hParse, hResult, hMarkup, -, -⟩ := Template.compile_eq_ok h
  have hWalk := visitAll_refines_walkAll converter Imports.empty nodes
  obtain ⟨encounters, hEncounters, -⟩ := hWalk.counted hResult
  obtain ⟨cut, lost, hSource, hLost, hSome, hStands⟩ := parse_stands hParse
  rw [behindMark_of_not_beginsWithMark hMark] at hLost hStands
  rw [Text.byteLength_eq_zero.mp hLost, List.append_nil] at hSource
  have hRewrites := nodes_rewrite style hSome 0 Imports.empty nodes hStands encounters hEncounters
  rw [← hSource, ← hWalk.left, ← hMarkup] at hRewrites
  refine ⟨nodes, hParse, fun candidate hCandidate => ?_, ?_, hRewrites.splices.spliceFrom_eq⟩
  · obtain ⟨hChildren, raw, before, after, hText, hSome, hRaw, hSpan⟩ :=
      hRewrites.tags candidate hCandidate
    rw [Nat.zero_add] at hSpan
    have hLength : byteLength raw.toList ≠ 0 := by
      simpa [String.toList_eq_nil_iff] using hSome
    refine ⟨hChildren, _, raw, hSpan, ?_, hRaw, ?_⟩
    · dsimp only
      omega
    · rw [hText, slice_append]
  · rw [← edits_spans converter style Imports.empty]
    exact hRewrites.splices.pairwise

/-- Two images in markup that is badly nested, one of them in place and the other in a picture. -/
theorem compile_splices_nested :
    let converter := Converter.ofConfig Config.empty
    let source := "<p>a &amp; <IMG src='a.png' modernize='onlyUseImg'><b></p>" ++
      "<img src=\"b.jpg\" modernize/></b>"
    ∃ compiled, ¬ BeginsWithMark source ∧
      (Template.compile converter .require source).value = .ok compiled ∧
      ∃ nodes, parse source = .ok nodes ∧ (converter.candidates nodes).length = 2 ∧
        (∀ candidate ∈ converter.candidates nodes, candidate.children = [] ∧
          ∃ span raw, candidate.tag.span = some span ∧ span.start < span.stop ∧
            candidate.tag.raw = some ⟨raw, none⟩ ∧ slice span source.toList = some raw.toList) ∧
        ((converter.candidates nodes).filterMap (·.tag.span)).Pairwise
          (fun earlier later => earlier.stop ≤ later.start) ∧
        splice source.toList
            (converter.edits .require Imports.empty (converter.candidates nodes)) =
          some compiled.markup.toList := by
  intro converter source
  have hMark : ¬ BeginsWithMark source := by decide
  obtain ⟨compiled, hCompiled⟩ := isOk_iff.mp
    (by decide +kernel : (Template.compile converter .require source).value.isOk = true)
  obtain ⟨nodes, hParse, hSplices⟩ :=
    compile_splices converter .require source compiled hMark hCompiled
  have hTwo : (parse source).toOption.map (fun nodes => (converter.candidates nodes).length) =
      some 2 := by
    decide +kernel
  rw [hParse] at hTwo
  exact ⟨compiled, hMark, hCompiled, nodes, hParse, Option.some.inj hTwo, hSplices⟩

end ResponsiveImages.Converter
