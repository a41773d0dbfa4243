import ResponsiveImages.Proofs.Conversion.TextOrder
import ResponsiveImages.Proofs.Markup.Spelling

/-! Where elements stand. The span of an element begins with its start tag and ends with its end tag,
or with its start tag if no end tag closed it, whatever became of the elements inside and around
it. -/
namespace ResponsiveImages.Markup

open Text (byteLength)

section

variable {lexemes : List Lexeme}

/-- The element is a part of a text that begins at the position, and was read where it stands. -/
def Element.StandsIn (lexemes : List Lexeme) (position : Nat) (cs : List Char)
    (element : Element) : Prop :=
  ∃ before after, cs = before ++ element.toNode.source ++ after ∧
    element.toNode.StandsAt lexemes 0 (position + byteLength before)

theorem Element.StandsIn.extend {position : Nat} (left : List Char) {cs : List Char}
    {element : Element} (h : element.StandsIn lexemes (position + byteLength left) cs)
    (right : List Char) : element.StandsIn lexemes position (left ++ cs ++ right) := by
  obtain ⟨before, after, hText, hStands⟩ := h
  refine ⟨left ++ before, after ++ right, by simp [hText], ?_⟩
  rwa [Text.byteLength_append, ← Nat.add_assoc]

mutual

theorem standsIn_of_mem_elements (position : Nat) : ∀ node : Node,
    node.StandsAt lexemes 0 position → ∀ element ∈ node.elements,
      element.StandsIn lexemes position node.source
  | .text _, _ => List.forall_mem_nil _
  | .verbatim _, _ => List.forall_mem_nil _
  | .element tag children, hNode => by
      refine List.forall_mem_cons.mpr ⟨⟨[], [], by simp [Element.toNode], hNode⟩, ?_⟩
      intro element hElement
      exact (standsIn_of_mem_elementsAll _ children hNode.2 element hElement).extend
        tag.startSource tag.stopSource

/-- Every element is a part of the text of the nodes in which it is. -/
theorem standsIn_of_mem_elementsAll (position : Nat) : ∀ nodes : List Node,
    StandAt lexemes 0 position nodes → ∀ element ∈ elementsAll nodes,
      element.StandsIn lexemes position (sourceAll nodes)
  | [], _ => List.forall_mem_nil _
  | node :: nodes, ⟨hNode, hNodes⟩ => by
      refine List.forall_mem_append.mpr ⟨fun element hElement => ?_, fun element hElement => ?_⟩
      · have hStands := standsIn_of_mem_elements position node hNode element hElement
        exact Element.StandsIn.extend [] hStands (sourceAll nodes)
      · have hStands := standsIn_of_mem_elementsAll _ nodes hNodes element hElement
        simpa [sourceAll] using hStands.extend node.source []

end

/-- An element ends with its start tag, unless an end tag closed it. -/
theorem Tag.ReadAt.raw_span {position : Nat} {tag : Tag} {children : List Node}
    (h : tag.ReadAt lexemes 0 position children) :
    ∃ raw stop, tag.raw = some raw ∧ tag.span = some ⟨position, stop⟩ ∧
      (raw.stop = none → stop = position + byteLength raw.start.toList) ∧
      (raw.stop ≠ none → stop = position + byteLength (Node.element tag children).source) := by
  cases h with
  | leaf begins _ | unclosed begins _ =>
      obtain ⟨start, hRaw, hSpan⟩ := begins.raw_span
      exact ⟨_, _, hRaw, hSpan, fun _ => rfl, fun hClosed => absurd rfl hClosed⟩
  | @closed opened _ lexeme _ begins _ _ _ _ =>
      obtain ⟨start, hRaw, hSpan⟩ := begins.raw_span
      refine ⟨⟨start, some (String.ofList lexeme.source)⟩,
        position + byteLength (opened.startSource ++ sourceAll children ++ lexeme.source), ?_, ?_,
        fun hOpen => by simp at hOpen, fun _ => ?_⟩
      · simp [Tree.closedBy, Tag.editRaw, hRaw]
      · simp [Tree.closedBy, hSpan]
      · rw [Node.source, Tree.closedBy_startSource _ _ begins, Tree.closedBy_stopSource _ _ begins,
          String.toList_ofList]

theorem Tag.ReadAt.startSource_ne_nil {position : Nat} {tag : Tag} {children : List Node}
    (h : tag.ReadAt lexemes 0 position children) (hSome : ∀ lexeme ∈ lexemes, lexeme.source ≠ []) :
    tag.startSource ≠ [] := by
  cases h with
  | leaf begins _ | unclosed begins _ => exact begins.startSource_ne_nil hSome
  | closed begins _ _ _ _ =>
      rw [Tree.closedBy_startSource _ _ begins]
      exact begins.startSource_ne_nil hSome

section

variable (hSome : ∀ lexeme ∈ lexemes, lexeme.source ≠ [])
include hSome

/-- The element begins in the text that it is a part of, and not behind its end. -/
theorem Element.StandsIn.start {position : Nat} {cs : List Char} {element : Element}
    (h : element.StandsIn lexemes position cs) :
    ∀ span ∈ element.tag.span, position ≤ span.start ∧ span.start < position + byteLength cs := by
  obtain ⟨before, after, rfl, hRead, -⟩ := h
  obtain ⟨raw, stop, -, hSpan, -⟩ := hRead.raw_span
  have hStart := hRead.startSource_ne_nil hSome
  rw [Ne, ← Text.byteLength_eq_zero] at hStart
  intro span hMem
  rw [hSpan, Option.mem_some_iff] at hMem
  subst hMem
  simp only [toNode, Node.source, Text.byteLength_append]
  omega

/-- What stands in a text begins in it. -/
theorem start_of_mem_spans {position : Nat} {cs : List Char} {elements : List Element}
    (h : ∀ element ∈ elements, element.StandsIn lexemes position cs) :
    ∀ span ∈ elements.filterMap (·.tag.span),
      position ≤ span.start ∧ span.start < position + byteLength cs := by
  intro span hSpan
  obtain ⟨element, hElement, hOwn⟩ := List.mem_filterMap.mp hSpan
  exact (h element hElement).start hSome span hOwn

mutual

theorem pairwise_start_elements (position : Nat) : ∀ node : Node,
    node.StandsAt lexemes 0 position →
      (node.elements.filterMap (·.tag.span)).Pairwise
        fun earlier later => earlier.start < later.start
  | .text _, _ => .nil
  | .verbatim _, _ => .nil
  | .element tag children, hNode => by
      obtain ⟨raw, stop, -, hSpan, -⟩ := hNode.1.raw_span
      have hStart := hNode.1.startSource_ne_nil hSome
      rw [Ne, ← Text.byteLength_eq_zero] at hStart
      simp only [Node.elements, List.filterMap_cons, hSpan, List.pairwise_cons]
      refine ⟨fun later hLater => ?_, pairwise_start_elementsAll _ children hNode.2⟩
      have hBehind := start_of_mem_spans hSome
        (standsIn_of_mem_elementsAll _ children hNode.2) later hLater
      omega

/-- Of two elements the one that is named first also begins first. -/
theorem pairwise_start_elementsAll (position : Nat) : ∀ nodes : List Node,
    StandAt lexemes 0 position nodes →
      ((elementsAll nodes).filterMap (·.tag.span)).Pairwise
        fun earlier later => earlier.start < later.start
  | [], _ => .nil
  | node :: nodes, ⟨hNode, hNodes⟩ => by
      rw [elementsAll, List.filterMap_append, List.pairwise_append]
      refine ⟨pairwise_start_elements position node hNode,
        pairwise_start_elementsAll _ nodes hNodes, fun earlier hEarlier later hLater => ?_⟩
      have hFront := start_of_mem_spans hSome
        (standsIn_of_mem_elements position node hNode) earlier hEarlier
      have hBehind := start_of_mem_spans hSome
        (standsIn_of_mem_elementsAll _ nodes hNodes) later hLater
      omega

end

end

end

/-- Without a byte order mark the nodes of a source are those of a tree that was read from all its
lexemes. -/
theorem readAll_of_parse {source : String} {nodes : List Node} (hMark : ¬ BeginsWithMark source)
    (h : parse source = .ok nodes) :
    Readable source.toList ∧ ∃ tree, nodes = tree.finish ∧
      Tree.empty.readAll 0 0 (Lexeme.scanAll source.toList).1 = .ok tree := by
  have hReadable := (parse_ok_iff_readable hMark).mp ⟨nodes, h⟩
  obtain ⟨tree, hTree, hParse⟩ := parse_of_readable hMark hReadable
  rw [h, Except.ok.injEq] at hParse
  exact ⟨hReadable, tree, hParse, hTree⟩

/-- The nodes were read, each at its place, from the lexemes of the source. -/
theorem parse_scanned {source : String} {nodes : List Node} (hMark : ¬ BeginsWithMark source)
    (h : parse source = .ok nodes) :
    source.toList = sourceAll nodes ∧ StandAt (Lexeme.scanAll source.toList).1 0 0 nodes := by
  obtain ⟨hReadable, tree, rfl, hTree⟩ := readAll_of_parse hMark h
  obtain ⟨hSource, hStands⟩ :=
    Tree.readAll_stands (List.Subset.refl _) (Tree.empty_stands _ 0) hTree
  obtain ⟨hFinish, hPlaces⟩ := Tree.finish_stands hStands
  have hText : tree.source = source.toList := by
    rw [hSource, hReadable.source_eq]
    rfl
  exact ⟨by rw [hFinish, hText], hPlaces⟩

/-- The element has a span and the text of its start tag, which stands where the span begins. If an
end tag closed the element, the span covers the element as it is written, with everything in it, and
else the span ends with the start tag. -/
def Element.SpansExactly (style : ImportStyle) (cs : List Char) (element : Element) : Prop :=
  ∃ span raw, element.tag.span = some span ∧ element.tag.raw = some raw ∧
    slice ⟨span.start, span.start + byteLength raw.start.toList⟩ cs = some raw.start.toList ∧
    (raw.stop = none → span.stop = span.start + byteLength raw.start.toList) ∧
    (raw.stop ≠ none → slice span cs = some (element.toNode.write style).toList)

theorem Element.StandsIn.spansExactly {lexemes : List Lexeme} {cs : List Char} {element : Element}
    (h : element.StandsIn lexemes 0 cs) (style : ImportStyle) : element.SpansExactly style cs := by
  obtain ⟨before, after, rfl, hStands⟩ := h
  have hWrite := Node.write_eq_source style _ _ hStands
  obtain ⟨raw, stop, hRaw, hSpan, hOpen, hClosed⟩ := hStands.1.raw_span
  rw [Nat.zero_add] at hSpan hOpen hClosed
  have hStart : element.tag.startSource = raw.start.toList := by simp [Tag.startSource, hRaw]
  refine ⟨_, raw, hSpan, hRaw, ?_, hOpen, fun hStop => ?_⟩
  · have hFront := slice_append before raw.start.toList
      (sourceAll element.children ++ element.tag.stopSource ++ after)
    simpa [toNode, Node.source, hStart] using hFront
  · rw [hWrite, hClosed hStop]
    exact slice_append before element.toNode.source after

/-- The spans of the elements of a template are exact, and the elements begin in the order of the
tree. -/
theorem parse_elementSpans (style : ImportStyle) (source : String) (nodes : List Node)
    (hMark : ¬ BeginsWithMark source) (h : parse source = .ok nodes) :
    (∀ element ∈ elementsAll nodes, element.SpansExactly style source.toList) ∧
      ((elementsAll nodes).filterMap (·.tag.span)).Pairwise
        fun earlier later => earlier.start < later.start := by
  obtain ⟨hSource, hStands⟩ := parse_scanned hMark h
  refine ⟨fun element hElement => ?_,
    pairwise_start_elementsAll (Lexeme.scanAll_ne_nil source.toList) 0 nodes hStands⟩
  rw [hSource]
  exact (standsIn_of_mem_elementsAll 0 nodes hStands element hElement).spansExactly style

/-- The end tag of the list closes two elements that have none, and one end tag closes nothing. -/
theorem parse_elementSpans_implicitly_closed :
    let source := "é<ul><li>a<p>b</ul ></li><img src='x'>"
    ¬ BeginsWithMark source ∧ ∃ nodes, parse source = .ok nodes ∧
      (elementsAll nodes).map (·.tag.span) =
        [some ⟨2, 21⟩, some ⟨6, 10⟩, some ⟨11, 14⟩, some ⟨26, 39⟩] ∧
      (∀ element ∈ elementsAll nodes, element.SpansExactly .hoisted source.toList) ∧
      ((elementsAll nodes).filterMap (·.tag.span)).Pairwise
        fun earlier later => earlier.start < later.start := by
  intro source
  have hMark : ¬ BeginsWithMark source := by decide
  have hSpans : (parse source).toOption.map (fun nodes => (elementsAll nodes).map (·.tag.span)) =
      some [some ⟨2, 21⟩, some ⟨6, 10⟩, some ⟨11, 14⟩, some ⟨26, 39⟩] := by decide +kernel
  obtain ⟨nodes, hParse⟩ := isOk_iff.mp (by decide +kernel : (parse source).isOk = true)
  rw [hParse] at hSpans
  exact ⟨hMark, nodes, hParse, Option.some.inj hSpans,
    parse_elementSpans .hoisted source nodes hMark hParse⟩

end ResponsiveImages.Markup
