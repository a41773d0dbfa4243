import ResponsiveImages.Markup.Printer
import ResponsiveImages.Proofs.Markup.Placement

/-! A tree that nobody touched is written as it was read. Neither the nesting of the markup nor its
repair matters: elements without end tags, end tags without elements and tags that need none are all
written from their own text. -/
namespace ResponsiveImages.Markup

open Text (byteLength)

/-- Lexemes take their texts behind everything that was read before. -/
theorem Tree.readAll_stands {all lexemes : List Lexeme} {markLength : Nat} {tree final : Tree}
    (hSubset : lexemes ⊆ all) (hTree : tree.Stands all markLength)
    (h : tree.readAll markLength (byteLength tree.source) lexemes = .ok final) :
    final.source = tree.source ++ lexemes.flatMap Lexeme.source ∧
      final.Stands all markLength := by
  induction lexemes generalizing tree with
  | nil =>
      cases h
      exact ⟨by simp, hTree⟩
  | cons lexeme lexemes ih =>
      obtain ⟨hMem, hRest⟩ := List.cons_subset.mp hSubset
      obtain ⟨next, hNext, hFinal⟩ := bind_eq_ok.mp h
      obtain ⟨hSource, hStands⟩ := extend_stands hMem hTree hNext
      rw [← Text.byteLength_append, ← hSource] at hFinal
      obtain ⟨hAll, hEnd⟩ := ih hRest hStands hFinal
      exact ⟨by rw [hAll, hSource, List.flatMap_cons, List.append_assoc], hEnd⟩

theorem Tree.empty_stands (lexemes : List Lexeme) (markLength : Nat) :
    Tree.empty.Stands lexemes markLength := trivial

/-- Lexemes that are as long as others one by one are also as long together. -/
theorem byteLength_flatMap_eq {left right : List Lexeme}
    (h : left.map (byteLength ·.source) = right.map (byteLength ·.source)) :
    byteLength (left.flatMap Lexeme.source) = byteLength (right.flatMap Lexeme.source) := by
  induction left generalizing right with
  | nil => rw [List.map_eq_nil_iff.mp h.symm]
  | cons lexeme lexemes ih =>
      obtain ⟨first, rest, rfl, hFirst, hRest⟩ := List.map_eq_cons_iff.mp h.symm
      simp only [List.flatMap_cons, Text.byteLength_append, hFirst, ih hRest.symm]

/-- Everything in the nodes of a source was read at its place from the texts that were cut. What is
left over at the end is as long as the mark. -/
theorem parse_stands {source : String} {nodes : List Node} (h : parse source = .ok nodes) :
    ∃ cut lost, source.toList = sourceAll nodes ++ lost ∧
      byteLength lost = (behindMark source.toList).2 ∧
      (∀ lexeme ∈ cut, lexeme.source ≠ []) ∧
      StandAt cut (behindMark source.toList).2 0 nodes := by
  obtain ⟨tree, position, hTree, hError, rfl⟩ := parse_eq_ok_iff.mp h
  obtain ⟨unread, hSource, hEnd⟩ := Lexeme.scanAll_source (behindMark source.toList).1
  rw [hEnd hError, List.append_nil] at hSource
  obtain ⟨cut, lost, hCut, hLengths, hRead⟩ := Tree.extendAll_ok hTree
  obtain ⟨hText, hStands⟩ :=
    Tree.readAll_stands (List.Subset.refl cut) (Tree.empty_stands cut _) hRead
  obtain ⟨hFinish, hPlaces⟩ := Tree.finish_stands hStands
  refine ⟨cut, lost, ?_, ?_, ?_, hPlaces⟩
  · rw [hFinish, hText]
    exact hCut
  · -- What was cut is as long as the lexemes, and these are as long as the text behind the mark.
    obtain ⟨mark, hMark, hMarkLength⟩ := behindMark_eq source.toList
    have hBytes := congrArg byteLength (hCut.symm.trans hMark)
    rw [Text.byteLength_append, Text.byteLength_append, byteLength_flatMap_eq hLengths,
      hSource] at hBytes
    omega
  · intro lexeme hMem
    have hLength := List.mem_map_of_mem hMem (f := fun lexeme => byteLength lexeme.source)
    rw [hLengths] at hLength
    obtain ⟨scanned, hScanned, hSame⟩ := List.mem_map.mp hLength
    have hSome := Lexeme.scanAll_ne_nil _ scanned hScanned
    rwa [Ne, ← Text.byteLength_eq_zero, ← hSame, Text.byteLength_eq_zero]

section

variable {lexemes : List Lexeme} {markLength : Nat}

theorem Tag.ReadAt.raw_some {position : Nat} {tag : Tag} {children : List Node}
    (h : tag.ReadAt lexemes markLength position children) : ∃ raw, tag.raw = some raw := by
  cases h with
  | leaf begins _ | unclosed begins _ =>
      obtain ⟨start, hRaw, -⟩ := begins.raw_span
      exact ⟨_, hRaw⟩
  | closed begins _ _ _ _ =>
      obtain ⟨start, hRaw, -⟩ := begins.raw_span
      simp [Tree.closedBy, Tag.editRaw, hRaw]

theorem Tag.ReadAt.writeStart_eq (style : ImportStyle) {position : Nat} {tag : Tag}
    {children : List Node} (h : tag.ReadAt lexemes markLength position children) :
    (tag.writeStart style).toList = tag.startSource := by
  obtain ⟨raw, hRaw⟩ := h.raw_some
  simp [writeStart, startSource, hRaw]

theorem Tag.ReadAt.writeEnd_eq {position : Nat} {tag : Tag} {children : List Node}
    (h : tag.ReadAt lexemes markLength position children) :
    tag.writeEnd.toList = tag.stopSource := by
  obtain ⟨⟨start, stop⟩, hRaw⟩ := h.raw_some
  cases stop <;> simp [writeEnd, stopSource, hRaw]

mutual

/-- What was read is written from the text of its tags, in either style. -/
theorem Node.write_eq_source (style : ImportStyle) (position : Nat) :
    ∀ node : Node, node.StandsAt lexemes markLength position →
      (node.write style).toList = node.source
  | .text content, _ => rfl
  | .verbatim content, _ => rfl
  | .element tag children, ⟨hRead, hChildren⟩ => by
      rw [Node.write, Node.source, String.toList_append, String.toList_append, hRead.writeStart_eq,
        hRead.writeEnd_eq, writeAll_eq_sourceAll style _ children hChildren]

theorem writeAll_eq_sourceAll (style : ImportStyle) (position : Nat) :
    ∀ nodes : List Node, StandAt lexemes markLength position nodes →
      (writeAll style nodes).toList = sourceAll nodes
  | [], _ => rfl
  | node :: nodes, ⟨hNode, hNodes⟩ => by
      rw [writeAll, sourceAll, String.toList_append, Node.write_eq_source style _ node hNode,
        writeAll_eq_sourceAll style _ nodes hNodes]

end

end

/-- As many bytes as the mark has are not written, and these are the last ones. -/
theorem writeAll_lost {source : String} {nodes : List Node} (style : ImportStyle)
    (h : parse source = .ok nodes) :
    ∃ lost : String, source = writeAll style nodes ++ lost ∧
      byteLength lost.toList = (behindMark source.toList).2 := by
  obtain ⟨cut, lost, hSource, hLost, -, hPlaces⟩ := parse_stands h
  refine ⟨String.ofList lost, ?_, by rw [String.toList_ofList, hLost]⟩
  rw [← String.toList_inj, String.toList_append, writeAll_eq_sourceAll style 0 nodes hPlaces,
    String.toList_ofList, hSource]

/-- Without a byte order mark every cut is between two lexemes. -/
theorem parse_ne_insideCharacter {source : String} (hMark : ¬ BeginsWithMark source) :
    parse source ≠ .error .insideCharacter := by
  have hCuts := endAtBoundaries_scanAll source.toList []
  rw [Ne, parse_insideCharacter_iff, behindMark_of_not_beginsWithMark hMark, Classical.not_not]
  rwa [List.append_nil] at hCuts

/-- Reading a source without a byte order mark never cuts inside a character, and writing what was
read gives the source back, character for character. -/
theorem writeAll_parse (source : String) (hMark : ¬ BeginsWithMark source) :
    parse source ≠ .error .insideCharacter ∧
      ∀ nodes, parse source = .ok nodes → ∀ style, writeAll style nodes = source := by
  constructor
  · exact parse_ne_insideCharacter hMark
  · intro nodes hParse style
    obtain ⟨lost, hSource, hLost⟩ := writeAll_lost style hParse
    rw [behindMark_of_not_beginsWithMark hMark, Text.byteLength_eq_zero,
      String.toList_eq_nil_iff] at hLost
    rw [hLost, String.append_empty] at hSource
    exact hSource.symm

/-- Elements that end with their parent, end tags that close nothing, and a void element with an end
tag. -/
theorem writeAll_parse_soup :
    let source := "<ul><li>a &amp; b<LI>c</ul></p><br></BR><img src='x'/><!-- - --><![CDATA[<]]>"
    ¬ BeginsWithMark source ∧ parse source ≠ .error .insideCharacter ∧
      ∃ nodes, parse source = .ok nodes ∧ ∀ style, writeAll style nodes = source := by
  intro source
  have hMark : ¬ BeginsWithMark source := by decide
  obtain ⟨hWhole, hWrite⟩ := writeAll_parse source hMark
  obtain ⟨nodes, hParse⟩ := isOk_iff.mp (by decide +kernel : (parse source).isOk = true)
  exact ⟨hMark, hWhole, nodes, hParse, hWrite nodes hParse⟩

end ResponsiveImages.Markup
