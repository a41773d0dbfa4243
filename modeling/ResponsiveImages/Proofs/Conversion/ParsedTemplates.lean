import ResponsiveImages.Proofs.Conversion.References

/-! Trees that were read from a template. No attribute of theirs refers to an import, and no
candidate has anything in it, so that a walk comes to all elements. -/
namespace ResponsiveImages.Markup

section

variable {lexemes : List Lexeme} {markLength : Nat}

mutual

/-- Every element in a node that stands at its place was read at its own. -/
theorem readAt_of_mem_elements (position : Nat) : ∀ node : Node,
    node.StandsAt lexemes markLength position → ∀ element ∈ node.elements,
      ∃ place, element.tag.ReadAt lexemes markLength place element.children
  | .text _, _ => List.forall_mem_nil _
  | .verbatim _, _ => List.forall_mem_nil _
  | .element _ children, ⟨hRead, hChildren⟩ =>
      List.forall_mem_cons.mpr ⟨⟨position, hRead⟩, readAt_of_mem_elementsAll _ children hChildren⟩

theorem readAt_of_mem_elementsAll (position : Nat) : ∀ nodes : List Node,
    StandAt lexemes markLength position nodes → ∀ element ∈ elementsAll nodes,
      ∃ place, element.tag.ReadAt lexemes markLength place element.children
  | [], _ => List.forall_mem_nil _
  | node :: nodes, ⟨hNode, hNodes⟩ => List.forall_mem_append.mpr
      ⟨readAt_of_mem_elements _ node hNode, readAt_of_mem_elementsAll _ nodes hNodes⟩

end

/-- Attributes that were written have text or passed-through script for a value. -/
theorem Tag.BeginsAt.targets_eq {position : Nat} {tag : Tag}
    (begins : tag.BeginsAt lexemes markLength position) : tag.targets = [] := by
  obtain ⟨lexeme, -, content, written, -, -, -, hAttrs, -⟩ := begins.fields
  rw [Tag.targets, hAttrs, List.filterMap_map, List.filterMap_eq_nil_iff]
  intro attr _
  simp only [Function.comp_apply, WrittenAttribute.toAttribute]
  split <;> rfl

theorem Tag.ReadAt.targets_eq {position : Nat} {tag : Tag} {children : List Node}
    (h : tag.ReadAt lexemes markLength position children) : tag.targets = [] := by
  cases h with
  | leaf begins _ | unclosed begins _ => exact begins.targets_eq
  | closed begins _ _ _ _ => exact begins.targets_eq

end

theorem targetsAll_parse {source : String} {nodes : List Node} (h : parse source = .ok nodes) :
    targetsAll nodes = [] := by
  obtain ⟨cut, lost, -, -, -, hStands⟩ := parse_stands h
  refine targetsAll_eq_nil.mpr fun element hElement => ?_
  obtain ⟨place, hRead⟩ := readAt_of_mem_elementsAll 0 nodes hStands element hElement
  exact hRead.targets_eq

end ResponsiveImages.Markup

namespace ResponsiveImages.Converter

open Markup

variable {converter : Converter}

mutual

theorem met_eq_elements : ∀ node : Node,
    (∀ element ∈ node.elements, converter.isCandidate element.tag = true → element.children = []) →
      converter.met node = node.elements
  | .text _, _ => rfl
  | .verbatim _, _ => rfl
  | .element tag children, h => by
      obtain ⟨hElement, hChildren⟩ := List.forall_mem_cons.mp h
      rw [met, Node.elements, metAll_eq_elementsAll children hChildren]
      split
      · rename_i hPicture
        have hCandidate : converter.isCandidate tag = true := by
          simp only [becomesPicture, Bool.and_eq_true] at hPicture
          exact hPicture.1
        have hNone : children = [] := hElement hCandidate
        rw [hNone, elementsAll]
      · rfl

/-- If no candidate has anything in it, a walk comes to all elements. -/
theorem metAll_eq_elementsAll : ∀ nodes : List Node,
    (∀ element ∈ elementsAll nodes,
      converter.isCandidate element.tag = true → element.children = []) →
      converter.metAll nodes = elementsAll nodes
  | [], _ => rfl
  | node :: nodes, h => by
      obtain ⟨hNode, hNodes⟩ := List.forall_mem_append.mp h
      rw [metAll, elementsAll, met_eq_elements node hNode, metAll_eq_elementsAll nodes hNodes]

end

theorem metAll_parse {source : String} {nodes : List Node} (h : parse source = .ok nodes) :
    converter.metAll nodes = elementsAll nodes := by
  obtain ⟨cut, lost, -, -, -, hStands⟩ := parse_stands h
  refine metAll_eq_elementsAll nodes fun element hElement hCandidate => ?_
  obtain ⟨place, hRead⟩ := readAt_of_mem_elementsAll 0 nodes hStands element hElement
  exact (hRead.of_void (candidate_isVoid hCandidate)).1

end ResponsiveImages.Converter
