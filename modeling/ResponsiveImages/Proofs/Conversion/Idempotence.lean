import ResponsiveImages.Proofs.Conversion.Encounters

/-! A tree that was converted holds no candidate any more, whatever the directive is called, and a
second walk through it finds nothing to do. -/
namespace ResponsiveImages.Converter

open Markup (Attribute Element Node Tag elementsAll)

variable {converter : Converter}

/-- A tag with another name than that of an image is no candidate. -/
theorem not_isCandidate_of_isNamed {tag : Tag} {name : String} (hNamed : tag.isNamed name = true)
    (hOther : Text.equalIgnoringCase name "img" = false) : converter.isCandidate tag = false := by
  simp [isCandidate, Tag.isNamed_eq_false hNamed hOther]

/-- Conversion leaves no candidate behind. A picture holds its sources and the converted image, and
only the latter is an image. -/
theorem Becomes.not_isCandidate {imports later : Imports} {element left : Element}
    {outcome : Outcome} (h : converter.Becomes imports element outcome left later) :
    ∀ tag ∈ (Encounter.mk element.tag outcome left).tags, converter.isCandidate tag = false := by
  have hImage {plan : Plan} {image : Tag} {later : Imports}
      (hPlan : converter.plan? element.tag = some plan)
      (hConvert : converter.convert plan element.tag imports = (image, later)) :
      converter.isCandidate image = false := by
    have hConverted := isCandidate_convert element.tag imports (plan?_directive_name hPlan)
    rwa [hConvert] at hConverted
  cases h with
  | same hCandidate => simpa [Encounter.tags, Encounter.isReplaced] using hCandidate
  | inPlace _ hPlan hConvert _ =>
      simpa [Encounter.tags, Encounter.isReplaced] using hImage hPlan hConvert
  | @picture plan image later last sources _ hPlan hConvert _ hSources =>
      intro tag hTag
      rw [Encounter.tags_picture, List.mem_cons, List.mem_append, List.mem_singleton] at hTag
      rcases hTag with rfl | hSource | rfl
      · have hPicture : (skeleton image).tag.isNamed "picture" = true :=
          Text.equalIgnoringCase_refl "picture"
        exact not_isCandidate_of_isNamed hPicture (by decide)
      · have hAdded : ((converter.pending plan image).sources later).1 = sources :=
          congrArg Prod.fst hSources
        rw [← hAdded] at hSource
        have hNamed : tag.isNamed "source" = true := Pending.isNamed_of_mem_sourcesFrom hSource
        exact not_isCandidate_of_isNamed hNamed (by decide)
      · exact hImage hPlan hConvert

theorem Performs.not_isCandidate {imports later : Imports} {elements left : List Element}
    {encounters : List Encounter}
    (h : converter.Performs imports elements encounters later left) :
    ∀ element ∈ left, converter.isCandidate element.tag = false := by
  intro element hElement
  have hTag : element.tag ∈ encounters.flatMap Encounter.tags :=
    h.tags ▸ List.mem_map_of_mem hElement
  obtain ⟨encounter, hEncounter, hMem⟩ := List.mem_flatMap.mp hTag
  have hAll : ∀ encounter ∈ encounters, ∀ tag ∈ encounter.tags,
      converter.isCandidate tag = false :=
    h.converts.forall_encounter fun hBecomes => hBecomes.not_isCandidate
  exact hAll encounter hEncounter element.tag hMem

mutual

/-- Where there is no candidate a visit has nothing to do. -/
theorem visit_of_no_candidates (imports : Imports) : ∀ node : Node,
    (∀ element ∈ node.elements, converter.isCandidate element.tag = false) →
      converter.visit imports node = Visit.nothing node imports
  | .text content, _ => by rw [visit]
  | .verbatim content, _ => by rw [visit]
  | .element tag children, h => by
      obtain ⟨hTag, hChildren⟩ := List.forall_mem_cons.mp h
      have hStage : converter.stage ⟨tag, children⟩ imports = .ok (.unchanged, imports) :=
        stage_of_not_candidate imports hTag
      rw [visit_element]
      simp only [hStage, visitAll_of_no_candidates imports children hChildren]
      rfl

theorem visitAll_of_no_candidates (imports : Imports) : ∀ nodes : List Node,
    (∀ element ∈ elementsAll nodes, converter.isCandidate element.tag = false) →
      converter.visitAll imports nodes = Visit.nothing nodes imports
  | [], _ => by rw [visitAll_nil]
  | node :: nodes, h => by
      obtain ⟨hNode, hNodes⟩ := List.forall_mem_append.mp h
      rw [visitAll_cons, visit_of_no_candidates imports node hNode]
      simp only [Visit.nothing, visitAll_of_no_candidates imports nodes hNodes]
      rfl

end

/-- Whatever the directive is called, and whatever the imports are at first, a visit that ends well
leaves no candidate in the tree. Another visit then changes neither the tree nor the imports, counts
nothing and reports nothing. -/
theorem visitAll_idempotent (converter : Converter) (imports : Imports) (nodes : List Node)
    (summary : Summary) (h : (converter.visitAll imports nodes).result = .ok summary) :
    let visit := converter.visitAll imports nodes
    (∀ element ∈ elementsAll visit.left, converter.isCandidate element.tag = false) ∧
      converter.visitAll visit.imports visit.left =
        ⟨.ok .zero, visit.left, visit.imports, []⟩ := by
  intro visit
  have hWalk := visitAll_refines_walkAll converter imports nodes
  obtain ⟨encounters, hEncounters, -⟩ := hWalk.counted h
  have hNone : ∀ element ∈ elementsAll visit.left, converter.isCandidate element.tag = false := by
    rw [hWalk.left]
    exact (walkAll_performs imports nodes encounters hEncounters).not_isCandidate
  exact ⟨hNone, visitAll_of_no_candidates visit.imports visit.left hNone⟩

/-- The directive is called like an attribute that the conversion writes itself, it stands on an
image twice, and there is another image in that image. -/
theorem visitAll_idempotent_loading :
    let converter := Converter.ofConfig { Config.empty with attributeName := some "loading" }
    let source : Attribute := ⟨"src", .text "./a.png", none⟩
    let inPlace : Attribute := ⟨"loading", .text "onlyUseImg", none⟩
    let again : Attribute := ⟨"loading", .text "", none⟩
    let inner : Node := .element ⟨"img", [again, source], .void, none, none⟩ []
    let nodes : List Node :=
      [.element ⟨"IMG", [source, inPlace, again], .endTag, none, none⟩ [inner]]
    ∃ summary, (converter.visitAll Imports.empty nodes).result = .ok summary ∧
      let visit := converter.visitAll Imports.empty nodes
      (∀ element ∈ elementsAll visit.left, converter.isCandidate element.tag = false) ∧
        converter.visitAll visit.imports visit.left =
          ⟨.ok .zero, visit.left, visit.imports, []⟩ := by
  intro converter source inPlace again inner nodes
  obtain ⟨summary, hSummary⟩ := isOk_iff.mp
    (by decide +kernel : (converter.visitAll Imports.empty nodes).result.isOk = true)
  exact ⟨summary, hSummary, visitAll_idempotent converter Imports.empty nodes summary hSummary⟩

end ResponsiveImages.Converter
