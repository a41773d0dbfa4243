import ResponsiveImages.Proofs.Conversion.Candidates

/-! A walk as a sequence of conversions. The elements that a walk comes to are converted one after
the other, and the tags of the tree that it leaves are those that the conversions left, in the same
order. What holds of every conversion therefore holds of every tree that is converted. -/
namespace ResponsiveImages

open Markup (Attribute Element Node Tag elementsAll)

namespace Converter

/-- What has to be done to an image, if it carries the directive and can be converted. -/
def plan? (converter : Converter) (tag : Tag) : Option Plan :=
  (converter.directive? tag).bind fun directive => (converter.plan tag directive).toOption

/-- The image is converted, and a picture takes its place. -/
def becomesPicture (converter : Converter) (tag : Tag) : Bool :=
  converter.isCandidate tag &&
    (converter.plan? tag).any fun plan => decide (plan.settings.mode = .picture)

/-- The picture that an image becomes, with its sources in front of the converted image. -/
def picture (image : Tag) (sources : List Tag) : Element :=
  ⟨(skeleton image).tag, sources.map (Node.element · []) ++ [.element image []]⟩

/-- The ways in which an element is converted: not at all, in its place, or into a picture. -/
inductive Becomes (converter : Converter) (imports : Imports) (element : Element) :
    Outcome → Element → Imports → Prop
  | same (hCandidate : converter.isCandidate element.tag = false) :
      Becomes converter imports element .unchanged element imports
  | inPlace {plan : Plan} {image : Tag} {later : Imports}
      (hCandidate : converter.isCandidate element.tag = true)
      (hPlan : converter.plan? element.tag = some plan)
      (hConvert : converter.convert plan element.tag imports = (image, later))
      (hMode : plan.settings.mode ≠ .picture) :
      Becomes converter imports element .inPlace ⟨image, element.children⟩ later
  | picture {plan : Plan} {image : Tag} {later last : Imports} {sources : List Tag}
      (hCandidate : converter.isCandidate element.tag = true)
      (hPlan : converter.plan? element.tag = some plan)
      (hConvert : converter.convert plan element.tag imports = (image, later))
      (hMode : plan.settings.mode = .picture)
      (hSources : (converter.pending plan image).sources later = (sources, last)) :
      Becomes converter imports element (.replaced sources.length)
        (Converter.picture image sources) last

theorem transform_becomes {converter : Converter} {element : Element} {imports : Imports}
    {outcome : Outcome} (h : (converter.transform element imports).result = .ok outcome) :
    converter.Becomes imports element outcome (converter.transform element imports).left
      (converter.transform element imports).imports := by
  cases hCandidate : converter.isCandidate element.tag with
  | false =>
      rw [transform_of_not_candidate element imports hCandidate] at h ⊢
      cases h
      exact .same hCandidate
  | true =>
      obtain ⟨directive, hDirective, hStage⟩ := stage_of_candidate imports hCandidate
      cases hFound : converter.plan element.tag directive with
      | error error => simp [transform, hStage, hFound, Except.map] at h
      | ok plan =>
          have hPlan : converter.plan? element.tag = some plan := by
            simp [plan?, hDirective, hFound, Except.toOption]
          obtain ⟨image, later, hConvert⟩ :
              ∃ image later, converter.convert plan element.tag imports = (image, later) :=
            ⟨_, _, rfl⟩
          rw [hFound] at hStage
          cases hMode : plan.settings.mode with
          | picture =>
              simp only [transform, hStage, Except.map, perform, hConvert, hMode,
                Pending.complete_skeleton, Except.ok.injEq] at h ⊢
              subst h
              exact .picture hCandidate hPlan hConvert hMode rfl
          | compressed | withSrcset =>
              simp only [transform, hStage, Except.map, perform, hConvert, hMode,
                Except.ok.injEq] at h ⊢
              subst h
              exact .inPlace hCandidate hPlan hConvert (by simp [hMode])

/-- If an element can be converted in one of these ways, this is what its conversion does. -/
theorem transform_of_becomes {converter : Converter} {imports later : Imports}
    {element left : Element} {outcome : Outcome}
    (h : converter.Becomes imports element outcome left later) :
    (converter.transform element imports).result = .ok outcome ∧
      (converter.transform element imports).left = left ∧
      (converter.transform element imports).imports = later := by
  have hStaged {plan : Plan} (hCandidate : converter.isCandidate element.tag = true)
      (hPlan : converter.plan? element.tag = some plan) :
      converter.stage element imports = .ok (converter.perform plan element.tag imports) := by
    obtain ⟨directive, hDirective, hStage⟩ := stage_of_candidate imports hCandidate
    rw [plan?, hDirective, Option.bind_some] at hPlan
    cases hFound : converter.plan element.tag directive with
    | error error => simp [hFound, Except.toOption] at hPlan
    | ok found =>
        simp only [hFound, Except.toOption, Option.some.injEq] at hPlan
        rw [hStage, hFound, hPlan]
        rfl
  cases h with
  | same hCandidate => simp [transform_of_not_candidate element imports hCandidate]
  | @inPlace plan image later hCandidate hPlan hConvert hMode =>
      have hPerform : converter.perform plan element.tag imports =
          (.inPlace image plan.path plan.settings.mode, later) := by
        rw [perform, hConvert]
        cases hCase : plan.settings.mode with
        | picture => exact absurd hCase hMode
        | compressed | withSrcset => rfl
      simp [transform, hStaged hCandidate hPlan, hPerform]
  | @picture plan image later last sources hCandidate hPlan hConvert hMode hSources =>
      have hPerform : converter.perform plan element.tag imports =
          (.picture (skeleton image) (converter.pending plan image), later) := by
        rw [perform, hConvert, hMode]
      simp [transform, hStaged hCandidate hPlan, hPerform, Pending.complete_skeleton, hSources,
        Converter.picture]

theorem Becomes.becomesPicture_eq {converter : Converter} {imports later : Imports}
    {element left : Element} {outcome : Outcome}
    (h : converter.Becomes imports element outcome left later) :
    converter.becomesPicture element.tag = (Encounter.mk element.tag outcome left).isReplaced := by
  cases h with
  | same hCandidate => simp [becomesPicture, hCandidate, Encounter.isReplaced]
  | inPlace hCandidate hPlan _ hMode => simp [becomesPicture, hPlan, hMode, Encounter.isReplaced]
  | picture hCandidate hPlan _ hMode _ =>
      simp [becomesPicture, hCandidate, hPlan, hMode, Encounter.isReplaced]

theorem plan?_directive_name {converter : Converter} {tag : Tag} {plan : Plan}
    (h : converter.plan? tag = some plan) :
    plan.directive.name = converter.settings.attributeName := by
  obtain ⟨directive, hDirective, hPlan⟩ := Option.bind_eq_some_iff.mp h
  cases hFound : converter.plan tag directive with
  | error error => simp [hFound, Except.toOption] at hPlan
  | ok found =>
      simp only [hFound, Except.toOption, Option.some.injEq] at hPlan
      rw [← hPlan, plan_directive hFound]
      exact ((Attribute.isStaticNamed_iff _ _).mp (List.find?_some hDirective)).2

end Converter

/-- The tags of what an encounter left. In a picture these are all tags; the children of any other
element are encounters of their own. -/
def Encounter.tags (encounter : Encounter) : List Tag :=
  if encounter.isReplaced then encounter.left.toNode.elements.map Element.tag
  else [encounter.left.tag]

theorem elementsAll_append (left right : List Node) :
    elementsAll (left ++ right) = elementsAll left ++ elementsAll right := by
  induction left with
  | nil => rfl
  | cons node nodes ih => simp [elementsAll, ih]

theorem elementsAll_childless (tags : List Tag) :
    (elementsAll (tags.map (Node.element · []))).map Element.tag = tags := by
  induction tags with
  | nil => rfl
  | cons tag tags ih => simp [elementsAll, Node.elements, ih]

theorem Encounter.tags_picture (tag image : Tag) (sources : List Tag) :
    (Encounter.mk tag (.replaced sources.length) (Converter.picture image sources)).tags =
      (Converter.skeleton image).tag :: (sources ++ [image]) := by
  simp [tags, isReplaced, Converter.picture, Element.toNode, Node.elements, elementsAll_append,
    elementsAll_childless, elementsAll]

namespace Converter

mutual

/-- The elements that a walk comes to, in the order of the text. Those in an image that becomes a
picture are dropped with the children of the image. -/
def met (converter : Converter) : Node → List Element
  | .text _ => []
  | .verbatim _ => []
  | .element tag children =>
    ⟨tag, children⟩ ::
      if converter.becomesPicture tag then [] else converter.metAll children

def metAll (converter : Converter) : List Node → List Element
  | [] => []
  | node :: nodes => converter.met node ++ converter.metAll nodes

end

/-- Elements are converted one after the other, each one with the imports that the conversion in
front of it left. -/
inductive Converts (converter : Converter) :
    Imports → List Element → List Encounter → Imports → Prop
  | nil (imports : Imports) : Converts converter imports [] [] imports
  | cons {imports later last : Imports} {element left : Element} {elements : List Element}
      {outcome : Outcome} {encounters : List Encounter}
      (hBecomes : converter.Becomes imports element outcome left later)
      (hRest : Converts converter later elements encounters last) :
      Converts converter imports (element :: elements)
        (⟨element.tag, outcome, left⟩ :: encounters) last

theorem Converts.append {converter : Converter} {imports later last : Imports}
    {early late : List Element} {first second : List Encounter}
    (hEarly : converter.Converts imports early first later)
    (hLate : converter.Converts later late second last) :
    converter.Converts imports (early ++ late) (first ++ second) last := by
  induction hEarly with
  | nil => exact hLate
  | cons hBecomes _ ih => exact .cons hBecomes (ih hLate)

/-- What holds of each conversion holds of conversions in a row. -/
theorem Converts.forall_encounter {converter : Converter} {motive : Encounter → Prop}
    (step : ∀ {imports later : Imports} {element left : Element} {outcome : Outcome},
      converter.Becomes imports element outcome left later → motive ⟨element.tag, outcome, left⟩)
    {imports last : Imports} {elements : List Element} {encounters : List Encounter}
    (h : converter.Converts imports elements encounters last) :
    ∀ encounter ∈ encounters, motive encounter := by
  induction h with
  | nil => exact List.forall_mem_nil _
  | cons hBecomes _ ih => exact List.forall_mem_cons.mpr ⟨step hBecomes, ih⟩

/-- A walk is a sequence of conversions of the elements that it comes to, and leaves the tags that
they left. -/
structure Performs (converter : Converter) (imports : Imports) (elements : List Element)
    (encounters : List Encounter) (later : Imports) (left : List Element) : Prop where
  converts : converter.Converts imports elements encounters later
  tags : left.map Element.tag = encounters.flatMap Encounter.tags

section

variable {converter : Converter}

/-- An element whose children are walked through after it was converted. -/
theorem performs_below {imports : Imports} {element : Element} {encounters : List Encounter}
    {outcome : Outcome} {inner : Walk (List Node)}
    (hOutcome : (converter.transform element imports).result = .ok outcome)
    (hKept : outcome = .unchanged ∨ outcome = .inPlace)
    (hInner : converter.Performs (converter.transform element imports).imports
      (converter.metAll element.children) encounters inner.imports (elementsAll inner.left)) :
    let left := (converter.transform element imports).left
    converter.Performs imports (converter.met element.toNode)
      (⟨element.tag, outcome, left⟩ :: encounters) inner.imports
      (Node.element left.tag inner.left).elements := by
  have hBecomes := transform_becomes hOutcome
  have hNone : (Encounter.mk element.tag outcome
      (converter.transform element imports).left).isReplaced = false := by
    rcases hKept with rfl | rfl <;> rfl
  have hPicture := hBecomes.becomesPicture_eq
  rw [hNone] at hPicture
  constructor
  · simpa [met, Element.toNode, hPicture] using Converts.cons hBecomes hInner.converts
  · simp [Node.elements, hInner.tags, Encounter.tags, hNone]

mutual

theorem walk_performs (imports : Imports) : ∀ (node : Node) (encounters : List Encounter),
    (converter.walk imports node).result = .ok encounters →
    converter.Performs imports (converter.met node) encounters (converter.walk imports node).imports
      (converter.walk imports node).left.elements
  | .text content, encounters, h => by
      rw [walk] at h ⊢
      cases h
      exact ⟨.nil imports, rfl⟩
  | .verbatim content, encounters, h => by
      rw [walk] at h ⊢
      cases h
      exact ⟨.nil imports, rfl⟩
  | .element tag children, encounters, h => by
      cases hOutcome : (converter.transform ⟨tag, children⟩ imports).result with
      | error error => simp [walk_element, hOutcome] at h
      | ok outcome =>
          have hBecomes := transform_becomes hOutcome
          cases outcome with
          | replaced sources =>
              simp only [walk_element, hOutcome, Except.ok.injEq] at h ⊢
              subst h
              have hPicture : converter.becomesPicture tag = true := hBecomes.becomesPicture_eq
              have hMet : converter.met (.element tag children) = [⟨tag, children⟩] := by
                simp [met, hPicture]
              rw [hMet]
              exact ⟨.cons hBecomes (.nil _), by simp [Encounter.tags, Encounter.isReplaced]⟩
          | unchanged | inPlace =>
              simp only [walk_element, hOutcome, Walk.below] at h ⊢
              obtain ⟨inner, hInner, rfl⟩ := map_eq_ok.mp h
              have hChildren := transform_children hOutcome (by simp)
              rw [hChildren] at hInner ⊢
              exact performs_below hOutcome (by simp)
                (walkAll_performs _ children inner hInner)

theorem walkAll_performs (imports : Imports) : ∀ (nodes : List Node) (encounters : List Encounter),
    (converter.walkAll imports nodes).result = .ok encounters →
    converter.Performs imports (converter.metAll nodes) encounters
      (converter.walkAll imports nodes).imports
      (elementsAll (converter.walkAll imports nodes).left)
  | [], encounters, h => by
      rw [walkAll_nil] at h ⊢
      cases h
      exact ⟨.nil imports, rfl⟩
  | node :: nodes, encounters, h => by
      rw [walkAll_cons] at h ⊢
      cases hFirst : (converter.walk imports node).result with
      | error error => simp [hFirst] at h
      | ok early =>
          simp only [hFirst] at h ⊢
          obtain ⟨late, hLate, rfl⟩ := map_eq_ok.mp h
          have hNode := walk_performs imports node early hFirst
          have hNodes := walkAll_performs _ nodes late hLate
          exact ⟨hNode.converts.append hNodes.converts,
            by simp [elementsAll, hNode.tags, hNodes.tags]⟩

end

end

end Converter

end ResponsiveImages
