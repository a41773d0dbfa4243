import ResponsiveImages.Proofs.Conversion.Encounters

/-! Which elements are refused, and with which error. The tag of an element alone decides this:
neither the imports nor any other element matters. A walk therefore fails exactly if it comes to an
element that is refused, and with the error of the first one. -/
namespace ResponsiveImages.Converter

open Markup (Attribute Element Node Tag)

variable {converter : Converter}

/-- Why an element with this tag cannot be converted, if it cannot. -/
def refusal? (converter : Converter) (tag : Tag) : Option ElementError :=
  if converter.isCandidate tag then
    (converter.directive? tag).bind fun directive =>
      match converter.plan tag directive with
      | .error cause => some cause
      | .ok _ => none
  else none

theorem stage_error_iff {element : Element} {imports : Imports} {cause : ElementError} :
    converter.stage element imports = .error cause ↔
      converter.refusal? element.tag = some cause := by
  cases hCandidate : converter.isCandidate element.tag with
  | false => simp [stage_of_not_candidate imports hCandidate, refusal?, hCandidate]
  | true =>
      obtain ⟨directive, hDirective, hStage⟩ := stage_of_candidate imports hCandidate
      rw [hStage, refusal?, if_pos hCandidate, hDirective, Option.bind_some]
      cases converter.plan element.tag directive <;> simp [Except.map]

/-- The first phase alone can fail. -/
theorem transform_error_iff_stage {element : Element} {imports : Imports} {cause : ElementError} :
    (converter.transform element imports).result = .error cause ↔
      converter.stage element imports = .error cause := by
  cases hStage : converter.stage element imports with
  | error error => simp [transform, hStage]
  | ok staged =>
      obtain ⟨step, later⟩ := staged
      cases step <;> simp [transform, hStage]

theorem transform_error_iff {element : Element} {imports : Imports} {cause : ElementError} :
    (converter.transform element imports).result = .error cause ↔
      converter.refusal? element.tag = some cause :=
  transform_error_iff_stage.trans stage_error_iff

/-- An element that is refused is left as it is, and nothing is imported for it. -/
theorem transform_of_error {element : Element} {imports : Imports} {cause : ElementError}
    (h : (converter.transform element imports).result = .error cause) :
    (converter.transform element imports).left = element ∧
      (converter.transform element imports).imports = imports := by
  simp [transform, transform_error_iff_stage.mp h]

theorem refusal?_eq_none_iff {tag : Tag} :
    converter.refusal? tag = none ↔
      (converter.isCandidate tag = true → ∃ plan, converter.plan? tag = some plan) := by
  cases hCandidate : converter.isCandidate tag with
  | false => simp [refusal?, hCandidate]
  | true =>
      obtain ⟨-, directive, hDirective⟩ := (converter.isCandidate_iff tag).mp hCandidate
      cases hPlan : converter.plan tag directive <;>
        simp [refusal?, plan?, hCandidate, hDirective, hPlan, Except.toOption]

/-- The error that a walk ends with at an element, if it is refused. -/
def failure? (converter : Converter) (element : Element) : Option WalkError :=
  (converter.refusal? element.tag).map (WalkError.ofTag element.tag)

/-- The error of the first element that is refused. -/
def firstFailure? (converter : Converter) (elements : List Element) : Option WalkError :=
  elements.findSome? converter.failure?

theorem failure?_of_transform_error {element : Element} {imports : Imports} {cause : ElementError}
    (h : (converter.transform element imports).result = .error cause) :
    converter.failure? element = some (WalkError.ofTag element.tag cause) := by
  rw [failure?, transform_error_iff.mp h, Option.map_some]

theorem failure?_of_transform_ok {element : Element} {imports : Imports} {outcome : Outcome}
    (h : (converter.transform element imports).result = .ok outcome) :
    converter.failure? element = none := by
  rw [failure?, Option.map_eq_none_iff, Option.eq_none_iff_forall_ne_some]
  intro cause hRefusal
  rw [transform_error_iff.mpr hRefusal] at h
  cases h

mutual

/-- A walk through a node fails exactly with the first failure among the elements that it comes
to. -/
theorem walk_error_iff (imports : Imports) (error : WalkError) : ∀ node : Node,
    (converter.walk imports node).result = .error error ↔
      converter.firstFailure? (converter.met node) = some error
  | .text content => by
      rw [walk]
      simp [met, firstFailure?]
  | .verbatim content => by
      rw [walk]
      simp [met, firstFailure?]
  | .element tag children => by
      rw [walk_element, met, firstFailure?, List.findSome?_cons]
      cases hOutcome : (converter.transform ⟨tag, children⟩ imports).result with
      | error cause => simp [hOutcome, failure?_of_transform_error hOutcome]
      | ok outcome =>
          have hPicture := (transform_becomes hOutcome).becomesPicture_eq
          rw [failure?_of_transform_ok hOutcome]
          cases outcome with
          | replaced sources => simp [hOutcome, hPicture, Encounter.isReplaced]
          | unchanged | inPlace =>
              have hInner := walkAll_error_iff
                (converter.transform ⟨tag, children⟩ imports).imports error children
              rw [firstFailure?] at hInner
              simp [hOutcome, hPicture, Encounter.isReplaced, Walk.below, map_eq_error,
                transform_children hOutcome, hInner]

/-- A walk through several nodes fails exactly with the first failure among the elements that it
comes to. -/
theorem walkAll_error_iff (imports : Imports) (error : WalkError) : ∀ nodes : List Node,
    (converter.walkAll imports nodes).result = .error error ↔
      converter.firstFailure? (converter.metAll nodes) = some error
  | [] => by
      rw [walkAll_nil]
      simp [metAll, firstFailure?]
  | node :: nodes => by
      have hNode := fun error => walk_error_iff imports error node
      rw [walkAll_cons, metAll, firstFailure?, List.findSome?_append]
      cases hFirst : (converter.walk imports node).result with
      | error early =>
          have hFound := (hNode early).mp hFirst
          rw [firstFailure?] at hFound
          simp [hFirst, hFound]
      | ok encounters =>
          have hNone : converter.firstFailure? (converter.met node) = none := by
            rw [Option.eq_none_iff_forall_ne_some]
            intro early hFound
            rw [(hNode early).mpr hFound] at hFirst
            cases hFirst
          have hNodes := walkAll_error_iff (converter.walk imports node).imports error nodes
          rw [firstFailure?] at hNone hNodes
          simp [hFirst, map_eq_error, hNone, hNodes]

end

/-- Whether a visit fails, and how, does not depend on the imports. -/
theorem visitAll_error_iff (imports : Imports) (nodes : List Node) (error : WalkError) :
    (converter.visitAll imports nodes).result = .error error ↔
      converter.firstFailure? (converter.metAll nodes) = some error :=
  ((visitAll_refines_walkAll converter imports nodes).failed error).trans
    (walkAll_error_iff imports error nodes)

theorem visitAll_ok_iff (imports : Imports) (nodes : List Node) :
    (∃ summary, (converter.visitAll imports nodes).result = .ok summary) ↔
      ∀ element ∈ converter.metAll nodes, converter.refusal? element.tag = none := by
  have hNone : converter.firstFailure? (converter.metAll nodes) = none ↔
      ∀ element ∈ converter.metAll nodes, converter.refusal? element.tag = none := by
    simp [firstFailure?, failure?]
  rw [← hNone, Option.eq_none_iff_forall_ne_some]
  simp only [Ne, ← visitAll_error_iff imports]
  cases (converter.visitAll imports nodes).result <;> simp

/-- The first failure belongs to the first element that is refused. -/
theorem firstFailure?_eq_some_iff {elements : List Element} {error : WalkError} :
    converter.firstFailure? elements = some error ↔
      ∃ early element late cause, elements = early ++ element :: late ∧
        (∀ other ∈ early, converter.refusal? other.tag = none) ∧
        converter.refusal? element.tag = some cause ∧
        error = WalkError.ofTag element.tag cause := by
  rw [firstFailure?, List.findSome?_eq_some_iff]
  constructor
  · rintro ⟨early, element, late, hElements, hFailure, hEarly⟩
    obtain ⟨cause, hCause, rfl⟩ := Option.map_eq_some_iff.mp hFailure
    exact ⟨early, element, late, cause, hElements,
      fun other hOther => Option.map_eq_none_iff.mp (hEarly other hOther), hCause, rfl⟩
  · rintro ⟨early, element, late, cause, hElements, hEarly, hCause, rfl⟩
    exact ⟨early, element, late, hElements, by rw [failure?, hCause, Option.map_some],
      fun other hOther => Option.map_eq_none_iff.mpr (hEarly other hOther)⟩

end ResponsiveImages.Converter
