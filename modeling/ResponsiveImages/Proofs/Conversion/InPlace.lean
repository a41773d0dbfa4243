import ResponsiveImages.Proofs.Conversion.Refusals

/-! The conversion of one element as a sequence of effects on the element and on the imports, in the
order in which they come about. An error does not take back the effects in front of it. There are
none, because everything that can fail comes before the first effect. -/
namespace ResponsiveImages

open Markup (Attribute Element Tag)

/-- What a conversion works on. -/
structure Workpiece where
  element : Element
  imports : Imports

/-- A computation with effects on an element and on the imports. They outlast an error. -/
abbrev Effects := ExceptT ElementError (StateM Workpiece)

namespace Effects

/-- The result and what is left, whether there is an error or not. -/
def runOn {α : Type} (effects : Effects α) (workpiece : Workpiece) :
    Except ElementError α × Workpiece :=
  effects.run workpiece

/-- Effects in a row end with the first error, and with what was left there. -/
theorem runOn_bind {α β : Type} (effects : Effects α) (next : α → Effects β)
    (workpiece : Workpiece) :
    (effects >>= next).runOn workpiece =
      match effects.runOn workpiece with
      | (.error cause, left) => (.error cause, left)
      | (.ok value, left) => (next value).runOn left := by
  have hCont : (effects >>= next).runOn workpiece =
      ExceptT.bindCont next (effects.runOn workpiece).1 (effects.runOn workpiece).2 := rfl
  rw [hCont]
  rcases effects.runOn workpiece with ⟨_ | _, left⟩ <;> rfl

theorem runOn_liftExcept {α : Type} (result : Except ElementError α) (workpiece : Workpiece) :
    runOn (liftExcept result) workpiece = (result, workpiece) := by
  cases result <;> rfl

def editTag (edit : Tag → Tag) : Effects Unit :=
  modify fun workpiece =>
    { workpiece with element := ⟨edit workpiece.element.tag, workpiece.element.children⟩ }

def request (path : String) : Effects ImportRef :=
  modifyGet fun workpiece =>
    let (target, imports) := workpiece.imports.request path
    (target, { workpiece with imports })

end Effects

/-- The element that the first phase leaves. -/
def Step.leave (element : Element) : Step → Element
  | .unchanged => element
  | .inPlace tag _ _ => ⟨tag, element.children⟩
  | .picture skeleton _ => skeleton

namespace Converter

open Effects

/-- The effects of a plan. -/
def performInPlace (converter : Converter) (plan : Plan) : Effects Step := do
  let target ← request (converter.compress plan.path plan.settings none)
  editTag (·.setValueAt plan.index (.bound (.module target)))
  if plan.settings.mode = .withSrcset then
    let target ← request (converter.srcset plan.path plan.settings none)
    editTag (·.push ⟨"srcset", .bound (.moduleDefault target), plan.sourceSpan⟩)
  if !plan.settings.noLazy then
    editTag (requestLazyLoading · plan.directive.span)
  editTag (·.keep fun attr => !attr.isStaticNamed plan.directive.name)
  let image := (← get).element.tag
  if plan.settings.mode = .picture then
    modify ({ · with element := skeleton image })
    return .picture (skeleton image) (converter.pending plan image)
  else
    return .inPlace image plan.path plan.settings.mode

/-- The effects of the first phase. -/
def stageInPlace (converter : Converter) : Effects Step := do
  let tag := (← get).element.tag
  match tag.isNamed "img", converter.directive? tag with
  | true, some directive =>
    let plan ← liftExcept (converter.plan tag directive)
    converter.performInPlace plan
  | _, _ => return .unchanged

/-- The effects of both phases, one right after the other. -/
def transformInPlace (converter : Converter) : Effects Outcome := do
  match ← converter.stageInPlace with
  | .unchanged => return .unchanged
  | .inPlace _ _ _ => return .inPlace
  | .picture _ pending =>
    modifyGet fun workpiece =>
      let (outcome, element, imports) := pending.complete workpiece.element workpiece.imports
      (outcome, ⟨element, imports⟩)

variable {converter : Converter}

/-- To carry out a plan cannot fail. -/
theorem runOn_performInPlace (plan : Plan) (element : Element) (imports : Imports) :
    (converter.performInPlace plan).runOn ⟨element, imports⟩ =
      let performed := converter.perform plan element.tag imports
      (.ok performed.1, ⟨performed.1.leave element, performed.2⟩) := by
  cases hMode : plan.settings.mode <;> cases hLazy : plan.settings.noLazy <;>
    simp [performInPlace, perform, convert, bindImports, hMode, hLazy] <;> rfl

/-- The effects of the first phase come to what the first phase says is to be left. If it fails
there were none. -/
theorem runOn_stageInPlace (element : Element) (imports : Imports) :
    converter.stageInPlace.runOn ⟨element, imports⟩ =
      match converter.stage element imports with
      | .error cause => (.error cause, ⟨element, imports⟩)
      | .ok (step, later) => (.ok step, ⟨step.leave element, later⟩) := by
  have hRun : converter.stageInPlace.runOn ⟨element, imports⟩ =
      (match element.tag.isNamed "img", converter.directive? element.tag with
        | true, some directive =>
          liftExcept (converter.plan element.tag directive) >>= converter.performInPlace
        | _, _ => return .unchanged : Effects Step).runOn ⟨element, imports⟩ := rfl
  cases hCandidate : converter.isCandidate element.tag with
  | false =>
      rw [hRun, stage_of_not_candidate imports hCandidate]
      split
      · rename_i directive hNamed hDirective
        simp [isCandidate, hNamed, hDirective] at hCandidate
      · rfl
  | true =>
      obtain ⟨hNamed, -⟩ := (converter.isCandidate_iff element.tag).mp hCandidate
      obtain ⟨directive, hDirective, hStage⟩ := stage_of_candidate imports hCandidate
      rw [hRun, hStage, hNamed, hDirective]
      simp only [runOn_bind, runOn_liftExcept]
      cases converter.plan element.tag directive with
      | error cause => rfl
      | ok plan => exact runOn_performInPlace plan element imports

/-- The effects of both phases come to what the conversion says is left. -/
theorem runOn_transformInPlace (element : Element) (imports : Imports) :
    converter.transformInPlace.runOn ⟨element, imports⟩ =
      let run := converter.transform element imports
      (run.result, ⟨run.left, run.imports⟩) := by
  rw [transformInPlace, runOn_bind, runOn_stageInPlace, transform]
  cases converter.stage element imports with
  | error cause => rfl
  | ok staged =>
      obtain ⟨step, later⟩ := staged
      cases step <;> rfl

theorem stage_of_runOn_error {element : Element} {imports : Imports} {cause : ElementError}
    (h : (converter.stageInPlace.runOn ⟨element, imports⟩).1 = .error cause) :
    converter.stage element imports = .error cause := by
  rw [runOn_stageInPlace] at h
  cases hStage : converter.stage element imports with
  | error other => simpa [hStage] using h
  | ok staged => simp [hStage] at h

/-- An error of the first phase leaves the element and the imports as they were. -/
theorem runOn_stageInPlace_of_error {element : Element} {imports : Imports} {cause : ElementError}
    (h : (converter.stageInPlace.runOn ⟨element, imports⟩).1 = .error cause) :
    (converter.stageInPlace.runOn ⟨element, imports⟩).2 = ⟨element, imports⟩ := by
  simp only [runOn_stageInPlace, stage_of_runOn_error h]

theorem runOn_transformInPlace_of_error {element : Element} {imports : Imports}
    {cause : ElementError}
    (h : (converter.transformInPlace.runOn ⟨element, imports⟩).1 = .error cause) :
    (converter.transformInPlace.runOn ⟨element, imports⟩).2 = ⟨element, imports⟩ := by
  rw [runOn_transformInPlace] at h ⊢
  obtain ⟨hLeft, hImports⟩ := transform_of_error h
  dsimp only
  rw [hLeft, hImports]

end Converter

end ResponsiveImages
