import ResponsiveImages.Proofs.Conversion.InPlace
import ResponsiveImages.Proofs.Imports

/-! A conversion that is done again. Imports are only added behind the others, so that whatever is
done in between, the same element is given the same references and nothing is imported twice. -/
namespace ResponsiveImages

open Markup (Attribute Element Tag)

namespace Imports

theorem request_of_index? {imports : Imports} {path : String} {index : Nat}
    (h : imports.index? path = some index) : imports.request path = (⟨index, path⟩, imports) := by
  simp [request, h]

/-- A path keeps its place while imports are added. -/
theorem index?_of_extends {later earlier : Imports} {path : String} {index : Nat}
    (h : earlier.index? path = some index) (hLater : later.Extends earlier) :
    later.index? path = some index := by
  obtain ⟨added, hAdded⟩ := hLater
  rw [index?, ← hAdded, List.idxOf?, List.findIdx?_append]
  rw [index?, List.idxOf?] at h
  rw [h, Option.some_or]

/-- The place of a path is known once the path was requested. -/
theorem index?_request (imports : Imports) (path : String) :
    (imports.request path).2.index? path = some (imports.request path).1.index := by
  cases hKnown : imports.index? path with
  | some index => simp [request_of_index? hKnown, hKnown]
  | none =>
      have hNew : path ∉ imports.paths := List.idxOf?_eq_none_iff.mp hKnown
      have hRequest : imports.request path =
          (⟨imports.size, path⟩, ⟨imports.paths ++ [path]⟩) := by simp [request, hKnown]
      rw [hRequest, index?, List.idxOf?_eq_some_iff]
      refine ⟨by simp [size], by simp [size], fun place hPlace => ?_⟩
      have hEarlier : place < imports.paths.length := hPlace
      rw [List.getElem_append_left hEarlier]
      exact fun hSame => hNew (hSame ▸ List.getElem_mem hEarlier)

/-- Work of this kind only adds imports. Done again at any later time it has the same result, and
adds nothing. -/
structure IsRepeatable {α : Type} (work : Imports → α × Imports) : Prop where
  grows : ∀ imports, (work imports).2.Extends imports
  again : ∀ {imports later : Imports}, later.Extends (work imports).2 →
    work later = ((work imports).1, later)

theorem isRepeatable_request (path : String) : IsRepeatable (·.request path) where
  grows imports := extends_request imports path
  again {imports later} hLater := by
    have hIndex := index?_of_extends (index?_request imports path) hLater
    rw [request_of_index? hIndex]
    exact Prod.ext (congrArg (ImportRef.mk _) (path_request imports path).symm) rfl

theorem isRepeatable_nothing {α : Type} (value : α) :
    IsRepeatable fun imports => (value, imports) where
  grows := Extends.refl
  again _ := rfl

/-- Work in two steps, where the second step may depend on the result of the first. -/
theorem IsRepeatable.next {α β : Type} {first : Imports → α × Imports}
    {second : α → Imports → β × Imports} (hFirst : IsRepeatable first)
    (hSecond : ∀ value, IsRepeatable (second value)) :
    IsRepeatable fun imports => second (first imports).1 (first imports).2 where
  grows imports := ((hSecond _).grows _).trans (hFirst.grows imports)
  again {imports later} hLater := by
    have hBefore := hLater.trans ((hSecond _).grows _)
    have hFirstAgain := hFirst.again hBefore
    have hSecondAgain := (hSecond _).again hLater
    simp only [hFirstAgain, hSecondAgain]

theorem IsRepeatable.map {α β : Type} {work : Imports → α × Imports} (h : IsRepeatable work)
    (f : α → β) : IsRepeatable fun imports => (f (work imports).1, (work imports).2) :=
  h.next fun value => isRepeatable_nothing (f value)

end Imports

open Imports (IsRepeatable isRepeatable_request isRepeatable_nothing)

theorem Run.eq_of_result {ε α β : Type} {run : Run ε α β} {result : Except ε α}
    (h : run.result = result) : run = ⟨result, run.left, run.imports, run.events⟩ := by
  rw [← h]

namespace Pending

theorem isRepeatable_sourcesFrom (pending : Pending) (seen : List (Option String))
    (formats : List SourceFormat) :
    IsRepeatable fun imports => pending.sourcesFrom seen imports formats := by
  induction formats generalizing seen with
  | nil => exact isRepeatable_nothing []
  | cons entry entries ih =>
      simp only [sourcesFrom]
      split
      · exact ih seen
      · exact (isRepeatable_request _).next fun target =>
          (ih _).map (pending.source (pending.mediaType? entry) target :: ·)

/-- The second phase, with its result in front of the imports. -/
theorem isRepeatable_complete (pending : Pending) (picture : Element) :
    IsRepeatable fun imports =>
      let completed := pending.complete picture imports
      ((completed.1, completed.2.1), completed.2.2) := by
  by_cases hNamed : picture.tag.isNamed "picture" = true
  · simp only [complete, hNamed, reduceIte]
    exact (pending.isRepeatable_sourcesFrom [] pending.formats).map fun sources =>
      (Outcome.replaced sources.length,
        (⟨picture.tag, sources.map (Markup.Node.element · []) ++ picture.children⟩ : Element))
  · simp only [complete, hNamed]
    exact isRepeatable_nothing (Outcome.unchanged, picture)

end Pending

namespace Converter

variable (converter : Converter)

theorem isRepeatable_bindImports (plan : Plan) (tag : Tag) :
    IsRepeatable (converter.bindImports plan tag) := by
  unfold bindImports
  cases plan.settings.mode with
  | withSrcset =>
      exact (isRepeatable_request _).next fun target =>
        (isRepeatable_request _).map fun second =>
          (tag.setValueAt plan.index (.bound (.module target))).push
            ⟨"srcset", .bound (.moduleDefault second), plan.sourceSpan⟩
  | compressed | picture =>
      exact (isRepeatable_request _).map fun target =>
        tag.setValueAt plan.index (.bound (.module target))

theorem isRepeatable_convert (plan : Plan) (tag : Tag) :
    IsRepeatable (converter.convert plan tag) :=
  (isRepeatable_bindImports converter plan tag).map fun bound =>
    (if plan.settings.noLazy then bound else requestLazyLoading bound plan.directive.span).keep
      fun attr => !attr.isStaticNamed plan.directive.name

theorem isRepeatable_perform (plan : Plan) (tag : Tag) :
    IsRepeatable (converter.perform plan tag) := by
  have hConvert := isRepeatable_convert converter plan tag
  unfold perform
  cases plan.settings.mode with
  | picture =>
      exact hConvert.map fun image => Step.picture (skeleton image) (converter.pending plan image)
  | compressed => exact hConvert.map fun image => Step.inPlace image plan.path .compressed
  | withSrcset => exact hConvert.map fun image => Step.inPlace image plan.path .withSrcset

/-- The first phase fails whatever the imports are, or else its work can be repeated. -/
theorem stage_isRepeatable (element : Element) :
    (∃ cause, ∀ imports, converter.stage element imports = .error cause) ∨
    ∃ work, IsRepeatable work ∧
      ∀ imports, converter.stage element imports = .ok (work imports) := by
  cases hCandidate : converter.isCandidate element.tag with
  | false =>
      exact .inr ⟨_, isRepeatable_nothing .unchanged, fun imports =>
        stage_of_not_candidate imports hCandidate⟩
  | true =>
      obtain ⟨hNamed, directive, hDirective⟩ :=
        (converter.isCandidate_iff element.tag).mp hCandidate
      cases hPlan : converter.plan element.tag directive with
      | error cause =>
          exact .inl ⟨cause, fun imports => by simp [stage, hNamed, hDirective, hPlan, Except.map]⟩
      | ok plan =>
          refine .inr ⟨_, isRepeatable_perform converter plan element.tag, fun imports => ?_⟩
          simp [stage, hNamed, hDirective, hPlan, Except.map]

/-- A conversion with its imports apart from everything else that it leaves. -/
def transformed (element : Element) (imports : Imports) :
    (Except ElementError Outcome × Element × List Event) × Imports :=
  let run := converter.transform element imports
  ((run.result, run.left, run.events), run.imports)

/-- What is done behind the first phase. -/
def finish (element : Element) : Step → Imports →
    (Except ElementError Outcome × Element × List Event) × Imports
  | .unchanged, imports => ((.ok .unchanged, element, []), imports)
  | .inPlace tag path mode, imports =>
    ((.ok .inPlace, ⟨tag, element.children⟩, [.inPlace path mode]), imports)
  | .picture skeleton pending, imports =>
    let completed := pending.complete skeleton imports
    ((.ok completed.1, completed.2.1, pending.events completed.1), completed.2.2)

theorem isRepeatable_finish (element : Element) (step : Step) :
    IsRepeatable (finish element step) := by
  cases step with
  | unchanged | inPlace => exact isRepeatable_nothing _
  | picture skeleton pending =>
      exact (pending.isRepeatable_complete skeleton).map fun completed =>
        (Except.ok completed.1, completed.2, pending.events completed.1)

theorem isRepeatable_transformed (element : Element) :
    IsRepeatable (converter.transformed element) := by
  rcases converter.stage_isRepeatable element with ⟨cause, hStage⟩ | ⟨work, hWork, hStage⟩
  · have hFailed : converter.transformed element =
        fun imports => ((.error cause, element, []), imports) := by
      funext imports
      simp only [transformed, transform, hStage]
    rw [hFailed]
    exact isRepeatable_nothing _
  · have hPhases : converter.transformed element =
        fun imports => finish element (work imports).1 (work imports).2 := by
      funext imports
      rw [transformed, transform, hStage]
      rcases work imports with ⟨step, staged⟩
      cases step <;> simp only [finish]
    rw [hPhases]
    exact hWork.next (isRepeatable_finish element)

/-- A conversion that is done again, with imports added to those that it left, does the same again
and leaves the imports as they are. -/
theorem transform_of_extends {converter : Converter} {element left : Element}
    {imports later last : Imports} {outcome : Outcome} {events : List Event}
    (h : converter.transform element imports = ⟨.ok outcome, left, later, events⟩)
    (hLast : last.Extends later) :
    converter.transform element last = ⟨.ok outcome, left, last, events⟩ := by
  have hFirst : converter.transformed element imports = ((.ok outcome, left, events), later) := by
    rw [transformed, h]
  have hAdded : last.Extends (converter.transformed element imports).2 := by rwa [hFirst]
  have hAgain := (isRepeatable_transformed converter element).again hAdded
  rw [hFirst, transformed] at hAgain
  simp only [Prod.mk.injEq] at hAgain
  obtain ⟨⟨hResult, hLeft, hEvents⟩, hImports⟩ := hAgain
  rw [← hResult, ← hLeft, ← hEvents]
  generalize converter.transform element last = again at hImports ⊢
  cases hImports
  rfl

/-- Imports come about from others in the course of any further work: requests, single phases and
whole conversions, of any elements and by any converters. A conversion may also fail. -/
inductive Follows (start : Imports) : Imports → Prop
  | start : Follows start start
  | request {later : Imports} (h : Follows start later) (path : String) :
      Follows start (later.request path).2
  | stage {later next : Imports} {step : Step} (h : Follows start later) (converter : Converter)
      (element : Element) (hStage : converter.stage element later = .ok (step, next)) :
      Follows start next
  | complete {later : Imports} (h : Follows start later) (pending : Pending) (picture : Element) :
      Follows start (pending.complete picture later).2.2
  | transform {later : Imports} (h : Follows start later) (converter : Converter)
      (element : Element) : Follows start (converter.transform element later).imports

/-- Each step only adds imports, and so does a history. -/
theorem Follows.extends {start last : Imports} (h : Follows start last) : last.Extends start := by
  induction h with
  | start => exact .refl start
  | request _ path ih => exact (Imports.extends_request _ path).trans ih
  | @stage later next step _ converter element hStage ih =>
      rcases converter.stage_isRepeatable element with ⟨cause, hFails⟩ | ⟨work, hWork, hWorks⟩
      · rw [hFails] at hStage
        cases hStage
      · have hNext : work later = (step, next) := by
          rw [hWorks] at hStage
          exact Except.ok.inj hStage
        have hGrows := hWork.grows later
        rw [hNext] at hGrows
        exact hGrows.trans ih
  | complete _ pending picture ih =>
      exact ((pending.isRepeatable_complete picture).grows _).trans ih
  | transform _ converter element ih =>
      exact ((isRepeatable_transformed converter element).grows _).trans ih

/-- An image that is there again costs nothing. Whatever was done since an element was converted,
the conversion of an equal element leaves the same element, with the same references, and the same
outcome, and it adds no import. -/
theorem transform_repeated (converter : Converter) (element left : Element)
    (imports later last : Imports) (outcome : Outcome) (events : List Event)
    (h : converter.transform element imports = ⟨.ok outcome, left, later, events⟩)
    (hHistory : Follows later last) :
    converter.transform element last = ⟨.ok outcome, left, last, events⟩ :=
  transform_of_extends h hHistory.extends

/-- A picture is converted again after an element was refused, an image was converted that has one
of its requests in common, and a path was requested that follows neither. -/
theorem transform_repeated_picture :
    let converter := Converter.ofConfig Config.empty
    let image (src : List Attribute) (directive : String) : Element :=
      ⟨{ Tag.named "img" with attrs := src ++ [⟨"modernize", .text directive, none⟩] }, []⟩
    let source (path : String) : List Attribute := [⟨"src", .text path, none⟩]
    let element := image (source "./a.png") ""
    let first := converter.transform element ⟨["./b.png"]⟩
    let refused := converter.transform (image [] "") first.imports
    let other := converter.transform (image (source "./a.png") "sizes=[]") refused.imports
    let last := (other.imports.request "./c.png").2
    refused.result.isOk = false ∧ last.size = first.imports.size + 3 ∧
      ∃ left later events,
        converter.transform element ⟨["./b.png"]⟩ = ⟨.ok (.replaced 2), left, later, events⟩ ∧
        Follows later last ∧
        converter.transform element last = ⟨.ok (.replaced 2), left, last, events⟩ := by
  intro converter image source element first refused other last
  have hRefused : refused.result.isOk = false := by decide +kernel
  have hSize : last.size = first.imports.size + 3 := by decide +kernel
  have hOutcome : first.result = .ok (.replaced 2) := by decide +kernel
  have hFirst : first = ⟨.ok (.replaced 2), first.left, first.imports, first.events⟩ :=
    Run.eq_of_result hOutcome
  have hHistory : Follows first.imports last :=
    ((Follows.start.transform converter (image [] "")).transform converter
      (image (source "./a.png") "sizes=[]")).request "./c.png"
  exact ⟨hRefused, hSize, first.left, first.imports, first.events, hFirst, hHistory,
    transform_repeated converter element first.left ⟨["./b.png"]⟩ first.imports last _ first.events
      hFirst hHistory⟩

end Converter

end ResponsiveImages
