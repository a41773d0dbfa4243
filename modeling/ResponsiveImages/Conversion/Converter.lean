import ResponsiveImages.Directive.Parse
import ResponsiveImages.LoaderRequest
import ResponsiveImages.Log
import ResponsiveImages.Markup.Node

/-!
The conversion of one element. An image that carries the directive gets a compressed source, and
depending on its settings a source set or a picture around it. The sources of a picture are added in
a second phase, so that others may work on the picture in between.
-/
namespace ResponsiveImages

open Markup (Attribute Element Expression Node Span Tag Value)

/-- Settings that hold for every element, and the rules for requests. -/
structure Converter where
  settings : Settings
  compress : Transformer
  srcset : Transformer

/-- Why an element that carries the directive cannot be converted. -/
inductive ElementError where
  | missingSource
  /-- The source is an expression, and not an import. -/
  | unresolvedSource (expression : String)
  | emptySource
  | directive (error : Directive.Error)
  deriving DecidableEq, Repr

namespace ElementError

def message : ElementError → String
  | missingSource => "src attribute not found"
  | unresolvedSource expression =>
    "src binding `" ++ expression ++ "` does not resolve to an import"
  | emptySource => "src attribute does not have a value"
  | directive error => error.message

end ElementError

/-- What the first phase finds out about a tag that carries the directive. -/
structure Plan where
  directive : Attribute
  /-- The place of the source attribute. -/
  index : Nat
  sourceSpan : Option Span
  /-- The image path behind the source attribute. -/
  path : String
  settings : Settings

/-- What is needed to add the sources to a picture. -/
structure Pending where
  path : String
  formats : List SourceFormat
  /-- The request for the source set in a format. -/
  request : Option Format → String
  media : Option Attribute
  sizes : Option Attribute
  sourceSpan : Option Span
  directiveSpan : Option Span
  elementSpan : Option Span

/-- The first phase for one element. -/
inductive Step where
  | unchanged
  /-- The element is still an image, with this tag in place of its own. -/
  | inPlace (tag : Tag) (path : String) (mode : OutputMode)
  /-- A picture takes the place of the element. Its sources are still to be added. -/
  | picture (skeleton : Element) (pending : Pending)

/-- Both phases for one element. -/
inductive Outcome where
  | unchanged
  | inPlace
  | replaced (sources : Nat)
  deriving DecidableEq, Repr

/-- What is left behind when something is converted in place. An error leaves a value behind too. -/
structure Run (ε α β : Type) where
  result : Except ε α
  left : β
  imports : Imports
  events : List Event

namespace Pending

/-- The media type of a source, if it is known. -/
def mediaType? (pending : Pending) : SourceFormat → Option String
  | .native => MediaType.ofPath? pending.path
  | .named format => some format.mediaType

/-- A source of the picture, with the import of its source set. -/
def source (pending : Pending) (mediaType : Option String) (target : ImportRef) : Tag where
  name := "source"
  attrs :=
    (match mediaType with
      | some mediaType => [⟨"type", .text mediaType, pending.directiveSpan⟩]
      | none => [])
    ++ [⟨"srcset", .bound (.moduleDefault target), pending.sourceSpan⟩]
    ++ pending.media.toList ++ pending.sizes.toList
  closing := .selfClosing
  span := pending.elementSpan
  raw := none

/-- One source for each media type that was not seen before, in the order of the formats. -/
def sourcesFrom (pending : Pending) (seen : List (Option String)) (imports : Imports) :
    List SourceFormat → List Tag × Imports
  | [] => ([], imports)
  | entry :: entries =>
    let mediaType := pending.mediaType? entry
    if seen.contains mediaType then pending.sourcesFrom seen imports entries
    else
      let (target, imports) := imports.request (pending.request entry.format?)
      let (sources, imports) := pending.sourcesFrom (mediaType :: seen) imports entries
      (pending.source mediaType target :: sources, imports)

def sources (pending : Pending) (imports : Imports) : List Tag × Imports :=
  pending.sourcesFrom [] imports pending.formats

theorem isNamed_of_mem_sourcesFrom {pending : Pending} {seen : List (Option String)}
    {imports : Imports} {formats : List SourceFormat} {tag : Tag}
    (h : tag ∈ (pending.sourcesFrom seen imports formats).1) : tag.isNamed "source" = true := by
  induction formats generalizing seen imports with
  | nil => simp [sourcesFrom] at h
  | cons entry entries ih =>
      simp only [sourcesFrom] at h
      split at h
      · exact ih h
      · rcases List.mem_cons.mp h with rfl | hRest
        · exact Text.equalIgnoringCase_refl "source"
        · exact ih hRest

/-- Adds the sources in front of the children, if the element is still a picture. -/
def complete (pending : Pending) (picture : Element) (imports : Imports) :
    Outcome × Element × Imports :=
  if picture.tag.isNamed "picture" then
    let (sources, imports) := pending.sources imports
    let children := sources.map (Node.element · []) ++ picture.children
    (.replaced sources.length, ⟨picture.tag, children⟩, imports)
  else (.unchanged, picture, imports)

/-- What the second phase reports. -/
def events (pending : Pending) : Outcome → List Event
  | .replaced sources => [.replaced pending.path sources]
  | _ => []

end Pending

namespace Converter

def ofConfig (config : Config) : Converter where
  settings := config.settings
  compress := config.compress.getD LoaderRequest.compress
  srcset := config.srcset.getD LoaderRequest.srcset

/-- The first static attribute that is named like the directive. -/
def directive? (converter : Converter) (tag : Tag) : Option Attribute :=
  tag.attrs.find? (·.isStaticNamed converter.settings.attributeName)

/-- An image that carries the directive. -/
def isCandidate (converter : Converter) (tag : Tag) : Bool :=
  tag.isNamed "img" && (converter.directive? tag).isSome

/-- The settings for one directive value. -/
def resolve (converter : Converter) (value : String) : Except Directive.Error Settings :=
  if value.isEmpty then .ok converter.settings
  else (Directive.parse value).map converter.settings.apply

/-- The image path behind the value of a source attribute. -/
def sourcePath : Value → Except ElementError String
  | .text path => if path.isEmpty then .error .emptySource else .ok path
  | .bound (.raw expression) => .error (.unresolvedSource expression)
  | .bound (.module target) => if target.path.isEmpty then .error .emptySource else .ok target.path
  | .bound (.moduleDefault target) =>
    if target.path.isEmpty then .error .emptySource else .ok target.path

/-- The place and the span of the source attribute, and the image path behind it. -/
def locateSource (tag : Tag) : Except ElementError (Nat × Option Span × String) :=
  match tag.attrIndex? "src", tag.attr? "src" with
  | some index, some attr => (sourcePath attr.value).map (index, attr.span, ·)
  | _, _ => .error .missingSource

/-- The tag with the request for lazy loading, unless it says something about loading already. -/
def requestLazyLoading (tag : Tag) (span : Option Span) : Tag :=
  if tag.attrs.any (·.isStaticNamed "loading") then tag
  else tag.push ⟨"loading", .text "lazy", span⟩

/-- The picture that takes the place of an image. -/
def skeleton (image : Tag) : Element :=
  ⟨{ Tag.named "picture" with span := image.span }, [.element image []]⟩

/-- What has to be done to a tag that carries the directive. Only finding this out can fail. -/
def plan (converter : Converter) (tag : Tag) (directive : Attribute) :
    Except ElementError Plan := do
  let (index, sourceSpan, path) ← locateSource tag
  let settings ←
    (converter.resolve (directive.value.text?.getD "")).mapError ElementError.directive
  return { directive, index, sourceSpan, path, settings }

/-- The image with an import for its source, and with one for its source set if it gets one. -/
def bindImports (converter : Converter) (plan : Plan) (tag : Tag) (imports : Imports) :
    Tag × Imports :=
  let (target, imports) := imports.request (converter.compress plan.path plan.settings none)
  let tag := tag.setValueAt plan.index (.bound (.module target))
  match plan.settings.mode with
  | .withSrcset =>
    let (target, imports) := imports.request (converter.srcset plan.path plan.settings none)
    (tag.push ⟨"srcset", .bound (.moduleDefault target), plan.sourceSpan⟩, imports)
  | _ => (tag, imports)

/-- The converted image. No copy of the directive is left on it. -/
def convert (converter : Converter) (plan : Plan) (tag : Tag) (imports : Imports) :
    Tag × Imports :=
  let (tag, imports) := converter.bindImports plan tag imports
  let tag := if plan.settings.noLazy then tag else requestLazyLoading tag plan.directive.span
  (tag.keep fun attr => !attr.isStaticNamed plan.directive.name, imports)

/-- What the second phase needs to know about a converted image. -/
def pending (converter : Converter) (plan : Plan) (image : Tag) : Pending where
  path := plan.path
  formats := plan.settings.imageFormats
  request := converter.srcset plan.path plan.settings
  media := image.attr? "media"
  sizes := image.attr? "sizes"
  sourceSpan := plan.sourceSpan
  directiveSpan := plan.directive.span
  elementSpan := image.span

/-- The first phase as planned. -/
def perform (converter : Converter) (plan : Plan) (tag : Tag) (imports : Imports) :
    Step × Imports :=
  let (image, imports) := converter.convert plan tag imports
  match plan.settings.mode with
  | .picture => (.picture (skeleton image) (converter.pending plan image), imports)
  | mode => (.inPlace image plan.path mode, imports)

/-- The first phase for one element. -/
def stage (converter : Converter) (element : Element) (imports : Imports) :
    Except ElementError (Step × Imports) :=
  match element.tag.isNamed "img", converter.directive? element.tag with
  | true, some directive =>
    (converter.plan element.tag directive).map fun plan =>
      converter.perform plan element.tag imports
  | _, _ => .ok (.unchanged, imports)

theorem isCandidate_iff (converter : Converter) (tag : Tag) :
    converter.isCandidate tag = true ↔
      tag.isNamed "img" = true ∧ ∃ directive, converter.directive? tag = some directive := by
  simp [isCandidate, Option.isSome_iff_exists]

/-- What is no candidate passes through the first phase as it is. -/
theorem stage_of_not_candidate {converter : Converter} {element : Element} (imports : Imports)
    (h : converter.isCandidate element.tag = false) :
    converter.stage element imports = .ok (.unchanged, imports) := by
  unfold stage
  split
  · rename_i directive hNamed hDirective
    simp [isCandidate, hNamed, hDirective] at h
  · rfl

/-- For a candidate the first phase finds a plan and then carries it out. -/
theorem stage_of_candidate {converter : Converter} {element : Element} (imports : Imports)
    (h : converter.isCandidate element.tag = true) :
    ∃ directive, converter.directive? element.tag = some directive ∧
      converter.stage element imports =
        (converter.plan element.tag directive).map fun plan =>
          converter.perform plan element.tag imports := by
  obtain ⟨hNamed, directive, hDirective⟩ := (converter.isCandidate_iff element.tag).mp h
  exact ⟨directive, hDirective, by simp [stage, hNamed, hDirective]⟩

theorem plan_directive {converter : Converter} {tag : Tag} {directive : Attribute} {plan : Plan}
    (h : converter.plan tag directive = .ok plan) : plan.directive = directive := by
  unfold Converter.plan at h
  cases hSource : locateSource tag with
  | error error =>
      rw [hSource] at h
      cases h
  | ok source =>
      cases hSettings : converter.resolve (directive.value.text?.getD "") with
      | error error =>
          rw [hSource, hSettings] at h
          cases h
      | ok settings =>
          rw [hSource, hSettings] at h
          cases h
          rfl

/-- Every static attribute that is named like the directive is gone from a converted image, also
one that the conversion added itself. -/
theorem isCandidate_convert {converter : Converter} {plan : Plan} (tag : Tag) (imports : Imports)
    (hName : plan.directive.name = converter.settings.attributeName) :
    converter.isCandidate (converter.convert plan tag imports).1 = false := by
  have hNone : converter.directive? (converter.convert plan tag imports).1 = none := by
    simp +contextual [convert, directive?, hName]
  simp [isCandidate, hNone]

@[simp] theorem requestLazyLoading_name (tag : Tag) (span : Option Span) :
    (requestLazyLoading tag span).name = tag.name := by
  unfold requestLazyLoading
  split <;> simp

@[simp] theorem bindImports_name (converter : Converter) (plan : Plan) (tag : Tag)
    (imports : Imports) : (converter.bindImports plan tag imports).1.name = tag.name := by
  unfold bindImports
  dsimp only
  split <;> simp

/-- A converted image is still an image. -/
@[simp] theorem convert_name (converter : Converter) (plan : Plan) (tag : Tag)
    (imports : Imports) : (converter.convert plan tag imports).1.name = tag.name := by
  simp only [convert, Tag.keep_name]
  split <;> simp

/-- Carrying out a plan leaves the imports of the conversion, and either a picture around the
converted image or that image itself. -/
theorem perform_cases (converter : Converter) (plan : Plan) (tag : Tag) (imports : Imports) :
    let converted := converter.convert plan tag imports
    let performed := converter.perform plan tag imports
    performed.2 = converted.2 ∧
      (performed.1 = .picture (skeleton converted.1) (converter.pending plan converted.1) ∨
        performed.1 = .inPlace converted.1 plan.path plan.settings.mode) := by
  dsimp only [perform]
  split
  · exact ⟨rfl, Or.inl rfl⟩
  · exact ⟨rfl, Or.inr rfl⟩

/-- Everything that the first phase can do. An image that it converts is a candidate no more, and
the imports are those that the conversion leaves. -/
theorem stage_ok {converter : Converter} {element : Element} {imports later : Imports}
    {step : Step} (h : converter.stage element imports = .ok (step, later)) :
    (converter.isCandidate element.tag = false ∧ step = .unchanged ∧ later = imports) ∨
    (converter.isCandidate element.tag = true ∧ ∃ plan image,
      converter.convert plan element.tag imports = (image, later) ∧
      converter.isCandidate image = false ∧
      (step = .picture (skeleton image) (converter.pending plan image) ∨
        step = .inPlace image plan.path plan.settings.mode)) := by
  cases hCandidate : converter.isCandidate element.tag with
  | false =>
      rw [stage_of_not_candidate imports hCandidate] at h
      cases h
      exact Or.inl ⟨rfl, rfl, rfl⟩
  | true =>
      obtain ⟨directive, hDirective, hStage⟩ := stage_of_candidate imports hCandidate
      rw [hStage] at h
      cases hPlan : converter.plan element.tag directive with
      | error error => simp [hPlan, Except.map] at h
      | ok plan =>
          have hName : plan.directive.name = converter.settings.attributeName := by
            rw [plan_directive hPlan]
            exact ((Attribute.isStaticNamed_iff _ _).mp (List.find?_some hDirective)).2
          simp only [hPlan, Except.map, Except.ok.injEq] at h
          obtain ⟨hLater, hStep⟩ := perform_cases converter plan element.tag imports
          rw [h] at hLater hStep
          exact Or.inr ⟨rfl, plan, _, Prod.ext rfl hLater.symm,
            isCandidate_convert element.tag imports hName, hStep⟩

/-- Both phases, one right after the other. An element that is refused stays as it is. -/
def transform (converter : Converter) (element : Element) (imports : Imports) :
    Run ElementError Outcome Element :=
  match converter.stage element imports with
  | .error error => ⟨.error error, element, imports, []⟩
  | .ok (.unchanged, imports) => ⟨.ok .unchanged, element, imports, []⟩
  | .ok (.inPlace tag path mode, imports) =>
    ⟨.ok .inPlace, ⟨tag, element.children⟩, imports, [.inPlace path mode]⟩
  | .ok (.picture skeleton pending, imports) =>
    let (outcome, picture, imports) := pending.complete skeleton imports
    ⟨.ok outcome, picture, imports, pending.events outcome⟩

end Converter

end ResponsiveImages
