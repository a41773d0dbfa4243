import ResponsiveImages.Proofs.Conversion.InPlace
import ResponsiveImages.Proofs.Conversion.References

/-! The attributes of a converted image. One value is replaced in its place, attributes are added
behind the others, and the copies of the directive are taken out; all else stays as and where it
was. -/
namespace ResponsiveImages

open Markup (Attribute Element Span Tag Value)

namespace Markup.Tag

/-- A value is replaced between the attributes before it and those after it. -/
theorem setValueAt_between {tag : Tag} {before after : List Attribute} {attr : Attribute}
    (h : tag.attrs = before ++ attr :: after) (value : Value) :
    tag.setValueAt before.length value =
      { tag with attrs := before ++ { attr with value := value } :: after, raw := none } := by
  have hIndex : before.length < tag.attrs.length := by simp [h]
  rw [setValueAt, if_pos hIndex, List.modify_eq_take_cons_drop hIndex]
  simp [h]

/-- Once the text of a tag is dropped, only the attributes show whether some were taken out. -/
theorem keep_of_raw_none (tag : Tag) (h : tag.raw = none) (condition : Attribute → Bool) :
    tag.keep condition = { tag with attrs := tag.attrs.filter condition } := by
  obtain ⟨name, attrs, closing, span, raw⟩ := tag
  subst h
  have hAttrs := keep_attrs ⟨name, attrs, closing, span, none⟩ condition
  simp only [keep] at hAttrs ⊢
  split
  · rename_i hLength
    rw [if_pos hLength] at hAttrs
    rw [← hAttrs]
  · rfl

/-- The first attribute of a name, and where it stands. -/
theorem exists_between_of_attrIndex? {tag : Tag} {name : String} {index : Nat} {attr : Attribute}
    (hIndex : tag.attrIndex? name = some index) (hAttr : tag.attr? name = some attr) :
    ∃ before after, tag.attrs = before ++ attr :: after ∧ before.length = index ∧
      attr.name = name ∧ ∀ other ∈ before, other.name ≠ name := by
  obtain ⟨hName, before, after, hSplit, hBefore⟩ := List.find?_eq_some_iff_append.mp hAttr
  have hNone : before.findIdx? (·.name == name) = none :=
    List.findIdx?_eq_none_iff.mpr fun other hOther => by simpa using hBefore other hOther
  rw [attrIndex?, hSplit, List.findIdx?_append, hNone, List.findIdx?_cons, if_pos hName] at hIndex
  refine ⟨before, after, hSplit, by simpa using hIndex, by simpa using hName, ?_⟩
  intro other hOther
  simpa using hBefore other hOther

end Markup.Tag

namespace Converter

/-- The parts of a tag that decide its conversion: the first source attribute between all others, the
first static attribute that is named like the directive, and what these two say. -/
structure Reading (converter : Converter) (tag : Tag) where
  before : List Attribute
  source : Attribute
  after : List Attribute
  directive : Attribute
  path : String
  settings : Settings
  attrs_eq : tag.attrs = before ++ source :: after
  source_name : source.name = "src"
  source_first : ∀ attr ∈ before, attr.name ≠ "src"
  path_eq : sourcePath source.value = .ok path
  directive_eq : converter.directive? tag = some directive
  settings_eq : converter.resolve (directive.value.text?.getD "") = .ok settings

variable {converter : Converter} {tag : Tag}

/-- The plan that is made of such parts. -/
def Reading.plan (reading : Reading converter tag) : Plan :=
  ⟨reading.directive, reading.before.length, reading.source.span, reading.path, reading.settings⟩

/-- Every plan for a tag is made of parts of this tag. -/
theorem exists_reading {directive : Attribute} {plan : Plan}
    (hDirective : converter.directive? tag = some directive)
    (hPlan : converter.plan tag directive = .ok plan) :
    ∃ reading : Reading converter tag, reading.plan = plan := by
  obtain ⟨⟨index, sourceSpan, path⟩, hLocated, hRest⟩ := bind_eq_ok.mp hPlan
  obtain ⟨settings, hSettings, hPlan⟩ := bind_eq_ok.mp hRest
  cases hPlan
  have hResolve : converter.resolve (directive.value.text?.getD "") = .ok settings := by
    cases hResolve : converter.resolve (directive.value.text?.getD "") with
    | error error => simp [hResolve, Except.mapError] at hSettings
    | ok other => simpa [hResolve, Except.mapError] using hSettings
  unfold locateSource at hLocated
  split at hLocated
  · rename_i found source hIndex hSource
    obtain ⟨value, hPath, hSame⟩ := map_eq_ok.mp hLocated
    cases hSame
    obtain ⟨before, after, hSplit, rfl, hName, hBefore⟩ :=
      Tag.exists_between_of_attrIndex? hIndex hSource
    exact ⟨⟨before, source, after, directive, path, settings, hSplit, hName, hBefore, hPath,
      hDirective, hResolve⟩, rfl⟩
  · cases hLocated

namespace Reading

theorem directive_name (reading : Reading converter tag) :
    reading.directive.name = converter.settings.attributeName :=
  ((Attribute.isStaticNamed_iff _ _).mp (List.find?_some reading.directive_eq)).2

/-- The import of the compressed image. -/
def target (reading : Reading converter tag) (imports : Imports) : ImportRef :=
  (imports.request (converter.compress reading.path reading.settings none)).1

/-- The import of the source set, which is requested behind the other one. -/
def second (reading : Reading converter tag) (imports : Imports) : ImportRef :=
  let imports := (imports.request (converter.compress reading.path reading.settings none)).2
  (imports.request (converter.srcset reading.path reading.settings none)).1

/-- The attribute for a source set, in the mode that has one. -/
def srcsetAttrs (reading : Reading converter tag) (imports : Imports) : List Attribute :=
  if reading.settings.mode = .withSrcset then
    [⟨"srcset", .bound (.moduleDefault (reading.second imports)), reading.source.span⟩]
  else []

/-- The request for lazy loading, unless the settings or the original attributes are against it. -/
def loadingAttrs (reading : Reading converter tag) : List Attribute :=
  if reading.settings.noLazy || tag.attrs.any (·.isStaticNamed "loading") then []
  else [⟨"loading", .text "lazy", reading.directive.span⟩]

/-- The tag with the import for the source, in its place, and the attribute for a source set. -/
def boundTag (reading : Reading converter tag) (imports : Imports) : Tag :=
  { tag with
    attrs :=
      reading.before ++ { reading.source with value := .bound (.module (reading.target imports)) } ::
        reading.after ++ reading.srcsetAttrs imports
    raw := none }

variable (reading : Reading converter tag) (imports : Imports)

theorem bindImports_eq :
    (converter.bindImports reading.plan tag imports).1 = reading.boundTag imports := by
  have hSet := Tag.setValueAt_between reading.attrs_eq (.bound (.module (reading.target imports)))
  rw [target] at hSet
  cases hMode : reading.settings.mode <;>
    simp [bindImports, plan, boundTag, target, second, srcsetAttrs, hMode, Tag.push, hSet]

/-- Neither the source nor the attribute for a source set says anything static about loading. -/
theorem any_loading_boundTag :
    (reading.boundTag imports).attrs.any (·.isStaticNamed "loading") =
      tag.attrs.any (·.isStaticNamed "loading") := by
  have hSource (value : Value) :
      ({ reading.source with value := value } : Attribute).isStaticNamed "loading" = false := by
    simp [Attribute.isStaticNamed, reading.source_name]
  have hAdded : (reading.srcsetAttrs imports).any (·.isStaticNamed "loading") = false := by
    unfold srcsetAttrs
    split <;> simp [Attribute.isStaticNamed]
  rw [boundTag, reading.attrs_eq]
  simp only [List.any_append, List.any_cons, hSource, hAdded, Bool.or_false]

/-- A converted image is the original tag with other attributes, and without its text. -/
theorem convert_eq :
    (converter.convert reading.plan tag imports).1 =
      { tag with
        attrs :=
          (reading.before ++
              { reading.source with value := .bound (.module (reading.target imports)) } ::
              reading.after ++ reading.srcsetAttrs imports ++ reading.loadingAttrs).filter
            fun attr => !attr.isStaticNamed converter.settings.attributeName
        raw := none } := by
  have hName : reading.plan.directive.name = converter.settings.attributeName :=
    reading.directive_name
  simp only [convert, requestLazyLoading, hName, bindImports_eq, any_loading_boundTag]
  rw [← Tag.keep_of_raw_none { tag with attrs := _, raw := none } rfl]
  cases hNoLazy : reading.settings.noLazy <;>
    cases hAny : tag.attrs.any (·.isStaticNamed "loading") <;>
    simp [plan, hNoLazy, hAny, loadingAttrs, boundTag, Tag.push]

end Reading

theorem perform_of_picture (plan : Plan) (hMode : plan.settings.mode = .picture) (tag : Tag)
    (imports : Imports) :
    (converter.perform plan tag imports).1 =
      .picture (skeleton (converter.convert plan tag imports).1)
        (converter.pending plan (converter.convert plan tag imports).1) := by
  simp [perform, hMode]

theorem perform_of_ne_picture (plan : Plan) (hMode : plan.settings.mode ≠ .picture) (tag : Tag)
    (imports : Imports) :
    (converter.perform plan tag imports).1 =
      .inPlace (converter.convert plan tag imports).1 plan.path plan.settings.mode := by
  cases hOther : plan.settings.mode with
  | picture => exact absurd hOther hMode
  | compressed => simp [perform, hOther]
  | withSrcset => simp [perform, hOther]

/-- What the first phase makes of a candidate that it does not refuse. The image is the original tag,
where the first source attribute holds the import of the compressed image, attributes are added
behind the others, and then every static attribute that is named like the directive is taken out.
This image stands for the element, and the children stay as they are, or it stands alone in a
picture that has no attributes. -/
theorem stageInPlace_frame (converter : Converter) (element : Element) (imports : Imports)
    (step : Step) (left : Workpiece) (hCandidate : converter.isCandidate element.tag = true)
    (hStage : converter.stageInPlace.runOn ⟨element, imports⟩ = (.ok step, left)) :
    ∃ (reading : Reading converter element.tag) (image : Tag),
      image = { element.tag with
        attrs :=
          (reading.before ++
              { reading.source with value := .bound (.module (reading.target imports)) } ::
              reading.after ++ reading.srcsetAttrs imports ++ reading.loadingAttrs).filter
            fun attr => !attr.isStaticNamed converter.settings.attributeName
        raw := none } ∧
      (reading.settings.mode ≠ .picture →
        left.element = ⟨image, element.children⟩ ∧
        step = .inPlace image reading.path reading.settings.mode) ∧
      (reading.settings.mode = .picture →
        left.element = ⟨{ Tag.named "picture" with span := image.span }, [.element image []]⟩ ∧
        ∃ pending, step = .picture left.element pending ∧
          pending.media = image.attr? "media" ∧ pending.sizes = image.attr? "sizes") := by
  obtain ⟨directive, hDirective, hPlanned⟩ := stage_of_candidate imports hCandidate
  rw [runOn_stageInPlace, hPlanned] at hStage
  cases hPlan : converter.plan element.tag directive with
  | error error => simp [hPlan, Except.map] at hStage
  | ok plan =>
      obtain ⟨reading, rfl⟩ := exists_reading hDirective hPlan
      simp only [hPlan, Except.map, Prod.mk.injEq, Except.ok.injEq] at hStage
      obtain ⟨rfl, rfl⟩ := hStage
      refine ⟨reading, (converter.convert reading.plan element.tag imports).1,
        reading.convert_eq imports, ?_, ?_⟩
      · intro hMode
        rw [perform_of_ne_picture reading.plan hMode]
        exact ⟨rfl, rfl⟩
      · intro hMode
        rw [perform_of_picture reading.plan hMode]
        exact ⟨rfl, _, rfl, rfl, rfl⟩

/-- The directive is called like the source and stands on the image twice, behind a source that is an
import. What the image says about loading is an expression. -/
theorem stageInPlace_frame_source :
    let converter := Converter.ofConfig { Config.empty with attributeName := some "src" }
    let other : Attribute := ⟨"alt", .text "", some ⟨5, 11⟩⟩
    let loading : Attribute := ⟨"loading", .bound (.raw "how"), some ⟨50, 64⟩⟩
    let tag : Tag :=
      ⟨"IMG", [other, ⟨"src", .bound (.module ⟨0, "./a.png"⟩), some ⟨12, 26⟩⟩,
        ⟨"src", .text "onlyUseImg", some ⟨27, 49⟩⟩, loading, ⟨"src", .text "noLazy", none⟩],
        .endTag, some ⟨0, 90⟩, some ⟨"<IMG>", some "</IMG>"⟩⟩
    let element : Element := ⟨tag, [.element (Tag.named "b") []]⟩
    ∃ step left, converter.isCandidate element.tag = true ∧
      converter.stageInPlace.runOn ⟨element, ⟨["./a.png"]⟩⟩ = (.ok step, left) ∧
      left.element.tag.attrs =
        [other,
          ⟨"src", .bound (.module ⟨1, converter.compress "./a.png" converter.settings none⟩),
            some ⟨12, 26⟩⟩,
          loading,
          ⟨"srcset", .bound (.moduleDefault ⟨2, converter.srcset "./a.png" converter.settings none⟩),
            some ⟨12, 26⟩⟩,
          ⟨"loading", .text "lazy", some ⟨27, 49⟩⟩] ∧
      ∃ (reading : Reading converter element.tag) (image : Tag),
        image = { element.tag with
          attrs :=
            (reading.before ++
                { reading.source with
                  value := .bound (.module (reading.target ⟨["./a.png"]⟩)) } ::
                reading.after ++ reading.srcsetAttrs ⟨["./a.png"]⟩ ++ reading.loadingAttrs).filter
              fun attr => !attr.isStaticNamed converter.settings.attributeName
          raw := none } ∧
        (reading.settings.mode ≠ .picture →
          left.element = ⟨image, element.children⟩ ∧
          step = .inPlace image reading.path reading.settings.mode) ∧
        (reading.settings.mode = .picture →
          left.element = ⟨{ Tag.named "picture" with span := image.span }, [.element image []]⟩ ∧
          ∃ pending, step = .picture left.element pending ∧
            pending.media = image.attr? "media" ∧ pending.sizes = image.attr? "sizes") := by
  intro converter other loading tag element
  have hCandidate : converter.isCandidate element.tag = true := by decide +kernel
  obtain ⟨step, hStep⟩ := isOk_iff.mp
    (by decide +kernel : (converter.stageInPlace.runOn ⟨element, ⟨["./a.png"]⟩⟩).1.isOk = true)
  exact ⟨step, _, hCandidate, Prod.ext hStep rfl, by decide +kernel,
    stageInPlace_frame converter element ⟨["./a.png"]⟩ step _ hCandidate (Prod.ext hStep rfl)⟩

end Converter

end ResponsiveImages
