import ResponsiveImages.Proofs.Conversion.Encounters
import ResponsiveImages.Proofs.Imports

/-! References to imports in a tree. Conversion writes exactly the references that its requests were
given, each one into one attribute, so that none is lost and none is left over. -/
namespace ResponsiveImages

open Markup (Attribute Element Expression Node Tag Value elementsAll)

namespace Markup

/-- The import that a value refers to. -/
def Value.target? : Value → Option ImportRef
  | .bound (.module target) => some target
  | .bound (.moduleDefault target) => some target
  | _ => none

@[simp] theorem Value.target?_text (value : String) : (text value).target? = none := rfl

@[simp] theorem Value.target?_raw (text : String) :
    (bound (.raw text)).target? = none := rfl

@[simp] theorem Value.target?_module (target : ImportRef) :
    (bound (.module target)).target? = some target := rfl

@[simp] theorem Value.target?_moduleDefault (target : ImportRef) :
    (bound (.moduleDefault target)).target? = some target := rfl

namespace Tag

/-- The imports that the attributes of a tag refer to, in their order. -/
def targets (tag : Tag) : List ImportRef := tag.attrs.filterMap (·.value.target?)

theorem targets_push (tag : Tag) (attr : Attribute) :
    (tag.push attr).targets = tag.targets ++ attr.value.target?.toList := by
  cases hTarget : attr.value.target? <;> simp [targets, push, hTarget]

/-- Static values refer to nothing. -/
theorem targets_keep_not_static (tag : Tag) (name : String) :
    (tag.keep fun attr => !attr.isStaticNamed name).targets = tag.targets := by
  rw [targets, keep_attrs, List.filterMap_filter, targets]
  congr 1
  funext attr
  obtain ⟨other, value, span⟩ := attr
  cases value with
  | text value => simp
  | bound expression =>
      simp [Attribute.isStaticNamed, Attribute.isStatic, Value.isStatic]

/-- In a tag without references a new value brings the only one. -/
theorem targets_setValueAt {tag : Tag} {index : Nat} (value : Value) (hNone : tag.targets = [])
    (hIndex : index < tag.attrs.length) :
    (tag.setValueAt index value).targets = value.target?.toList := by
  obtain ⟨name, attrs, closing, span, raw⟩ := tag
  simp only [targets, setValueAt, hIndex, reduceIte] at hNone ⊢
  induction attrs generalizing index with
  | nil => simp at hIndex
  | cons attr attrs ih =>
      rw [List.filterMap_eq_nil_iff] at hNone
      obtain ⟨hAttr, hAttrs⟩ := List.forall_mem_cons.mp hNone
      cases index with
      | zero =>
          have hRest := List.filterMap_eq_nil_iff.mpr hAttrs
          cases hTarget : value.target? <;> simp [hTarget, hRest]
      | succ index =>
          rw [List.modify_succ_cons, List.filterMap_cons]
          simp only [hAttr]
          exact ih (List.filterMap_eq_nil_iff.mpr hAttrs) (by simpa using hIndex)

/-- A tag that refers to nothing has no reference in an attribute of any name. -/
theorem target?_eq_none {tag : Tag} (h : tag.targets = []) {attr : Attribute}
    (hMem : attr ∈ tag.attrs) : attr.value.target? = none :=
  List.filterMap_eq_nil_iff.mp h attr hMem

theorem forall_mem_push {motive : Attribute → Prop} {tag : Tag} {attr : Attribute}
    (hOther : ∀ other ∈ tag.attrs, motive other) (hAttr : motive attr) :
    ∀ other ∈ (tag.push attr).attrs, motive other := by
  refine List.forall_mem_append.mpr ⟨hOther, fun other hMem => ?_⟩
  rwa [List.mem_singleton.mp hMem]

theorem forall_mem_keep {motive : Attribute → Prop} {tag : Tag} {condition : Attribute → Bool}
    (h : ∀ attr ∈ tag.attrs, motive attr) : ∀ attr ∈ (tag.keep condition).attrs, motive attr := by
  intro attr hAttr
  rw [keep_attrs] at hAttr
  exact h attr (List.mem_filter.mp hAttr).1

/-- With a new value at a place every other attribute is as it was before. -/
theorem forall_mem_setValueAt {motive : Attribute → Prop} {tag : Tag} {index : Nat} {value : Value}
    (hOther : ∀ attr ∈ tag.attrs, motive attr)
    (hPlace : ∀ attr, tag.attrs[index]? = some attr → motive { attr with value := value }) :
    ∀ attr ∈ (tag.setValueAt index value).attrs, motive attr := by
  intro attr hAttr
  unfold setValueAt at hAttr
  split at hAttr
  · obtain ⟨place, hFound⟩ := List.mem_iff_getElem?.mp hAttr
    rw [List.getElem?_modify] at hFound
    obtain ⟨old, hOld, rfl⟩ := Option.map_eq_some_iff.mp hFound
    split
    · rename_i hSame
      exact hPlace old (hSame ▸ hOld)
    · exact hOther old (List.mem_of_getElem? hOld)
  · exact hOther attr hAttr

end Tag

end Markup

/-- The media type of a source for the image. -/
def Plan.mediaType? (plan : Plan) : SourceFormat → Option String
  | .native => MediaType.ofPath? plan.path
  | .named format => some format.mediaType

/-- The formats of the sources: of several with one media type only the first. -/
def Plan.distinctFormats (plan : Plan) : List SourceFormat :=
  plan.settings.imageFormats.eraseDupsBy fun later earlier =>
    plan.mediaType? later == plan.mediaType? earlier

namespace Converter

/-- What is requested for the image itself. -/
def imageRequests (converter : Converter) (plan : Plan) : List String :=
  converter.compress plan.path plan.settings none ::
    match plan.settings.mode with
    | .withSrcset => [converter.srcset plan.path plan.settings none]
    | _ => []

/-- What is requested for an image that is converted as planned. -/
def requests (converter : Converter) (tag : Tag) : List String :=
  match converter.plan? tag with
  | none => []
  | some plan =>
    converter.compress plan.path plan.settings none ::
      match plan.settings.mode with
      | .compressed => []
      | .withSrcset => [converter.srcset plan.path plan.settings none]
      | .picture =>
        plan.distinctFormats.map fun entry => converter.srcset plan.path plan.settings entry.format?

theorem bindImports_imports (converter : Converter) (plan : Plan) (tag : Tag) (imports : Imports) :
    (converter.bindImports plan tag imports).2 =
      imports.requestAll (converter.imageRequests plan) := by
  cases hMode : plan.settings.mode <;>
    simp [bindImports, imageRequests, hMode, Imports.requestAll]

/-- A conversion makes the requests for the image itself. -/
theorem convert_imports (converter : Converter) (plan : Plan) (tag : Tag) (imports : Imports) :
    (converter.convert plan tag imports).2 = imports.requestAll (converter.imageRequests plan) :=
  bindImports_imports converter plan tag imports

/-- The image path was found behind an attribute, which stands at the place of the plan. -/
theorem plan?_source {converter : Converter} {tag : Tag} {plan : Plan}
    (h : converter.plan? tag = some plan) :
    ∃ attr, tag.attrs[plan.index]? = some attr ∧ attr.name = "src" := by
  obtain ⟨directive, -, hPlan⟩ := Option.bind_eq_some_iff.mp h
  cases hFound : converter.plan tag directive with
  | error error => simp [hFound, Except.toOption] at hPlan
  | ok found =>
      simp only [hFound, Except.toOption, Option.some.injEq] at hPlan
      subst hPlan
      obtain ⟨located, hLocated, hRest⟩ := bind_eq_ok.mp hFound
      obtain ⟨settings, -, hPlan⟩ := bind_eq_ok.mp hRest
      cases hPlan
      unfold locateSource at hLocated
      split at hLocated
      · rename_i index attr hIndex _
        obtain ⟨path, -, rfl⟩ := map_eq_ok.mp hLocated
        obtain ⟨hBound, hName, -⟩ := List.findIdx?_eq_some_iff_getElem.mp hIndex
        exact ⟨_, List.getElem?_eq_getElem hBound, by simpa using hName⟩
      · cases hLocated

/-- Only attributes of these names refer to imports. -/
def RefersAsImage (tag : Tag) : Prop :=
  ∀ attr ∈ tag.attrs, attr.value.target? ≠ none → attr.name = "src" ∨ attr.name = "srcset"

theorem RefersAsImage.push {tag : Tag} {attr : Attribute} (h : RefersAsImage tag)
    (hAttr : attr.value.target? ≠ none → attr.name = "src" ∨ attr.name = "srcset") :
    RefersAsImage (tag.push attr) :=
  Tag.forall_mem_push h hAttr

theorem RefersAsImage.keep {tag : Tag} (condition : Attribute → Bool) (h : RefersAsImage tag) :
    RefersAsImage (tag.keep condition) :=
  Tag.forall_mem_keep h

theorem refersAsImage_setValueAt {tag : Tag} {index : Nat} {attr : Attribute} (value : Value)
    (hNone : tag.targets = []) (hAttr : tag.attrs[index]? = some attr) (hName : attr.name = "src") :
    RefersAsImage (tag.setValueAt index value) := by
  refine Tag.forall_mem_setValueAt (fun other hOther hSome => ?_) fun other hOther _ => ?_
  · exact absurd (Tag.target?_eq_none hNone hOther) hSome
  · rw [hAttr, Option.some.injEq] at hOther
    exact Or.inl (hOther ▸ hName)

/-- What a conversion makes of an image without references. Its text does not hold any more, and it
refers to the imports that were requested for it. -/
structure WrittenAs (converter : Converter) (plan : Plan) (imports : Imports) (image : Tag)
    (later : Imports) : Prop where
  later_eq : later = imports.requestAll (converter.imageRequests plan)
  targets : image.targets = imports.references (converter.imageRequests plan)
  raw : image.raw = none
  refers : RefersAsImage image

variable {converter : Converter} {tag : Tag} {plan : Plan}

theorem setValueAt_raw {index : Nat} (value : Value) (hIndex : index < tag.attrs.length) :
    (tag.setValueAt index value).raw = none := by
  simp [Tag.setValueAt, hIndex]

theorem keep_raw (condition : Attribute → Bool) (h : tag.raw = none) :
    (tag.keep condition).raw = none := by
  simp only [Tag.keep]
  split
  · exact h
  · rfl

theorem bindImports_writtenAs (imports : Imports) (hPlan : converter.plan? tag = some plan)
    (hNone : tag.targets = []) :
    converter.WrittenAs plan imports (converter.bindImports plan tag imports).1
      (converter.bindImports plan tag imports).2 := by
  obtain ⟨attr, hAttr, hName⟩ := plan?_source hPlan
  obtain ⟨hIndex, -⟩ := List.getElem?_eq_some_iff.mp hAttr
  cases hMode : plan.settings.mode with
  | compressed | picture =>
      simp only [bindImports, hMode]
      exact ⟨by simp [imageRequests, hMode, Imports.requestAll],
        by simp [imageRequests, hMode, Imports.references, Tag.targets_setValueAt _ hNone hIndex],
        setValueAt_raw _ hIndex, refersAsImage_setValueAt _ hNone hAttr hName⟩
  | withSrcset =>
      simp only [bindImports, hMode]
      refine ⟨by simp [imageRequests, hMode, Imports.requestAll], ?_, rfl,
        (refersAsImage_setValueAt _ hNone hAttr hName).push (by simp)⟩
      simp [imageRequests, hMode, Imports.references, Tag.targets_push,
        Tag.targets_setValueAt _ hNone hIndex]

theorem WrittenAs.requestLazyLoading {imports later : Imports}
    (h : converter.WrittenAs plan imports tag later) (span : Option Markup.Span) :
    converter.WrittenAs plan imports (requestLazyLoading tag span) later := by
  unfold Converter.requestLazyLoading
  split
  · exact h
  · exact ⟨h.later_eq, by simp [Tag.targets_push, h.targets], rfl,
      h.refers.push (by simp)⟩

theorem WrittenAs.keep {imports later : Imports} (name : String)
    (h : converter.WrittenAs plan imports tag later) :
    converter.WrittenAs plan imports (tag.keep fun attr => !attr.isStaticNamed name) later :=
  ⟨h.later_eq, by rw [Tag.targets_keep_not_static, h.targets], keep_raw _ h.raw, h.refers.keep _⟩

theorem convert_writtenAs {imports later : Imports} {image : Tag}
    (hPlan : converter.plan? tag = some plan) (hNone : tag.targets = [])
    (hConvert : converter.convert plan tag imports = (image, later)) :
    converter.WrittenAs plan imports image later := by
  have hBound := bindImports_writtenAs imports hPlan hNone
  have hConverted : converter.WrittenAs plan imports (converter.convert plan tag imports).1
      (converter.convert plan tag imports).2 := by
    rw [convert]
    dsimp only
    split
    · exact hBound.keep _
    · exact (hBound.requestLazyLoading _).keep _
  rwa [hConvert] at hConverted

end Converter

namespace Pending

/-- The formats that get a source when some media types have one already. -/
def distinctFrom (pending : Pending) (seen : List (Option String)) (formats : List SourceFormat) :
    List SourceFormat :=
  (formats.filter fun entry => !seen.contains (pending.mediaType? entry)).eraseDupsBy
    fun later earlier => pending.mediaType? later == pending.mediaType? earlier

theorem distinctFrom_cons_of_seen {pending : Pending} {seen : List (Option String)}
    {entry : SourceFormat} (entries : List SourceFormat)
    (h : seen.contains (pending.mediaType? entry) = true) :
    pending.distinctFrom seen (entry :: entries) = pending.distinctFrom seen entries := by
  rw [distinctFrom, List.filter_cons_of_neg (by simpa using h), distinctFrom]

theorem distinctFrom_cons_of_new {pending : Pending} {seen : List (Option String)}
    {entry : SourceFormat} (entries : List SourceFormat)
    (h : seen.contains (pending.mediaType? entry) = false) :
    pending.distinctFrom seen (entry :: entries) =
      entry :: pending.distinctFrom (pending.mediaType? entry :: seen) entries := by
  rw [distinctFrom, List.filter_cons_of_pos (by rw [h]; rfl), List.eraseDupsBy_cons,
    List.filter_filter, distinctFrom]
  congr 3
  funext later
  rw [List.contains_cons, Bool.not_or]
  cases pending.mediaType? later == pending.mediaType? entry <;> simp

theorem targets_source {pending : Pending} (mediaType : Option String) (target : ImportRef)
    (hMedia : ∀ attr ∈ pending.media, attr.value.target? = none)
    (hSizes : ∀ attr ∈ pending.sizes, attr.value.target? = none) :
    (pending.source mediaType target).targets = [target] := by
  have hCopied : (∀ attr, pending.media = some attr → attr.value.target? = none) ∧
      ∀ attr, pending.sizes = some attr → attr.value.target? = none := ⟨hMedia, hSizes⟩
  cases mediaType <;>
    simpa [Tag.targets, source, List.filterMap_append, List.filterMap_cons] using hCopied

/-- One request for each source. The induction is on the formats, with the media types that have a
source already. -/
theorem sourcesFrom_imports {pending : Pending} {seen : List (Option String)} {imports : Imports}
    (formats : List SourceFormat) :
    (pending.sourcesFrom seen imports formats).2 =
      imports.requestAll ((pending.distinctFrom seen formats).map fun entry =>
        pending.request entry.format?) := by
  induction formats generalizing seen imports with
  | nil => rfl
  | cons entry entries ih =>
      cases hSeen : seen.contains (pending.mediaType? entry) with
      | true =>
          simp only [sourcesFrom, hSeen, reduceIte, distinctFrom_cons_of_seen entries hSeen]
          exact ih
      | false =>
          simp only [sourcesFrom, hSeen, Bool.false_eq_true, reduceIte,
            distinctFrom_cons_of_new entries hSeen, List.map_cons]
          exact ih

/-- Each source refers to the import that was requested for it. -/
theorem sourcesFrom_targets {pending : Pending} {seen : List (Option String)} {imports : Imports}
    (formats : List SourceFormat) (hMedia : ∀ attr ∈ pending.media, attr.value.target? = none)
    (hSizes : ∀ attr ∈ pending.sizes, attr.value.target? = none) :
    let requests := (pending.distinctFrom seen formats).map fun entry =>
      pending.request entry.format?
    (pending.sourcesFrom seen imports formats).1.flatMap Tag.targets =
      imports.references requests := by
  induction formats generalizing seen imports with
  | nil => rfl
  | cons entry entries ih =>
      cases hSeen : seen.contains (pending.mediaType? entry) with
      | true =>
          simp only [sourcesFrom, hSeen, reduceIte, distinctFrom_cons_of_seen entries hSeen]
          exact ih
      | false =>
          have hTargets := @ih (pending.mediaType? entry :: seen)
            (imports.request (pending.request entry.format?)).2
          simp only [sourcesFrom, hSeen, Bool.false_eq_true, reduceIte,
            distinctFrom_cons_of_new entries hSeen, List.map_cons, List.flatMap_cons,
            targets_source _ _ hMedia hSizes, Imports.references]
          rw [hTargets]
          rfl

theorem forall_mem_sourcesFrom {motive : Tag → Prop} {pending : Pending}
    {seen : List (Option String)} {imports : Imports} {formats : List SourceFormat}
    (h : ∀ mediaType target, motive (pending.source mediaType target)) :
    ∀ source ∈ (pending.sourcesFrom seen imports formats).1, motive source := by
  induction formats generalizing seen imports with
  | nil => exact List.forall_mem_nil _
  | cons entry entries ih =>
      simp only [sourcesFrom]
      split
      · exact ih
      · exact List.forall_mem_cons.mpr ⟨h _ _, ih⟩

end Pending

namespace Converter

variable {converter : Converter}

/-- What is copied from the image to its sources refers to nothing. -/
theorem RefersAsImage.attr? {tag : Tag} {name : String} (h : RefersAsImage tag)
    (hSource : name ≠ "src") (hSet : name ≠ "srcset") :
    ∀ attr ∈ tag.attr? name, attr.value.target? = none := by
  intro attr hAttr
  have hName : attr.name = name := by simpa using List.find?_some hAttr
  cases hTarget : attr.value.target? with
  | none => rfl
  | some target =>
      rcases h attr (List.mem_of_find?_eq_some hAttr) (by simp [hTarget]) with hImage | hImage
      · exact absurd (hName.symm.trans hImage) hSource
      · exact absurd (hName.symm.trans hImage) hSet

/-- The formats of the sources that are pending are those of the plan. -/
theorem distinctFrom_pending (plan : Plan) (image : Tag) :
    (converter.pending plan image).distinctFrom [] plan.settings.imageFormats =
      plan.distinctFormats := by
  have hTypes : (converter.pending plan image).mediaType? = plan.mediaType? := by
    funext entry
    cases entry <;> rfl
  have hAll : (plan.settings.imageFormats.filter fun _ => true) = plan.settings.imageFormats :=
    List.filter_eq_self.mpr fun _ _ => rfl
  simp [Pending.distinctFrom, Plan.distinctFormats, hTypes, hAll]

/-- What is requested for the sources of the picture. -/
def sourceRequests (converter : Converter) (plan : Plan) : List String :=
  plan.distinctFormats.map fun entry => converter.srcset plan.path plan.settings entry.format?

theorem sources_imports (plan : Plan) (image : Tag) (imports : Imports) :
    ((converter.pending plan image).sources imports).2 =
      imports.requestAll (converter.sourceRequests plan) := by
  have hSources := @Pending.sourcesFrom_imports (converter.pending plan image) [] imports
    plan.settings.imageFormats
  rwa [distinctFrom_pending] at hSources

theorem sources_targets {plan : Plan} {image : Tag} (imports : Imports)
    (h : RefersAsImage image) :
    ((converter.pending plan image).sources imports).1.flatMap Tag.targets =
      imports.references (converter.sourceRequests plan) := by
  have hSources := @Pending.sourcesFrom_targets (converter.pending plan image) [] imports
    plan.settings.imageFormats (h.attr? (by decide) (by decide)) (h.attr? (by decide) (by decide))
  rwa [distinctFrom_pending] at hSources

theorem requests_of_not_picture {tag : Tag} {plan : Plan} (hPlan : converter.plan? tag = some plan)
    (hMode : plan.settings.mode ≠ .picture) :
    converter.requests tag = converter.imageRequests plan := by
  cases hKind : plan.settings.mode <;> simp_all [requests, imageRequests]

theorem requests_of_picture {tag : Tag} {plan : Plan} (hPlan : converter.plan? tag = some plan)
    (hMode : plan.settings.mode = .picture) :
    converter.requests tag =
      converter.imageRequests plan ++ converter.sourceRequests plan := by
  simp [requests, imageRequests, sourceRequests, hPlan, hMode]

/-- Whatever an element refers to, its conversion makes the requests of a candidate. -/
theorem Becomes.imports_eq {imports later : Imports} {element left : Element} {outcome : Outcome}
    (h : converter.Becomes imports element outcome left later) :
    later = imports.requestAll
      (if converter.isCandidate element.tag then converter.requests element.tag else []) := by
  cases h with
  | same hCandidate => simp [hCandidate, Imports.requestAll]
  | @inPlace plan image later hCandidate hPlan hConvert hMode =>
      have hLater := convert_imports converter plan element.tag imports
      rw [hConvert] at hLater
      rw [if_pos hCandidate, requests_of_not_picture hPlan hMode]
      exact hLater
  | @picture plan image later last sources hCandidate hPlan hConvert hMode hSources =>
      have hLater := convert_imports converter plan element.tag imports
      have hLast := @sources_imports converter plan image later
      rw [hConvert] at hLater
      rw [hSources] at hLast
      rw [if_pos hCandidate, requests_of_picture hPlan hMode, Imports.requestAll_append, ← hLater]
      exact hLast

/-- Conversion of an element without references leaves the references that its requests were given
and no others. -/
theorem Becomes.targets {imports later : Imports} {element left : Element} {outcome : Outcome}
    (h : converter.Becomes imports element outcome left later) (hNone : element.tag.targets = []) :
    let requests := if converter.isCandidate element.tag then converter.requests element.tag else []
    ((Encounter.mk element.tag outcome left).tags.flatMap Tag.targets).Perm
      (imports.references requests) := by
  cases h with
  | same hCandidate =>
      simp [hCandidate, Imports.references, Encounter.tags, Encounter.isReplaced, hNone]
  | @inPlace plan image later hCandidate hPlan hConvert hMode =>
      have hWritten := convert_writtenAs hPlan hNone hConvert
      simp [hCandidate, requests_of_not_picture hPlan hMode, Encounter.tags, Encounter.isReplaced,
        hWritten.targets]
  | @picture plan image later last sources hCandidate hPlan hConvert hMode hSources =>
      have hWritten := convert_writtenAs hPlan hNone hConvert
      have hSourceTargets := @sources_targets converter plan image later hWritten.refers
      rw [hSources] at hSourceTargets
      have hSkeleton : (skeleton image).tag.targets = [] := rfl
      simp only [hCandidate, reduceIte, requests_of_picture hPlan hMode, Imports.references_append,
        ← hWritten.later_eq, Encounter.tags_picture, List.flatMap_cons, List.flatMap_append,
        List.flatMap_nil, hSkeleton, hSourceTargets, hWritten.targets]
      simpa using List.perm_append_comm

/-- An element that refers to an import after its conversion is not written from its own text. -/
theorem Becomes.raw {imports later : Imports} {element left : Element} {outcome : Outcome}
    (h : converter.Becomes imports element outcome left later) (hNone : element.tag.targets = []) :
    ∀ tag ∈ (Encounter.mk element.tag outcome left).tags, tag.targets ≠ [] → tag.raw = none := by
  intro tag hTag hTargets
  cases h with
  | same _ =>
      simp only [Encounter.tags, Encounter.isReplaced, Bool.false_eq_true, reduceIte,
        List.mem_singleton] at hTag
      exact absurd (hTag ▸ hNone) hTargets
  | inPlace _ hPlan hConvert _ =>
      simp only [Encounter.tags, Encounter.isReplaced, Bool.false_eq_true, reduceIte,
        List.mem_singleton] at hTag
      exact hTag ▸ (convert_writtenAs hPlan hNone hConvert).raw
  | @picture plan image later last sources _ hPlan hConvert _ hSources =>
      rw [Encounter.tags_picture, List.mem_cons, List.mem_append, List.mem_singleton] at hTag
      rcases hTag with rfl | hSource | rfl
      · rfl
      · have hAdded : ((converter.pending plan image).sources later).1 = sources :=
          congrArg Prod.fst hSources
        have hRaw : ∀ source ∈ ((converter.pending plan image).sources later).1,
            source.raw = none := Pending.forall_mem_sourcesFrom fun _ _ => rfl
        exact hRaw tag (hAdded ▸ hSource)
      · exact (convert_writtenAs hPlan hNone hConvert).raw

/-- The requests for the candidates among the elements, in their order. -/
def requestsAll (converter : Converter) (elements : List Element) : List String :=
  (elements.filter (converter.isCandidate ·.tag)).flatMap (converter.requests ·.tag)

theorem requestsAll_cons (element : Element) (elements : List Element) :
    converter.requestsAll (element :: elements) =
      (if converter.isCandidate element.tag then converter.requests element.tag else []) ++
        converter.requestsAll elements := by
  cases hCandidate : converter.isCandidate element.tag <;> simp [requestsAll, hCandidate]

theorem Converts.imports_eq {imports last : Imports} {elements : List Element}
    {encounters : List Encounter} (h : converter.Converts imports elements encounters last) :
    last = imports.requestAll (converter.requestsAll elements) := by
  induction h with
  | nil imports => rfl
  | cons hBecomes _ ih =>
      rw [requestsAll_cons, Imports.requestAll_append, ← hBecomes.imports_eq]
      exact ih

theorem Converts.targets {imports last : Imports} {elements : List Element}
    {encounters : List Encounter} (h : converter.Converts imports elements encounters last)
    (hNone : ∀ element ∈ elements, element.tag.targets = []) :
    ((encounters.flatMap Encounter.tags).flatMap Tag.targets).Perm
      (imports.references (converter.requestsAll elements)) := by
  induction h with
  | nil imports => exact .refl _
  | cons hBecomes _ ih =>
      obtain ⟨hFirst, hRest⟩ := List.forall_mem_cons.mp hNone
      rw [requestsAll_cons, Imports.references_append, ← hBecomes.imports_eq, List.flatMap_cons,
        List.flatMap_append]
      exact (hBecomes.targets hFirst).append (ih hRest)

theorem Converts.raw {imports last : Imports} {elements : List Element}
    {encounters : List Encounter} (h : converter.Converts imports elements encounters last)
    (hNone : ∀ element ∈ elements, element.tag.targets = []) :
    ∀ tag ∈ encounters.flatMap Encounter.tags, tag.targets ≠ [] → tag.raw = none := by
  induction h with
  | nil => exact List.forall_mem_nil _
  | cons hBecomes _ ih =>
      obtain ⟨hFirst, hRest⟩ := List.forall_mem_cons.mp hNone
      rw [List.flatMap_cons]
      exact List.forall_mem_append.mpr ⟨hBecomes.raw hFirst, ih hRest⟩

end Converter

namespace Markup

/-- All references in the nodes, in the order of the text. -/
def targetsAll (nodes : List Node) : List ImportRef :=
  (elementsAll nodes).flatMap (·.tag.targets)

theorem targetsAll_eq_nil {nodes : List Node} :
    targetsAll nodes = [] ↔ ∀ element ∈ elementsAll nodes, element.tag.targets = [] :=
  List.flatMap_eq_nil_iff

end Markup

namespace Converter

open Markup (targetsAll targetsAll_eq_nil)

variable {converter : Converter}

mutual

theorem met_subset : ∀ node : Node, converter.met node ⊆ node.elements
  | .text _ => List.Subset.refl _
  | .verbatim _ => List.Subset.refl _
  | .element tag children => by
      rw [met, Node.elements]
      refine List.cons_subset_cons _ ?_
      split
      · exact List.nil_subset _
      · exact metAll_subset children

theorem metAll_subset : ∀ nodes : List Node, converter.metAll nodes ⊆ elementsAll nodes
  | [] => List.Subset.refl _
  | node :: nodes => by
      rw [metAll, elementsAll]
      exact List.append_subset.mpr
        ⟨List.subset_append_of_subset_left _ (met_subset node),
          List.subset_append_of_subset_right _ (metAll_subset nodes)⟩

end

/-- A visit that ends well requests what the candidates request that it came to. -/
theorem visitAll_imports_eq {imports : Imports} {nodes : List Node} {summary : Summary}
    (h : (converter.visitAll imports nodes).result = .ok summary) :
    (converter.visitAll imports nodes).imports =
      imports.requestAll (converter.requestsAll (converter.metAll nodes)) := by
  have hWalk := visitAll_refines_walkAll converter imports nodes
  obtain ⟨encounters, hEncounters, -⟩ := hWalk.counted h
  rw [hWalk.imports]
  exact (walkAll_performs imports nodes encounters hEncounters).converts.imports_eq

/-- A visit that ends well leaves the imports and the references that the candidates it came to
requested. -/
theorem visitAll_targets {imports : Imports} {nodes : List Node} {summary : Summary}
    (hNone : targetsAll nodes = [])
    (h : (converter.visitAll imports nodes).result = .ok summary) :
    let visit := converter.visitAll imports nodes
    let requests := converter.requestsAll (converter.metAll nodes)
    visit.imports = imports.requestAll requests ∧
      (targetsAll visit.left).Perm (imports.references requests) ∧
      ∀ element ∈ elementsAll visit.left, element.tag.targets ≠ [] → element.tag.raw = none := by
  have hWalk := visitAll_refines_walkAll converter imports nodes
  obtain ⟨encounters, hEncounters, -⟩ := hWalk.counted h
  have hPerforms := walkAll_performs imports nodes encounters hEncounters
  have hElements : ∀ element ∈ converter.metAll nodes, element.tag.targets = [] :=
    fun element hMem => targetsAll_eq_nil.mp hNone element (metAll_subset nodes hMem)
  have hLeft : targetsAll (converter.walkAll imports nodes).left =
      (encounters.flatMap Encounter.tags).flatMap Tag.targets := by
    rw [← hPerforms.tags, List.flatMap_map, targetsAll]
  refine ⟨visitAll_imports_eq h, ?_⟩
  rw [hWalk.left, hLeft]
  refine ⟨hPerforms.converts.targets hElements, fun element hElement => ?_⟩
  have hTag := hPerforms.tags ▸ List.mem_map_of_mem hElement
  exact hPerforms.converts.raw hElements element.tag hTag

end Converter

end ResponsiveImages
