import ResponsiveImages.Proofs.Conversion.Layers
import ResponsiveImages.Proofs.Conversion.Refusals
import ResponsiveImages.Proofs.Conversion.TextOrder

/-! Where the compiler fails. A template that was read is refused for the first candidate whose image
path is not known or whose directive cannot be read, at the place of this candidate in the source,
and for no other reason. -/
namespace ResponsiveImages.Converter

open Markup
open Text (byteLength)

variable {converter : Converter} {tag : Tag}

/-- The first source attribute is static and holds a path, and the value of the first directive can
be read. -/
structure Accepts (converter : Converter) (tag : Tag) : Prop where
  source : ∃ attr path, tag.attr? "src" = some attr ∧ attr.value = .text path ∧ path ≠ ""
  directive : ∃ attr value options, converter.directive? tag = some attr ∧
    attr.value = .text value ∧ Directive.parse value = .ok options

/-- Why an image with this tag is refused. A reason counts only if none of those before it holds. -/
inductive Refuses (converter : Converter) (tag : Tag) : ElementError → Prop
  | missingSource (hNone : tag.attr? "src" = none) : Refuses converter tag .missingSource
  | unresolvedSource {attr : Attribute} {expression : String}
      (hAttr : tag.attr? "src" = some attr) (hValue : attr.value = .bound (.raw expression)) :
      Refuses converter tag (.unresolvedSource expression)
  | emptySource {attr : Attribute} (hAttr : tag.attr? "src" = some attr)
      (hValue : attr.value = .text "") : Refuses converter tag .emptySource
  | directive {source attr : Attribute} {path value : String} {error : Directive.Error}
      (hSource : tag.attr? "src" = some source) (hPath : source.value = .text path)
      (hSome : path ≠ "") (hAttr : converter.directive? tag = some attr)
      (hValue : attr.value = .text value) (hParse : Directive.parse value = .error error) :
      Refuses converter tag (.directive error)

theorem resolve_error_iff (value : String) (error : Directive.Error) :
    converter.resolve value = .error error ↔ Directive.parse value = .error error := by
  rw [resolve_eq, map_eq_error]

theorem locateSource_of_none (h : tag.attr? "src" = none) :
    locateSource tag = .error .missingSource := by
  simp [locateSource, h]

theorem locateSource_of_some {attr : Attribute} (h : tag.attr? "src" = some attr) :
    ∃ index, locateSource tag = (sourcePath attr.value).map (index, attr.span, ·) := by
  cases hIndex : tag.attrIndex? "src" with
  | none =>
      rw [Tag.attrIndex?, List.findIdx?_eq_none_iff] at hIndex
      rw [Tag.attr?] at h
      have hName := hIndex attr (List.mem_of_find?_eq_some h)
      rw [List.find?_some h] at hName
      cases hName
  | some index => exact ⟨index, by simp [locateSource, hIndex, h]⟩

/-- Once the image path is known, only the directive decides. -/
theorem plan_of_path {directive attr : Attribute} {path : String}
    (hAttr : tag.attr? "src" = some attr) (hValue : attr.value = .text path) (hPath : path ≠ "") :
    ∃ index, converter.plan tag directive =
      ((converter.resolve (directive.value.text?.getD "")).mapError ElementError.directive).map
        fun settings => ⟨directive, index, attr.span, path, settings⟩ := by
  obtain ⟨index, hSource⟩ := locateSource_of_some hAttr
  refine ⟨index, ?_⟩
  cases hSettings : converter.resolve (directive.value.text?.getD "") <;>
    simp [plan, hSource, hValue, sourcePath, hPath, hSettings, Except.map, Except.mapError, bind,
      Except.bind, pure, Except.pure]

theorem plan_of_refused_source {directive attr : Attribute} {cause : ElementError}
    (hAttr : tag.attr? "src" = some attr) (hCause : sourcePath attr.value = .error cause) :
    converter.plan tag directive = .error cause := by
  obtain ⟨index, hSource⟩ := locateSource_of_some hAttr
  simp [plan, hSource, hCause, Except.map, bind, Except.bind]

theorem refusal?_of_refuses {cause : ElementError} (hCandidate : converter.isCandidate tag = true)
    (h : converter.Refuses tag cause) : converter.refusal? tag = some cause := by
  obtain ⟨-, found, hFound⟩ := (converter.isCandidate_iff tag).mp hCandidate
  rw [refusal?, if_pos hCandidate, hFound, Option.bind_some]
  cases h with
  | missingSource hNone => simp [plan, locateSource_of_none hNone, bind, Except.bind]
  | unresolvedSource hAttr hValue => rw [plan_of_refused_source hAttr (by rw [hValue]; rfl)]
  | emptySource hAttr hValue => rw [plan_of_refused_source hAttr (by rw [hValue]; rfl)]
  | directive hSource hPath hSome hAttr hValue hParse =>
      rw [hFound, Option.some.injEq] at hAttr
      subst hAttr
      obtain ⟨index, hPlan⟩ := plan_of_path hSource hPath hSome
      rw [hPlan, hValue, Value.text?, Option.getD_some, (resolve_error_iff _ _).mpr hParse]
      rfl

theorem refusal?_of_accepts (h : converter.Accepts tag) : converter.refusal? tag = none := by
  obtain ⟨source, path, hSource, hPath, hSome⟩ := h.source
  obtain ⟨directive, value, options, hDirective, hValue, hParse⟩ := h.directive
  obtain ⟨index, hPlan⟩ := plan_of_path hSource hPath hSome
  have hSettings : ∃ settings, converter.resolve value = .ok settings := by
    cases hResolve : converter.resolve value with
    | ok settings => exact ⟨settings, rfl⟩
    | error error =>
        rw [resolve_error_iff, hParse] at hResolve
        cases hResolve
  obtain ⟨settings, hSettings⟩ := hSettings
  refine refusal?_eq_none_iff.mpr fun _ => ?_
  rw [plan?, hDirective, Option.bind_some, hPlan, hValue, Value.text?, Option.getD_some, hSettings]
  exact ⟨_, rfl⟩

/-- In a template every candidate is either accepted, or refused for one reason. -/
theorem accepts_or_refuses (hCandidate : converter.isCandidate tag = true)
    (hNone : tag.targets = []) :
    converter.Accepts tag ∨ ∃ cause, converter.Refuses tag cause := by
  obtain ⟨-, directive, hDirective⟩ := (converter.isCandidate_iff tag).mp hCandidate
  have hStatic := ((Attribute.isStaticNamed_iff _ _).mp (List.find?_some hDirective)).1
  cases hSource : tag.attr? "src" with
  | none => exact Or.inr ⟨_, .missingSource hSource⟩
  | some source =>
      have hTarget := Tag.target?_eq_none hNone (List.mem_of_find?_eq_some hSource)
      cases hValue : source.value with
      | bound expression =>
          cases expression with
          | raw script => exact Or.inr ⟨_, .unresolvedSource hSource hValue⟩
          | module target | moduleDefault target => simp [hValue] at hTarget
      | text path =>
          by_cases hPath : path = ""
          · exact Or.inr ⟨_, .emptySource hSource (hPath ▸ hValue)⟩
          · cases hText : directive.value with
            | bound expression => simp [Attribute.isStatic, Value.isStatic, hText] at hStatic
            | text value =>
                cases hParse : Directive.parse value with
                | error error =>
                    exact Or.inr ⟨_, .directive hSource hValue hPath hDirective hText hParse⟩
                | ok options =>
                    exact Or.inl ⟨⟨source, path, hSource, hValue, hPath⟩,
                      ⟨directive, value, options, hDirective, hText, hParse⟩⟩

section

variable (hCandidate : converter.isCandidate tag = true) (hNone : tag.targets = [])
include hCandidate hNone

theorem refusal?_eq_some_iff_refuses (cause : ElementError) :
    converter.refusal? tag = some cause ↔ converter.Refuses tag cause := by
  refine ⟨fun hRefusal => ?_, refusal?_of_refuses hCandidate⟩
  rcases accepts_or_refuses hCandidate hNone with hAccepts | ⟨other, hOther⟩
  · rw [refusal?_of_accepts hAccepts] at hRefusal
    cases hRefusal
  · rw [refusal?_of_refuses hCandidate hOther, Option.some.injEq] at hRefusal
    rwa [hRefusal] at hOther

theorem refusal?_eq_none_iff_accepts : converter.refusal? tag = none ↔ converter.Accepts tag := by
  refine ⟨fun hRefusal => ?_, refusal?_of_accepts⟩
  rcases accepts_or_refuses hCandidate hNone with hAccepts | ⟨cause, hRefuses⟩
  · exact hAccepts
  · rw [refusal?_of_refuses hCandidate hRefuses] at hRefusal
    cases hRefusal

end

/-- Only candidates are refused. -/
theorem firstFailure?_filter_isCandidate (elements : List Element) :
    converter.firstFailure? (elements.filter (converter.isCandidate ·.tag)) =
      converter.firstFailure? elements := by
  induction elements with
  | nil => rfl
  | cons element elements ih =>
      rw [firstFailure?] at ih ⊢
      cases hCandidate : converter.isCandidate element.tag with
      | true => simp [hCandidate, List.findSome?_cons, ih, firstFailure?]
      | false => simp [hCandidate, ih, firstFailure?, failure?, refusal?]

variable {source : String} {nodes : List Node}

theorem targets_of_mem_candidates (h : parse source = .ok nodes) :
    ∀ candidate ∈ converter.candidates nodes,
      converter.isCandidate candidate.tag = true ∧ candidate.tag.targets = [] := by
  intro candidate hCandidate
  obtain ⟨hMem, hIs⟩ := List.mem_filter.mp hCandidate
  exact ⟨hIs, targetsAll_eq_nil.mp (Markup.targetsAll_parse h) candidate hMem⟩

/-- The visit of a template fails exactly for the first candidate that is refused. -/
theorem visitAll_parse_error_iff (h : parse source = .ok nodes) (error : WalkError) :
    (converter.visitAll Imports.empty nodes).result = .error error ↔
      ∃ early candidate late cause,
        converter.candidates nodes = early ++ candidate :: late ∧
        (∀ other ∈ early, converter.Accepts other.tag) ∧ converter.Refuses candidate.tag cause ∧
        error = WalkError.ofTag candidate.tag cause := by
  have hCandidates := @targets_of_mem_candidates converter source nodes h
  rw [visitAll_error_iff, metAll_parse h, ← firstFailure?_filter_isCandidate,
    firstFailure?_eq_some_iff]
  refine exists_congr fun early => exists_congr fun candidate => exists_congr fun late =>
    exists_congr fun cause => and_congr_right fun hSplit => ?_
  change converter.candidates nodes = early ++ candidate :: late at hSplit
  rw [hSplit, List.forall_mem_append, List.forall_mem_cons] at hCandidates
  obtain ⟨hEarly, ⟨hCandidate, hNone⟩, -⟩ := hCandidates
  rw [refusal?_eq_some_iff_refuses hCandidate hNone]
  refine and_congr_left' (forall₂_congr fun other hOther => ?_)
  exact refusal?_eq_none_iff_accepts (hEarly other hOther).1 (hEarly other hOther).2

theorem visitAll_parse_ok_iff (h : parse source = .ok nodes) :
    (∃ summary, (converter.visitAll Imports.empty nodes).result = .ok summary) ↔
      ∀ candidate ∈ converter.candidates nodes, converter.Accepts candidate.tag := by
  rw [visitAll_ok_iff, metAll_parse h]
  constructor
  · intro hNone candidate hCandidate
    obtain ⟨hIs, hTargets⟩ := targets_of_mem_candidates h candidate hCandidate
    exact (refusal?_eq_none_iff_accepts hIs hTargets).mp
      (hNone candidate (List.mem_filter.mp hCandidate).1)
  · intro hAccepts element hElement
    cases hIs : converter.isCandidate element.tag with
    | false => simp [refusal?, hIs]
    | true => exact refusal?_of_accepts (hAccepts element (List.mem_filter.mpr ⟨hElement, hIs⟩))

end ResponsiveImages.Converter

namespace ResponsiveImages.Template

open Markup (BeginsWithMark ImportStyle Node parse)
open Text (byteLength)

/-- A template that was read is refused exactly if the visit fails, and then with its error. -/
theorem compile_error_iff {converter : Converter} {style : ImportStyle} {source : String}
    {nodes : List Node} (h : parse source = .ok nodes) (error : CompileError) :
    (compile converter style source).value = .error error ↔
      ∃ failure, (converter.visitAll Imports.empty nodes).result = .error failure ∧
        error = .element failure := by
  cases hResult : (converter.visitAll Imports.empty nodes).result <;>
    simp [compile, h, hResult, eq_comm]

theorem compile_ok_iff {converter : Converter} {style : ImportStyle} {source : String}
    {nodes : List Node} (h : parse source = .ok nodes) :
    (∃ compiled, (compile converter style source).value = .ok compiled) ↔
      ∃ summary, (converter.visitAll Imports.empty nodes).result = .ok summary := by
  cases hResult : (converter.visitAll Imports.empty nodes).result <;>
    simp [compile, h, hResult]

/-- The start tag that an element consists of begins at the position in the source. -/
def StartsAt (source : String) (position : Nat) (element : Markup.Element) : Prop :=
  ∃ raw before after, element.tag.raw = some ⟨raw, none⟩ ∧
    source.toList = before ++ raw.toList ++ after ∧ byteLength before = position ∧
    element.tag.span = some ⟨position, position + byteLength raw.toList⟩

theorem exists_startsAt {source : String} {element : Markup.Element}
    (h : element.IsTagIn 0 source.toList) : ∃ position, StartsAt source position element := by
  obtain ⟨-, raw, before, after, hText, -, hRaw, hSpan⟩ := h
  rw [Nat.zero_add] at hSpan
  exact ⟨_, raw, before, after, hRaw, hText, rfl, hSpan⟩

theorem StartsAt.ofTag_eq {source : String} {position : Nat} {element : Markup.Element}
    (h : StartsAt source position element) (cause : ElementError) :
    WalkError.ofTag element.tag cause = .located element.tag.name position cause := by
  obtain ⟨raw, -, -, -, -, -, hSpan⟩ := h
  rw [WalkError.ofTag, hSpan]

/-- A template without a byte order mark that was read compiles exactly if every candidate is
accepted. Otherwise it fails for the first candidate that is refused, with the name of this
candidate, the position of its start tag in the source and the reason, which is the first one that
holds. The reason itself carries no place. -/
theorem compile_fails_iff (converter : Converter) (style : ImportStyle) (source : String)
    (nodes : List Node) (hMark : ¬ BeginsWithMark source) (hParse : parse source = .ok nodes) :
    ((∃ compiled, (compile converter style source).value = .ok compiled) ↔
      ∀ candidate ∈ converter.candidates nodes, converter.Accepts candidate.tag) ∧
    ∀ error, (compile converter style source).value = .error error ↔
      ∃ early candidate late position cause,
        converter.candidates nodes = early ++ candidate :: late ∧
        (∀ other ∈ early, converter.Accepts other.tag) ∧
        converter.Refuses candidate.tag cause ∧ StartsAt source position candidate ∧
        ∃ failure, error = .element failure ∧
          failure = .located candidate.tag.name position cause ∧ failure.cause = cause := by
  refine ⟨(compile_ok_iff hParse).trans (Converter.visitAll_parse_ok_iff hParse), fun error => ?_⟩
  rw [compile_error_iff hParse]
  simp only [Converter.visitAll_parse_error_iff hParse]
  constructor
  · rintro ⟨failure, ⟨early, candidate, late, cause, hSplit, hEarly, hRefuses, rfl⟩, rfl⟩
    have hCandidate : candidate ∈ converter.candidates nodes := by simp [hSplit]
    obtain ⟨position, hStarts⟩ :=
      exists_startsAt (Converter.isTagIn_of_mem_candidates hMark hParse candidate hCandidate)
    exact ⟨early, candidate, late, position, cause, hSplit, hEarly, hRefuses, hStarts, _, rfl,
      hStarts.ofTag_eq cause, by rw [hStarts.ofTag_eq, WalkError.cause]⟩
  · rintro ⟨early, candidate, late, position, cause, hSplit, hEarly, hRefuses, hStarts, failure, rfl,
      hFailure, -⟩
    exact ⟨failure, ⟨early, candidate, late, cause, hSplit, hEarly, hRefuses,
      hFailure.trans (hStarts.ofTag_eq cause).symm⟩, rfl⟩

/-- A candidate in front that is accepted, and two behind that are refused, each for several
reasons. Before the first of these stands a character of more than one byte. -/
theorem compile_fails_iff_second :
    let converter := Converter.ofConfig Config.empty
    let source := "<ul>é<img modernize src='a.png'><li><IMG src='' modernize='quality=[]'>" ++
      "<img modernize='quality=\x7b\x22png\x22:101\x7d' :src=x>"
    ∃ nodes, ¬ BeginsWithMark source ∧ parse source = .ok nodes ∧
      (compile converter .hoisted source).value =
        .error (.element (.located "IMG" 37 .emptySource)) ∧
      ∃ early candidate late position cause,
        converter.candidates nodes = early ++ candidate :: late ∧
        (∀ other ∈ early, converter.Accepts other.tag) ∧
        converter.Refuses candidate.tag cause ∧ StartsAt source position candidate ∧
        ∃ failure, CompileError.element (.located "IMG" 37 .emptySource) = .element failure ∧
          failure = .located candidate.tag.name position cause ∧ failure.cause = cause := by
  intro converter source
  have hMark : ¬ BeginsWithMark source := by decide +kernel
  obtain ⟨nodes, hParse⟩ := isOk_iff.mp (by decide +kernel : (parse source).isOk = true)
  obtain ⟨-, hFails⟩ := compile_fails_iff converter .hoisted source nodes hMark hParse
  have hError : (compile converter .hoisted source).value =
      .error (.element (.located "IMG" 37 .emptySource)) :=
    error?_eq_some_iff.mp (by decide +kernel)
  exact ⟨nodes, hMark, hParse, hError, (hFails _).mp hError⟩

end ResponsiveImages.Template
