import ResponsiveImages.Proofs.Conversion.LexemeRewriting
import ResponsiveImages.Proofs.Markup.WrittenTags

/-! What conversion does not depend on. The places of a tag and of its attributes decide nothing, so
that a tag which stands elsewhere is converted alike. With imports written as calls, the numbers of
the imports decide nothing either: the image is written alike whatever was imported before. -/
namespace ResponsiveImages

open Markup (Attribute Element Lexeme Node Span Tag Value readTag startTags)
open Text (byteLength)

namespace Markup

def Span.moved (distance : Nat) (span : Span) : Span :=
  ⟨span.start + distance, span.stop + distance⟩

def Attribute.moved (distance : Nat) (attr : Attribute) : Attribute :=
  { attr with span := attr.span.map (·.moved distance) }

/-- The tag at a later place in the text. -/
def Tag.moved (distance : Nat) (tag : Tag) : Tag :=
  { tag with
    attrs := tag.attrs.map (·.moved distance)
    span := tag.span.map (·.moved distance) }

@[simp] theorem Tag.bare_moved (distance : Nat) (tag : Tag) :
    (tag.moved distance).bare = tag.bare := by
  simp [Tag.moved, Tag.bare, Attribute.moved, Attribute.bare, Function.comp_def]

theorem toAttribute_add (position distance : Nat) (written : WrittenAttribute) :
    written.toAttribute (position + distance) = (written.toAttribute position).moved distance := by
  simp only [WrittenAttribute.toAttribute]
  split <;> simp [Attribute.moved, Span.moved] <;> omega

theorem Lexeme.startTag?_add (markLength position distance : Nat) (lexeme : Lexeme) :
    lexeme.startTag? markLength (position + distance) =
      (lexeme.startTag? markLength position).map (·.moved distance) := by
  unfold startTag?
  cases lexeme.token.opens with
  | none => rfl
  | some opened =>
      have hContent : markLength + (position + distance) + 1 = markLength + position + 1 + distance := by
        omega
      have hStop : position + distance + byteLength lexeme.source =
          position + byteLength lexeme.source + distance := by omega
      simp only [Option.bind_some, readTag, hContent, hStop]
      cases writtenAttributes opened.2 with
      | error fault => rfl
      | ok written =>
          simp [Except.toOption, Tag.moved, Span.moved, toAttribute_add, Function.comp_def]

/-- Where a lexeme stands only moves its tag. -/
theorem Lexeme.startTag?_eq_moved (markLength position : Nat) (lexeme : Lexeme) :
    lexeme.startTag? markLength position =
      (lexeme.startTag? markLength 0).map (·.moved position) := by
  rw [← startTag?_add, Nat.zero_add]

theorem startTags_add (markLength position distance : Nat) (lexemes : List Lexeme) :
    startTags markLength (position + distance) lexemes =
      (startTags markLength position lexemes).map (·.moved distance) := by
  induction lexemes generalizing position with
  | nil => rfl
  | cons lexeme lexemes ih =>
      have hNext : position + distance + byteLength lexeme.source =
          position + byteLength lexeme.source + distance := by omega
      rw [startTags, startTags, hNext, ih, Lexeme.startTag?_add, List.map_append]
      cases lexeme.startTag? markLength position <;> rfl

end Markup

/-- The plan without the places that it remembers. -/
def Plan.bare (plan : Plan) : Plan :=
  { plan with directive := plan.directive.bare, sourceSpan := none }

namespace Converter

variable {converter : Converter}

@[simp] theorem isStaticNamed_bare (name : String) (attr : Attribute) :
    attr.bare.isStaticNamed name = attr.isStaticNamed name := rfl

theorem attr?_bare (tag : Tag) (name : String) :
    tag.bare.attr? name = (tag.attr? name).map Attribute.bare := by
  simp [Tag.attr?, Tag.bare, List.find?_map, Function.comp_def, Attribute.bare]

theorem attrIndex?_bare (tag : Tag) (name : String) :
    tag.bare.attrIndex? name = tag.attrIndex? name := by
  simp [Tag.attrIndex?, Tag.bare, List.findIdx?_map, Function.comp_def, Attribute.bare]

theorem directive?_bare (tag : Tag) :
    converter.directive? tag.bare = (converter.directive? tag).map Attribute.bare := by
  simp [directive?, Tag.bare, List.find?_map, Function.comp_def]

@[simp] theorem isCandidate_bare (tag : Tag) :
    converter.isCandidate tag.bare = converter.isCandidate tag := by
  rw [isCandidate, directive?_bare, Option.isSome_map]
  rfl

theorem plan_bare (tag : Tag) (directive : Attribute) :
    converter.plan tag.bare directive.bare = (converter.plan tag directive).map Plan.bare := by
  have hLocate : locateSource tag.bare =
      (locateSource tag).map fun source => (source.1, none, source.2.2) := by
    rw [locateSource, locateSource, attrIndex?_bare, attr?_bare]
    cases tag.attrIndex? "src" with
    | none => rfl
    | some index =>
        cases tag.attr? "src" with
        | none => rfl
        | some attr => cases hPath : sourcePath attr.value <;> simp [Attribute.bare, hPath, Except.map]
  rw [plan, plan, hLocate]
  cases locateSource tag with
  | error cause => rfl
  | ok source =>
      have hValue : directive.bare.value = directive.value := rfl
      rw [hValue]
      cases converter.resolve (directive.value.text?.getD "") <;> rfl

theorem plan?_bare (tag : Tag) :
    converter.plan? tag.bare = (converter.plan? tag).map Plan.bare := by
  rw [plan?, plan?, directive?_bare]
  cases converter.directive? tag with
  | none => rfl
  | some directive =>
      rw [Option.map_some, Option.bind_some, Option.bind_some, plan_bare]
      cases converter.plan tag directive <;> rfl

@[simp] theorem refusal?_bare (tag : Tag) : converter.refusal? tag.bare = converter.refusal? tag := by
  rw [refusal?, refusal?, isCandidate_bare, directive?_bare]
  cases converter.directive? tag with
  | none => rfl
  | some directive =>
      rw [Option.map_some, Option.bind_some, Option.bind_some, plan_bare]
      cases converter.plan tag directive <;> rfl

@[simp] theorem requests_bare (tag : Tag) : converter.requests tag.bare = converter.requests tag := by
  rw [requests, requests, plan?_bare]
  cases converter.plan? tag with
  | none => rfl
  | some plan => rfl

@[simp] theorem outcome_bare (tag : Tag) : converter.outcome tag.bare = converter.outcome tag := by
  rw [outcome, outcome, isCandidate_bare, plan?_bare]
  cases converter.plan? tag with
  | none => rfl
  | some plan => rfl

/-- What a tag decides is decided without its places. -/
theorem decisions_of_bare {left right : Tag} (h : left.bare = right.bare) :
    converter.isCandidate left = converter.isCandidate right ∧
      converter.refusal? left = converter.refusal? right ∧
      converter.requests left = converter.requests right ∧
      converter.outcome left = converter.outcome right := by
  rw [← isCandidate_bare left, ← refusal?_bare left, ← requests_bare left, ← outcome_bare left, h]
  simp

end Converter

namespace Markup

/-- An attribute as it is written with imports as calls. -/
def Attribute.printed (attr : Attribute) : Attribute := (attr.resolve .require).bare

theorem Attribute.write_printed (attr : Attribute) :
    attr.printed.write .require = attr.write .require := by
  obtain ⟨name, value, span⟩ := attr
  cases value <;> rfl

@[simp] theorem Attribute.printed_name (attr : Attribute) : attr.printed.name = attr.name := by
  obtain ⟨name, value, span⟩ := attr
  cases value <;> rfl

theorem Attribute.printed_span (name : String) (value : Value) (span : Option Span) :
    (Attribute.mk name value span).printed = (Attribute.mk name value none).printed := by
  cases value <;> rfl

/-- Script text in place of an import is no static value. -/
theorem Attribute.isStaticNamed_resolve (style : ImportStyle) (name : String) (attr : Attribute) :
    (attr.resolve style).isStaticNamed name = attr.isStaticNamed name := by
  obtain ⟨other, value, span⟩ := attr
  cases value <;> rfl

theorem Attribute.isStaticNamed_printed (name : String) (attr : Attribute) :
    attr.printed.isStaticNamed name = attr.isStaticNamed name :=
  attr.isStaticNamed_resolve .require name

/-- The same script text is written for both values. -/
def Value.Alike (left right : Value) : Prop :=
  ∀ name, (Attribute.mk name left none).printed = (Attribute.mk name right none).printed

theorem Value.Alike.printed {value other : Value} (h : value.Alike other) (name : String)
    (span last : Option Span) :
    (Attribute.mk name value span).printed = (Attribute.mk name other last).printed := by
  rw [Attribute.printed_span name value, h, ← Attribute.printed_span name other last]

/-- With imports as calls the number of an import does not matter. -/
theorem Value.alike_of_path {left right : ImportRef} (h : left.path = right.path) :
    Value.Alike (.bound (.module left)) (.bound (.module right)) ∧
      Value.Alike (.bound (.moduleDefault left)) (.bound (.moduleDefault right)) := by
  constructor <;> intro name <;>
    simp [Attribute.printed, Attribute.resolve, Attribute.bare, Expression.write, ImportStyle.write, h]

/-- What is done to one member of a list can be done before or after all are translated. -/
theorem map_modify {α β : Type} {translate : α → β} {f : α → α} {g : β → β}
    (h : ∀ a, translate (f a) = g (translate a)) (index : Nat) (as : List α) :
    (as.modify index f).map translate = (as.map translate).modify index g := by
  induction as generalizing index with
  | nil => simp
  | cons a as ih => cases index <;> simp [h, ih]

namespace Tag

@[simp] theorem setValueAt_closing (tag : Tag) (index : Nat) (value : Value) :
    (tag.setValueAt index value).closing = tag.closing := by
  unfold setValueAt
  split <;> rfl

@[simp] theorem keep_closing (tag : Tag) (condition : Attribute → Bool) :
    (tag.keep condition).closing = tag.closing := by
  simp only [keep]
  split <;> rfl

/-- The tags are written alike, if none of them still has its own text. -/
structure Alike (left right : Tag) : Prop where
  name : left.name = right.name
  attrs : left.attrs.map Attribute.printed = right.attrs.map Attribute.printed
  closing : left.closing = right.closing

theorem alike_of_bare {left right : Tag} (h : left.bare = right.bare) : left.Alike right := by
  have hPrinted : Attribute.printed = Attribute.printed ∘ Attribute.bare := by
    funext attr
    obtain ⟨name, value, span⟩ := attr
    cases value <;> rfl
  simp only [bare, Tag.mk.injEq] at h
  obtain ⟨hName, hAttrs, hClosing, -⟩ := h
  refine ⟨hName, ?_, hClosing⟩
  rw [hPrinted, ← List.map_map, hAttrs, List.map_map]

namespace Alike

variable {left right : Tag} (h : left.Alike right)
include h

theorem setValueAt (index : Nat) {value other : Value} (hValue : value.Alike other) :
    (left.setValueAt index value).Alike (right.setValueAt index other) := by
  have hLength : left.attrs.length = right.attrs.length := by
    simpa using congrArg List.length h.attrs
  have hUpdated (tag : Tag) {new : Value} (hNew : value.Alike new) :
      (tag.attrs.modify index fun attr => { attr with value := new }).map Attribute.printed =
        (tag.attrs.map Attribute.printed).modify index fun attr =>
          (Attribute.mk attr.name value none).printed := by
    refine map_modify (fun attr => ?_) index tag.attrs
    rw [Attribute.printed_name]
    exact (hNew.printed attr.name none attr.span).symm
  unfold Tag.setValueAt
  rw [hLength]
  split
  · exact ⟨h.name, by rw [hUpdated left fun _ => rfl, hUpdated right hValue, h.attrs], h.closing⟩
  · exact h

theorem push {attr other : Attribute} (hAttr : attr.printed = other.printed) :
    (left.push attr).Alike (right.push other) :=
  ⟨h.name, by simp [Tag.push, h.attrs, hAttr], h.closing⟩

theorem keep_not_static (name : String) :
    (left.keep fun attr => !attr.isStaticNamed name).Alike
      (right.keep fun attr => !attr.isStaticNamed name) := by
  have hKept (tag : Tag) :
      (tag.attrs.filter fun attr => !attr.isStaticNamed name).map Attribute.printed =
        (tag.attrs.map Attribute.printed).filter fun attr => !attr.isStaticNamed name := by
    rw [List.filter_map]
    simp [Function.comp_def, Attribute.isStaticNamed_printed]
  refine ⟨by simp [h.name], ?_, by rw [keep_closing, keep_closing, h.closing]⟩
  rw [keep_attrs, keep_attrs, hKept, hKept, h.attrs]

theorem writeStart (hLeft : left.raw = none) (hRight : right.raw = none) :
    left.writeStart .require = right.writeStart .require := by
  have hWritten : left.attrs.map (Attribute.write .require) =
      right.attrs.map (Attribute.write .require) := by
    have hWrite : Attribute.write .require = Attribute.write .require ∘ Attribute.printed := by
      funext attr
      exact attr.write_printed.symm
    rw [hWrite, ← List.map_map, h.attrs, List.map_map]
  simp [Tag.writeStart, hLeft, hRight, h.name, h.closing, hWritten]

theorem writeEnd (hLeft : left.raw = none) (hRight : right.raw = none) :
    left.writeEnd = right.writeEnd := by
  simp [Tag.writeEnd, hLeft, hRight, h.name, h.closing]

end Alike

end Tag

end Markup

namespace Pending

/-- The sources are written alike. -/
structure Alike (left right : Pending) : Prop where
  path : left.path = right.path
  formats : left.formats = right.formats
  request : left.request = right.request
  media : left.media.map Attribute.printed = right.media.map Attribute.printed
  sizes : left.sizes.map Attribute.printed = right.sizes.map Attribute.printed

variable {left right : Pending}

theorem Alike.source (h : left.Alike right) (mediaType : Option String) {first second : ImportRef}
    (hPath : first.path = second.path) :
    (left.source mediaType first).Alike (right.source mediaType second) := by
  have hCopied {attr other : Option Attribute}
      (h : attr.map Attribute.printed = other.map Attribute.printed) :
      attr.toList.map Attribute.printed = other.toList.map Attribute.printed := by
    rw [← Option.toList_map, h, Option.toList_map]
  have hSrcset :=
    (Value.alike_of_path hPath).2.printed "srcset" left.sourceSpan right.sourceSpan
  refine ⟨rfl, ?_, rfl⟩
  simp only [Pending.source, List.map_append, List.map_cons, List.map_nil, hSrcset,
    hCopied h.media, hCopied h.sizes]
  cases mediaType <;> rfl

/-- Sources of one picture are written alike whatever was imported before. -/
theorem Alike.write_sources (h : left.Alike right) (seen : List (Option String))
    (imports others : Imports) (formats : List SourceFormat) :
    Markup.writeAll .require
        ((left.sourcesFrom seen imports formats).1.map (Node.element · [])) =
      Markup.writeAll .require
        ((right.sourcesFrom seen others formats).1.map (Node.element · [])) := by
  have hTypes : left.mediaType? = right.mediaType? := by
    funext entry
    cases entry <;> simp [mediaType?, h.path]
  induction formats generalizing seen imports others with
  | nil => rfl
  | cons entry entries ih =>
      simp only [sourcesFrom, hTypes]
      split
      · exact ih seen imports others
      · have hPath : (imports.request (left.request entry.format?)).1.path =
            (others.request (right.request entry.format?)).1.path := by
          simp [h.request]
        have hSource := h.source (right.mediaType? entry) hPath
        simp only [List.map_cons, Markup.writeAll, Node.write, hSource.writeStart rfl rfl,
          hSource.writeEnd rfl rfl]
        rw [ih _ _ (others.request (right.request entry.format?)).2]

end Pending

namespace Converter

variable {converter : Converter} {plan other : Plan} {left right : Tag}

theorem requestLazyLoading_alike (h : left.Alike right)
    (span other : Option Span) :
    (requestLazyLoading left span).Alike (requestLazyLoading right other) := by
  have hLoading (tag : Tag) : (tag.attrs.any fun attr => attr.isStaticNamed "loading") =
      (tag.attrs.map Attribute.printed).any fun attr => attr.isStaticNamed "loading" := by
    simp [List.any_map, Function.comp_def, Attribute.isStaticNamed_printed]
  simp only [requestLazyLoading, hLoading, h.attrs]
  split
  · exact h
  · exact h.push rfl

section

variable (hPlan : plan.bare = other.bare)
include hPlan

theorem bindImports_alike (imports others : Imports) (h : left.Alike right) :
    (converter.bindImports plan left imports).1.Alike
      (converter.bindImports other right others).1 := by
  simp only [Plan.bare, Plan.mk.injEq] at hPlan
  obtain ⟨-, hIndex, -, hPath, hSettings⟩ := hPlan
  have hTarget : (imports.request (converter.compress plan.path plan.settings none)).1.path =
      (others.request (converter.compress plan.path plan.settings none)).1.path := by
    simp
  have hSource := h.setValueAt plan.index (Value.alike_of_path hTarget).1
  cases hMode : plan.settings.mode with
  | compressed | picture =>
      simp only [bindImports, ← hIndex, ← hPath, ← hSettings, hMode]
      exact hSource
  | withSrcset =>
      simp only [bindImports, ← hIndex, ← hPath, ← hSettings, hMode]
      exact hSource.push ((Value.alike_of_path (by simp)).2.printed _ _ _)

/-- A conversion as planned leaves tags that are written alike. -/
theorem convert_alike (imports others : Imports) (h : left.Alike right) :
    (converter.convert plan left imports).1.Alike (converter.convert other right others).1 := by
  have hBound := @bindImports_alike converter plan other left right hPlan imports others h
  simp only [Plan.bare, Plan.mk.injEq] at hPlan
  obtain ⟨hDirective, -, -, -, hSettings⟩ := hPlan
  have hName := congrArg Attribute.name hDirective
  change plan.directive.name = other.directive.name at hName
  simp only [convert, ← hSettings, ← hName]
  split
  · exact hBound.keep_not_static _
  · exact (requestLazyLoading_alike hBound _ _).keep_not_static _

theorem pending_alike (h : left.Alike right) :
    (converter.pending plan left).Alike (converter.pending other right) := by
  have hCopied (name : String) : (left.attr? name).map Attribute.printed =
      (right.attr? name).map Attribute.printed := by
    have hFound (tag : Tag) : (tag.attr? name).map Attribute.printed =
        (tag.attrs.map Attribute.printed).find? (·.name == name) := by
      simp only [Tag.attr?, List.find?_map, Function.comp_def, Attribute.printed_name]
    rw [hFound, hFound, h.attrs]
  simp only [Plan.bare, Plan.mk.injEq] at hPlan
  obtain ⟨-, -, -, hPath, hSettings⟩ := hPlan
  exact ⟨hPath, by simp [pending, hSettings], by simp [pending, hPath, hSettings], hCopied "media",
    hCopied "sizes"⟩

end

/-- The markup of a picture holds its sources and its image, and nothing of its own. -/
theorem write_picture (style : Markup.ImportStyle) (image : Tag) (sources : List Tag) :
    (picture image sources).toNode.write style =
      "<picture>" ++ (Markup.writeAll style (sources.map (Node.element · [])) ++
        (Node.element image []).write style) ++ "</picture>" := by
  have hAppend (nodes : List Node) : Markup.writeAll style (nodes ++ [Node.element image []]) =
      Markup.writeAll style nodes ++ (Node.element image []).write style := by
    induction nodes with
    | nil => simp [Markup.writeAll]
    | cons node nodes ih => simp [Markup.writeAll, ih, String.append_assoc]
  simp only [picture, Element.toNode, Node.write, hAppend]
  rfl

theorem write_image (h : left.Alike right) (hLeft : left.raw = none) (hRight : right.raw = none) :
    (Node.element left []).write .require = (Node.element right []).write .require := by
  simp only [Node.write, h.writeStart hLeft hRight, h.writeEnd hLeft hRight]

/-- What is left of an image that is converted as planned. -/
theorem transform_of_plan {tag : Tag} (hCandidate : converter.isCandidate tag = true)
    (hPlan : converter.plan? tag = some plan) (imports : Imports) :
    let converted := converter.convert plan tag imports
    (converter.transform ⟨tag, []⟩ imports).left =
      if plan.settings.mode = .picture then
        picture converted.1 ((converter.pending plan converted.1).sources converted.2).1
      else ⟨converted.1, []⟩ := by
  intro converted
  split
  · rename_i hMode
    have hBecomes : converter.Becomes imports ⟨tag, []⟩ _ _ _ :=
      .picture hCandidate hPlan rfl hMode rfl
    exact (transform_of_becomes hBecomes).2.1
  · rename_i hMode
    have hBecomes : converter.Becomes imports ⟨tag, []⟩ _ _ _ :=
      .inPlace hCandidate hPlan rfl hMode
    exact (transform_of_becomes hBecomes).2.1

/-- Images that are converted as planned are written alike. -/
theorem write_transform_of_plan (hCandidate : converter.isCandidate left = true)
    (hBare : left.bare = right.bare) (hPlan : converter.plan? left = some plan)
    (hNone : left.targets = [] ∧ right.targets = []) (imports others : Imports) :
    (converter.transform ⟨left, []⟩ imports).left.toNode.write .require =
      (converter.transform ⟨right, []⟩ others).left.toNode.write .require := by
  have hOther : (converter.plan? right).map Plan.bare = some plan.bare := by
    rw [← plan?_bare, ← hBare, plan?_bare, hPlan, Option.map_some]
  obtain ⟨other, hOther, hSame⟩ := Option.map_eq_some_iff.mp hOther
  have hRight := (decisions_of_bare hBare).1.symm.trans hCandidate
  have hSettings := congrArg Plan.settings hSame
  change other.settings = plan.settings at hSettings
  have hAlike := @convert_alike converter plan other left right hSame.symm imports others
    (Tag.alike_of_bare hBare)
  have hImage := write_image hAlike (convert_writtenAs hPlan hNone.1 rfl).raw
    (convert_writtenAs hOther hNone.2 rfl).raw
  rw [transform_of_plan hCandidate hPlan, transform_of_plan hRight hOther, hSettings]
  split
  · have hSources := (@pending_alike converter plan other _ _ hSame.symm hAlike).write_sources []
      (converter.convert plan left imports).2 (converter.convert other right others).2
      plan.settings.imageFormats
    have hPicture := congrArg (fun sources => "<picture>" ++ (sources ++
      (Node.element (converter.convert other right others).1 []).write .require) ++ "</picture>")
      hSources
    rw [write_picture, write_picture, hImage]
    simpa only [Pending.sources, pending, hSettings] using hPicture
  · exact hImage

/-- A tag that a lexeme begins an element with is written alike after its conversion wherever it
stands, and whatever was imported before it. -/
theorem write_transform_startTag {lexeme : Lexeme} {position place : Nat}
    (hLeft : lexeme.startTag? 0 position = some left)
    (hRight : lexeme.startTag? 0 place = some right) (imports others : Imports) :
    ((converter.transform ⟨left, []⟩ imports).left.toNode.write .require).toList =
      ((converter.transform ⟨right, []⟩ others).left.toNode.write .require).toList := by
  have hBare : left.bare = right.bare := by
    rw [Lexeme.startTag?_eq_moved] at hLeft hRight
    obtain ⟨tag, hTag, rfl⟩ := Option.map_eq_some_iff.mp hLeft
    obtain ⟨same, hSame, rfl⟩ := Option.map_eq_some_iff.mp hRight
    rw [Option.some.inj (hTag.symm.trans hSame)]
    simp
  obtain ⟨hSame, hRefusal, -⟩ := @decisions_of_bare converter left right hBare
  -- A tag that stays as it is has the text of the lexeme.
  have hText := (toList_write_startTag .require hLeft).trans
    (toList_write_startTag .require hRight).symm
  cases hCandidate : converter.isCandidate left with
  | false =>
      rw [transform_of_not_candidate ⟨left, []⟩ imports hCandidate,
        transform_of_not_candidate ⟨right, []⟩ others (hSame.symm.trans hCandidate)]
      exact hText
  | true =>
      cases hFound : converter.refusal? left with
      | some cause =>
          have hRefused := @transform_error_iff converter ⟨left, []⟩ imports cause
          have hOther := @transform_error_iff converter ⟨right, []⟩ others cause
          rw [(transform_of_error (hRefused.mpr hFound)).1,
            (transform_of_error (hOther.mpr (hRefusal.symm.trans hFound))).1]
          exact hText
      | none =>
          obtain ⟨plan, hPlan⟩ := refusal?_eq_none_iff.mp hFound hCandidate
          exact congrArg String.toList (write_transform_of_plan hCandidate hBare hPlan
            ⟨(Lexeme.beginsAt_of_startTag? hLeft).1.targets_eq,
              (Lexeme.beginsAt_of_startTag? hRight).1.targets_eq⟩ imports others)

end Converter

end ResponsiveImages
