import ResponsiveImages.Proofs.Conversion.Likeness
import ResponsiveImages.Proofs.Text.Lower

/-! What a conversion writes can be read again. The names of attributes are copied as they were read,
so that only a name in which something ends a tag or begins a value is in the way; the values are
written between quotes, whatever they are. -/
namespace ResponsiveImages

open Markup (Attribute Lexeme Span Tag Value endsNoTag isAttributeName isTagName)

namespace Markup

/-- The name of an image is a name, in whatever case it is written. -/
theorem isTagName_of_isNamed_img {tag : Tag} (h : tag.isNamed "img" = true) :
    isTagName tag.name = true := by
  have hLower : tag.name.toList.map Char.toLower = ['i', 'm', 'g'] := by
    simpa [Tag.isNamed, Text.equalIgnoringCase, Text.asciiLower, ← String.toList_inj] using h
  have hAlpha : ∀ c ∈ tag.name.toList, c.isAlpha = true := by
    intro c hc
    have hMem := List.mem_map_of_mem hc (f := Char.toLower)
    rw [hLower] at hMem
    exact Text.isAlpha_of_toLower (List.all_eq_true.mp (by decide) _ hMem)
  obtain ⟨c, cs, hName⟩ : ∃ c cs, tag.name.toList = c :: cs :=
    List.exists_cons_of_ne_nil fun hNil => by simp [hNil] at hLower
  rw [isTagName, Bool.and_eq_true, List.all_eq_true]
  refine ⟨?_, fun c hc => by simp [isTagChar, Char.isAlphanum, hAlpha c hc]⟩
  rw [hName] at hAlpha ⊢
  simpa using hAlpha c List.mem_cons_self

/-- What a conversion adds has a name of its own. -/
theorem Attribute.isLegible_of_name {name : String} (hName : isAttributeName name = true)
    (value : Value) (span : Option Span) : (Attribute.mk name value span).IsLegible :=
  isLegible_of_isAttributeName hName

/-- No attribute has a name in which something ends a tag or begins a value. -/
def Tag.HasPlainNames (tag : Tag) : Prop :=
  ∀ attr ∈ tag.attrs, ∀ c ∈ attr.name.toList, c ≠ '"' ∧ c ≠ '\'' ∧ c ≠ '>'

theorem Tag.hasPlainNames_iff (tag : Tag) :
    tag.HasPlainNames ↔ tag.attrs.all (·.name.toList.all endsNoTag) = true := by
  simp only [HasPlainNames, List.all_eq_true, endsNoTag, Bool.and_eq_true, bne_iff_ne]
  refine forall₂_congr fun attr _ => forall₂_congr fun c _ => ?_
  tauto

instance : DecidablePred Tag.HasPlainNames := fun tag =>
  decidable_of_iff _ (Tag.hasPlainNames_iff tag).symm

/-- If its names are plain, a tag that was read can be read again. -/
theorem Tag.BeginsAt.isLegible_attrs {lexemes : List Lexeme} {markLength position : Nat} {tag : Tag}
    (begins : tag.BeginsAt lexemes markLength position) (hNames : tag.HasPlainNames) :
    ∀ attr ∈ tag.attrs, attr.IsLegible := by
  obtain ⟨lexeme, -, content, written, -, hWritten, -, hAttrs, -⟩ := begins.fields
  have hKeys := WrittenAttribute.isKey_of_writtenAttributes hWritten
  rw [hasPlainNames_iff, hAttrs, List.all_eq_true] at hNames
  rw [hAttrs]
  intro attr hAttr
  obtain ⟨key, hKey, rfl⟩ := List.mem_map.mp hAttr
  exact (hKeys key hKey).isLegible _ (List.all_eq_true.mp (hNames _ hAttr))

end Markup

namespace Converter

variable {converter : Converter} {plan : Plan} {tag : Tag}

theorem convert_closing (imports : Imports) :
    (converter.convert plan tag imports).1.closing = tag.closing := by
  have hLazy (tag : Tag) (span : Option Markup.Span) :
      (requestLazyLoading tag span).closing = tag.closing := by
    unfold requestLazyLoading
    split <;> rfl
  have hBound : (converter.bindImports plan tag imports).1.closing = tag.closing := by
    unfold bindImports
    dsimp only
    split
    · exact Tag.setValueAt_closing tag _ _
    · exact Tag.setValueAt_closing tag _ _
  simp only [convert, Tag.keep_closing]
  split
  · exact hBound
  · rw [hLazy, hBound]

/-- A conversion adds attributes with names of its own, and gives the source a new value. -/
theorem convert_isLegible_attrs (hPlan : converter.plan? tag = some plan)
    (hAttrs : ∀ attr ∈ tag.attrs, attr.IsLegible) (imports : Imports) :
    ∀ attr ∈ (converter.convert plan tag imports).1.attrs, attr.IsLegible := by
  obtain ⟨source, hSource, hName⟩ := plan?_source hPlan
  have hSet (value : Value) :
      ∀ attr ∈ (tag.setValueAt plan.index value).attrs, attr.IsLegible := by
    refine Tag.forall_mem_setValueAt hAttrs fun attr hAttr =>
      Attribute.isLegible_of_name ?_ value attr.span
    rw [hSource, Option.some.injEq] at hAttr
    rw [← hAttr, hName]
    decide
  have hBound : ∀ attr ∈ (converter.bindImports plan tag imports).1.attrs, attr.IsLegible := by
    unfold bindImports
    dsimp only
    split
    · exact Tag.forall_mem_push (hSet _) (Attribute.isLegible_of_name (by decide) _ _)
    · exact hSet _
  rw [convert]
  dsimp only
  refine Tag.forall_mem_keep ?_
  split
  · exact hBound
  · unfold requestLazyLoading
    split
    · exact hBound
    · exact Tag.forall_mem_push hBound (Attribute.isLegible_of_name (by decide) _ _)

/-- A converted image can be read again. -/
theorem convert_isLegible (hCandidate : converter.isCandidate tag = true)
    (hPlan : converter.plan? tag = some plan) (hNone : tag.targets = [])
    (hClosing : tag.closing ≠ .endTag) (hAttrs : ∀ attr ∈ tag.attrs, attr.IsLegible)
    (imports : Imports) : (converter.convert plan tag imports).1.IsLegible where
  raw := (convert_writtenAs hPlan hNone rfl).raw
  name := by
    rw [convert_name]
    exact Markup.isTagName_of_isNamed_img ((converter.isCandidate_iff tag).mp hCandidate).1
  attrs := convert_isLegible_attrs hPlan hAttrs imports
  endTag hEnd := absurd ((convert_closing imports).symm.trans hEnd) hClosing
  void _ := by
    rw [convert_name]
    exact candidate_isVoid hCandidate

end Converter

namespace Pending

/-- A source can be read again, if the attributes that are copied to it can. -/
theorem source_isLegible {pending : Pending} (hMedia : ∀ attr ∈ pending.media, attr.IsLegible)
    (hSizes : ∀ attr ∈ pending.sizes, attr.IsLegible) (mediaType : Option String)
    (target : ImportRef) : (pending.source mediaType target).IsLegible where
  raw := rfl
  name := (by decide : isTagName "source" = true)
  attrs := by
    have hSet : ∀ attr ∈ [Attribute.mk "srcset" (.bound (.moduleDefault target))
        pending.sourceSpan], attr.IsLegible :=
      List.forall_mem_singleton.mpr (Attribute.isLegible_of_name (by decide) _ _)
    have hCopied {attr? : Option Attribute} (h : ∀ attr ∈ attr?, attr.IsLegible) :
        ∀ attr ∈ attr?.toList, attr.IsLegible := by simpa using h
    refine List.forall_mem_append.mpr ⟨List.forall_mem_append.mpr
      ⟨List.forall_mem_append.mpr ⟨?_, hSet⟩, hCopied hMedia⟩, hCopied hSizes⟩
    cases mediaType with
    | none => exact List.forall_mem_nil _
    | some mediaType =>
        exact List.forall_mem_singleton.mpr (Attribute.isLegible_of_name (by decide) _ _)
  endTag hEnd := by cases hEnd
  void hVoid := by cases hVoid

end Pending

end ResponsiveImages
