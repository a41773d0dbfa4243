import Mathlib.Data.List.Forall2
import ResponsiveImages.Proofs.Markup.AttributeTexts
import ResponsiveImages.Proofs.Markup.ElementSpans

/-! Where attributes stand. The span of an attribute begins with its key and ends with its value,
closing quote included, unless its value is an empty one in quotes: then it ends with the key. -/
namespace ResponsiveImages.Markup

open Text (byteLength)

/-- The span of one part of each attribute, from its key on. The blanks of the first attribute begin
at the place. -/
def spansFrom (part : AttributeText → List Char) : Nat → List AttributeText → List Span
  | _, [] => []
  | place, written :: more =>
    let start := place + byteLength written.blanks
    ⟨start, start + byteLength (part written)⟩ ::
      spansFrom part (place + byteLength written.text) more

namespace AttributeText

/-- What is counted comes first. -/
theorem exists_content_eq (written : AttributeText) :
    ∃ lost, written.content = written.counted ++ lost := by
  simp only [content, counted, ValueText.counted]
  split
  · exact ⟨written.value.text, by simp⟩
  · exact ⟨[], by simp⟩

theorem byteLength_counted_eq_iff {written : AttributeText} {behind : List Char}
    (h : written.StandsBefore behind) :
    byteLength written.counted = byteLength written.content ↔
      ¬ written.value.IsEmptyQuoted := by
  rw [← ValueText.counted_eq_text_iff h.value]
  constructor
  · intro hLength
    obtain ⟨lost, hLost⟩ := written.exists_content_eq
    have hNone : lost = [] := by
      rw [hLost, Text.byteLength_append] at hLength
      exact Text.byteLength_eq_zero.mp (by omega)
    rw [hNone, List.append_nil] at hLost
    exact List.append_cancel_left hLost.symm
  · intro hSame
    rw [counted, content, hSame]

theorem byteLength_counted_pos {written : AttributeText} {behind : List Char}
    (h : written.StandsBefore behind) : 0 < byteLength written.counted := by
  obtain ⟨c, rest, hKey, -⟩ := h.key
  have hPos := c.utf8Size_pos
  simp only [counted, hKey, Text.byteLength_append, Text.byteLength_cons]
  omega

end AttributeText

/-- The parser gives every attribute the span of what it counts. -/
theorem readAttributes_span (position place : Nat) (texts : List AttributeText) :
    (readAttributes place texts).map (fun read => (read.toAttribute position).span) =
      (spansFrom AttributeText.counted (position + place) texts).map some := by
  induction texts generalizing place with
  | nil => rfl
  | cons written more ih =>
      have hFirst : ((written.read place).toAttribute position).span =
          some ⟨position + (written.read place).start, position + (written.read place).stop⟩ := by
        unfold WrittenAttribute.toAttribute
        split <;> rfl
      rw [readAttributes, List.map_cons, hFirst, ih, spansFrom, List.map_cons]
      simp only [AttributeText.read, Nat.add_assoc]

/-- Only empty values in quotes make a difference. -/
theorem spansFrom_counted_eq_iff {cs : List Char} {texts : List AttributeText}
    (h : IsWrittenAs cs texts) (place : Nat) :
    spansFrom AttributeText.counted place texts = spansFrom AttributeText.content place texts ↔
      ∀ written ∈ texts, ¬ written.value.IsEmptyQuoted := by
  induction h generalizing place with
  | done => simp [spansFrom]
  | next hFirst _ ih =>
      simp [spansFrom, ih, AttributeText.byteLength_counted_eq_iff hFirst]

/-- Every span covers what was counted. -/
theorem spansFrom_slices {cs : List Char} {texts : List AttributeText} (h : IsWrittenAs cs texts)
    (before after : List Char) :
    List.Forall₂ (fun span written => slice span (before ++ cs ++ after) = some written.counted)
      (spansFrom AttributeText.counted (byteLength before) texts) texts := by
  induction h generalizing before with
  | done => exact .nil
  | @next written behind more _ _ ih =>
      obtain ⟨lost, hLost⟩ := written.exists_content_eq
      have hFirst := slice_append (before ++ written.blanks) written.counted
        (lost ++ behind ++ after)
      have hRest := ih (before ++ written.text)
      rw [Text.byteLength_append] at hFirst hRest
      rw [spansFrom]
      refine .cons ?_ ?_
      · simpa [AttributeText.text, hLost] using hFirst
      · simpa using hRest

/-- Spans stand one behind the other, none of them is empty, and all are in the text. -/
theorem spansFrom_apart {cs : List Char} {texts : List AttributeText} (h : IsWrittenAs cs texts)
    (place : Nat) :
    let spans := spansFrom AttributeText.counted place texts
    (spans.Pairwise fun earlier later => earlier.stop ≤ later.start) ∧
      ∀ span ∈ spans,
        place ≤ span.start ∧ span.start < span.stop ∧ span.stop ≤ place + byteLength cs := by
  induction h generalizing place with
  | done => exact ⟨.nil, List.forall_mem_nil _⟩
  | @next written behind more hFirst _ ih =>
      obtain ⟨hApart, hInside⟩ := ih (place + byteLength written.text)
      obtain ⟨lost, hLost⟩ := written.exists_content_eq
      have hText := congrArg byteLength hLost
      have hPos := AttributeText.byteLength_counted_pos hFirst
      simp only [Text.byteLength_append] at hText
      simp only [spansFrom, AttributeText.text, Text.byteLength_append] at hApart hInside ⊢
      refine ⟨List.pairwise_cons.mpr ⟨fun later hLater => ?_, hApart⟩,
        List.forall_mem_cons.mpr ⟨?_, fun span hSpan => ?_⟩⟩
      · have hBehind := (hInside later hLater).1
        dsimp only
        omega
      · dsimp only
        omega
      · have hBehind := hInside span hSpan
        omega

/-- What a start tag ends with. -/
def Closing.bracket : Closing → List Char
  | .selfClosing => ['/', '>']
  | .endTag | .void => ['>']

/-- The text of the start tag is its name and the attributes, between brackets. -/
def Tag.IsWrittenWith (tag : Tag) (texts : List AttributeText) : Prop :=
  ∃ body, tag.startSource = '<' :: (tag.name.toList ++ body ++ tag.closing.bracket) ∧
    IsWrittenAs body texts

/-- The attributes have the spans of one part of their texts, which stand behind the name of the
tag. -/
def Tag.HasSpans (part : AttributeText → List Char) (tag : Tag) (texts : List AttributeText) :
    Prop :=
  ∃ whole, tag.span = some whole ∧ tag.attrs.map (·.span) =
    (spansFrom part (whole.start + 1 + byteLength tag.name.toList) texts).map some

theorem Closing.byteLength_bracket_pos (closing : Closing) : 0 < byteLength closing.bracket := by
  cases closing <;> decide

theorem Lexeme.IsSpelled.source_eq {lexeme : Lexeme} (h : lexeme.IsSpelled) {closing : Closing}
    {content : List Char} (hOpens : lexeme.token.opens = some (closing, content)) :
    lexeme.source = '<' :: (content ++ closing.bracket) := by
  unfold IsSpelled at h
  unfold Token.opens at hOpens
  split at hOpens
  · rename_i hToken
    rw [hToken] at h
    cases hOpens
    exact h
  · rename_i hToken
    rw [hToken] at h
    split at hOpens <;> cases hOpens <;> exact h.1
  · cases hOpens

section

variable {lexemes : List Lexeme} (hSpelled : ∀ lexeme ∈ lexemes, lexeme.IsSpelled)
include hSpelled

/-- The attributes of a tag can be told from the text that it was read from. -/
theorem Tag.BeginsAt.attributes {position : Nat} {tag : Tag}
    (begins : tag.BeginsAt lexemes 0 position) :
    (∃ texts, tag.IsWrittenWith texts) ∧ ∀ texts, tag.IsWrittenWith texts →
      tag.HasSpans AttributeText.counted texts := by
  obtain ⟨lexeme, hMem, content, read, hOpens, hWritten, hName, hAttrs, hSpan, hRaw⟩ :=
    begins.fields
  obtain ⟨body, hContent, ⟨texts, hTexts⟩, hOnly⟩ := isWrittenAs_of_writtenAttributes hWritten
  have hStart : tag.startSource = '<' :: (tag.name.toList ++ body ++ tag.closing.bracket) := by
    rw [hName, String.toList_ofList, ← hContent, ← (hSpelled lexeme hMem).source_eq hOpens]
    simp [startSource, hRaw]
  refine ⟨⟨texts, body, hStart, hTexts⟩, fun others hOthers => ⟨_, hSpan, ?_⟩⟩
  obtain ⟨other, hOther, hOthers⟩ := hOthers
  rw [hStart, List.cons.injEq] at hOther
  obtain rfl := List.append_cancel_left (List.append_cancel_right hOther.2)
  rw [hAttrs, hName, String.toList_ofList, hOnly others hOthers, List.map_map, Nat.zero_add]
  exact readAttributes_span (position + 1) (byteLength (tagName content)) others

/-- An end tag changes nothing in the start tag. -/
theorem Tag.ReadAt.attributes {position : Nat} {tag : Tag} {children : List Node}
    (h : tag.ReadAt lexemes 0 position children) :
    (∃ texts, tag.IsWrittenWith texts) ∧ ∀ texts, tag.IsWrittenWith texts →
      tag.HasSpans AttributeText.counted texts := by
  cases h with
  | leaf begins _ | unclosed begins _ => exact begins.attributes hSpelled
  | @closed opened _ lexeme _ begins _ _ _ _ =>
      obtain ⟨hSome, hAll⟩ := begins.attributes hSpelled
      simp only [IsWrittenWith, Tree.closedBy_startSource _ _ begins]
      refine ⟨hSome, fun texts hTexts => ?_⟩
      obtain ⟨whole, hWhole, hSpans⟩ := hAll texts hTexts
      exact ⟨_, congrArg (Option.map _) hWhole, hSpans⟩

end

/-- The spans of the attributes of a tag in a text. They cover what the parser counts, stand one
behind the other, and lie behind the opening bracket of the start tag and in front of its end. -/
structure Tag.KeepsSpans (cs : List Char) (tag : Tag) (texts : List AttributeText) : Prop where
  counted : tag.HasSpans AttributeText.counted texts
  slices : List.Forall₂ (fun attr written =>
    ∃ span ∈ attr.span, slice span cs = some written.counted) tag.attrs texts
  apart : (tag.attrs.filterMap (·.span)).Pairwise fun earlier later => earlier.stop ≤ later.start
  inside : ∀ span ∈ tag.attrs.filterMap (·.span), span.start < span.stop ∧
    ∃ whole ∈ tag.span, whole.start < span.start ∧
      span.stop < whole.start + byteLength tag.startSource

section

variable {tag : Tag} {texts : List AttributeText} (hTexts : tag.IsWrittenWith texts)
  (hCounted : tag.HasSpans AttributeText.counted texts)
include hTexts hCounted

/-- The spans reach to the ends of the values unless a value in quotes is empty. -/
theorem Tag.hasSpans_content_iff :
    tag.HasSpans AttributeText.content texts ↔
      ∀ written ∈ texts, ¬ written.value.IsEmptyQuoted := by
  obtain ⟨body, -, hBody⟩ := hTexts
  obtain ⟨whole, hWhole, hAttrs⟩ := hCounted
  rw [← spansFrom_counted_eq_iff hBody (whole.start + 1 + byteLength tag.name.toList)]
  constructor
  · rintro ⟨other, hOther, hContent⟩
    obtain rfl := Option.some.inj (hWhole.symm.trans hOther)
    exact List.map_injective_iff.mpr (fun _ _ => Option.some.inj) (hAttrs.symm.trans hContent)
  · intro hSame
    exact ⟨whole, hWhole, by rw [hAttrs, hSame]⟩

theorem Tag.keepsSpans {before after : List Char}
    (hStart : ∀ whole ∈ tag.span, whole.start = byteLength before) :
    tag.KeepsSpans (before ++ tag.startSource ++ after) texts := by
  obtain ⟨body, hSource, hBody⟩ := hTexts
  obtain ⟨whole, hWhole, hAttrs⟩ := id hCounted
  -- The attributes stand behind the bracket and the name.
  have hBracket : '<'.utf8Size = 1 := by decide
  have hPlace : whole.start + 1 + byteLength tag.name.toList =
      byteLength (before ++ '<' :: tag.name.toList) := by
    rw [hStart whole hWhole, Text.byteLength_append, Text.byteLength_cons, hBracket,
      Nat.add_assoc]
  have hSpans : tag.attrs.filterMap (·.span) = spansFrom AttributeText.counted
      (byteLength (before ++ '<' :: tag.name.toList)) texts := by
    rw [← hPlace]
    simpa [List.filterMap_map, Function.comp_def] using congrArg (List.filterMap id) hAttrs
  obtain ⟨hApart, hInside⟩ :=
    spansFrom_apart hBody (byteLength (before ++ '<' :: tag.name.toList))
  refine ⟨hCounted, ?_, by rwa [hSpans], fun span hSpan => ?_⟩
  · have hSlices := spansFrom_slices hBody (before ++ '<' :: tag.name.toList)
      (tag.closing.bracket ++ after)
    have hText : before ++ '<' :: tag.name.toList ++ body ++ (tag.closing.bracket ++ after) =
        before ++ tag.startSource ++ after := by
      simp [hSource]
    have hPlaces : List.Forall₂ (fun span? (written : AttributeText) => ∃ span ∈ span?,
        slice span (before ++ tag.startSource ++ after) = some written.counted)
        (tag.attrs.map (·.span)) texts := by
      rw [hAttrs, hPlace, List.forall₂_map_left_iff]
      simpa [← hText] using hSlices
    exact List.forall₂_map_left_iff.mp hPlaces
  · rw [hSpans] at hSpan
    have hBehind := hInside span hSpan
    have hEnd := tag.closing.byteLength_bracket_pos
    have hBefore := hStart whole hWhole
    refine ⟨hBehind.2.1, whole, hWhole, ?_⟩
    simp only [hSource, Text.byteLength_append, Text.byteLength_cons, hBracket] at hBehind ⊢
    omega

end

/-- In every element of a source the spans of the attributes reach from the keys to the ends of the
values, closing quotes included. -/
def SpansCoverAttributes (source : String) : Prop :=
  ∀ nodes, parse source = .ok nodes → ∀ element ∈ elementsAll nodes, ∀ texts,
    element.tag.IsWrittenWith texts → element.tag.HasSpans AttributeText.content texts

/-- The attributes of every element can be told from its start tag, and their spans stand in it one
behind the other. They reach from the keys to the ends of the values exactly if no value in quotes is
empty. -/
theorem parse_attributeSpans (source : String) (nodes : List Node)
    (hMark : ¬ BeginsWithMark source) (h : parse source = .ok nodes) :
    ∀ element ∈ elementsAll nodes, (∃ texts, element.tag.IsWrittenWith texts) ∧
      ∀ texts, element.tag.IsWrittenWith texts → element.tag.KeepsSpans source.toList texts ∧
        (element.tag.HasSpans AttributeText.content texts ↔
          ∀ written ∈ texts, ¬ written.value.IsEmptyQuoted) := by
  obtain ⟨hSource, hStands⟩ := parse_scanned hMark h
  have hSpelled := Lexeme.scanAll_isSpelled source.toList
  intro element hElement
  obtain ⟨before, after, hText, hRead, -⟩ :=
    standsIn_of_mem_elementsAll 0 nodes hStands element hElement
  obtain ⟨hSome, hAll⟩ := hRead.attributes hSpelled
  refine ⟨hSome, fun texts hTexts => ⟨?_, Tag.hasSpans_content_iff hTexts (hAll texts hTexts)⟩⟩
  obtain ⟨raw, stop, -, hSpan, -⟩ := hRead.raw_span
  have hKeeps : element.tag.KeepsSpans (before ++ element.tag.startSource ++
      (sourceAll element.children ++ element.tag.stopSource ++ after)) texts :=
    Tag.keepsSpans hTexts (hAll texts hTexts) (by simp [hSpan])
  rw [hSource, hText]
  simpa [Element.toNode, Node.source] using hKeeps

/-- A value in quotes that holds a bracket, an empty one, one without quotes, and none. -/
theorem parse_attributeSpans_mixed :
    let source := "<p :é = 'x>' b=\"\" c=d e/>"
    ¬ BeginsWithMark source ∧ ∃ nodes, parse source = .ok nodes ∧
      (elementsAll nodes).map (fun element => element.tag.attrs.filterMap (·.span)) =
        [[⟨3, 13⟩, ⟨14, 15⟩, ⟨19, 22⟩, ⟨23, 24⟩]] ∧
      ∀ element ∈ elementsAll nodes, (∃ texts, element.tag.IsWrittenWith texts) ∧
        ∀ texts, element.tag.IsWrittenWith texts → element.tag.KeepsSpans source.toList texts ∧
          (element.tag.HasSpans AttributeText.content texts ↔
            ∀ written ∈ texts, ¬ written.value.IsEmptyQuoted) := by
  intro source
  have hMark : ¬ BeginsWithMark source := by decide
  have hSpans : (parse source).toOption.map (fun nodes => (elementsAll nodes).map fun element =>
      element.tag.attrs.filterMap (·.span)) =
        some [[⟨3, 13⟩, ⟨14, 15⟩, ⟨19, 22⟩, ⟨23, 24⟩]] := by decide +kernel
  obtain ⟨nodes, hParse⟩ := isOk_iff.mp (by decide +kernel : (parse source).isOk = true)
  rw [hParse] at hSpans
  exact ⟨hMark, nodes, hParse, Option.some.inj hSpans,
    parse_attributeSpans source nodes hMark hParse⟩

/-- The span of an attribute with an empty value in quotes ends in front of its equals sign. -/
theorem not_spansCoverAttributes_empty :
    ¬ BeginsWithMark "<p a=\"\">" ∧ ¬ SpansCoverAttributes "<p a=\"\">" := by
  refine ⟨by decide, fun hCover => ?_⟩
  have hParse : parse "<p a=\"\">" = .ok [.element ⟨"p", [⟨"a", .text "", some ⟨3, 4⟩⟩], .endTag,
      some ⟨0, 8⟩, some ⟨"<p a=\"\">", none⟩⟩ []] := by rfl
  have hFirst : (AttributeText.mk [' '] ['a'] (.quoted [] [] '"' [])).StandsBefore [] :=
    ⟨List.forall_mem_singleton.mpr (by decide),
      ⟨'a', [], rfl, by decide, List.forall_mem_nil _⟩, List.forall_mem_nil _,
      List.forall_mem_nil _, Or.inl rfl, List.not_mem_nil⟩
  obtain ⟨whole, hWhole, hAttrs⟩ := hCover _ hParse _ List.mem_cons_self
    [⟨[' '], ['a'], .quoted [] [] '"' []⟩]
    ⟨[' ', 'a', '=', '"', '"'], rfl, .next hFirst (.done (List.forall_mem_nil _))⟩
  cases hWhole
  revert hAttrs
  decide

end ResponsiveImages.Markup
