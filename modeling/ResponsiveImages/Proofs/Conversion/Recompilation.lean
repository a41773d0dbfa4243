import ResponsiveImages.Proofs.Conversion.Concatenation
import ResponsiveImages.Proofs.Conversion.Idempotence
import ResponsiveImages.Proofs.Conversion.Legibility

/-! Compilation of what was compiled. The markup of a compiled template can be read, no image in it
is a candidate, and so it compiles to itself. This is shown for one lexeme at a time: whatever is
written for it can be read alone, and then also between what is written for the others. -/
namespace ResponsiveImages

open Markup (BeginsWithMark Element ImportStyle Lexeme Node Readable Tag elementsAll
  isTagName isVoidName parse startTags writeAll)
open Markup.Lexeme (scanAll scanAll_alone scanAll_append)
open Text (byteLength)

namespace Markup

theorem Lexeme.isReadable_of_startTag? {lexeme : Lexeme} {markLength position : Nat} {tag : Tag}
    (h : lexeme.startTag? markLength position = some tag) : lexeme.token.isReadable = true := by
  obtain ⟨⟨closing, content⟩, hOpens, hTag⟩ := Option.bind_eq_some_iff.mp h
  unfold readTag at hTag
  rw [Token.isReadable, hOpens]
  cases hWritten : writtenAttributes content with
  | error fault => simp [hWritten, Except.toOption] at hTag
  | ok written => simp [hWritten, Except.isOk, Except.toBool]

namespace Tag

variable {tag : Tag} (hTag : tag.IsLegible) (style : ImportStyle)
include hTag

/-- A blank in front of the slash still belongs to the content. -/
theorem opens_startToken : ∃ blanks : List Char, (∀ c ∈ blanks, isMarkupSpace c = true) ∧
    (tag.startToken style).opens = some (tag.closing, tag.content style ++ blanks) := by
  have hName := tagName_content hTag style (List.forall_mem_nil _)
  rw [List.append_nil] at hName
  cases hClosing : tag.closing with
  | selfClosing =>
      exact ⟨[' '], List.all_eq_true.mp (by decide), by rw [startToken, hClosing]; rfl⟩
  | endTag =>
      refine ⟨[], List.forall_mem_nil _, ?_⟩
      simp [startToken, hClosing, Token.opens, hName, hTag.endTag hClosing]
  | void =>
      refine ⟨[], List.forall_mem_nil _, ?_⟩
      simp [startToken, hClosing, Token.opens, hName, hTag.void hClosing]

/-- The lexeme of a written start tag begins an element with that tag. -/
theorem startTag?_writeStart (markLength position : Nat) :
    ∃ read, (Lexeme.mk (tag.startToken style) (tag.writeStart style).toList).startTag? markLength
        position = some read ∧ read.bare = tag.readBack style := by
  obtain ⟨blanks, hBlanks, hOpens⟩ := opens_startToken hTag style
  obtain ⟨read, hRead, hSame⟩ := readTag_content hTag style hBlanks position
    (markLength + position + 1)
    ⟨position, position + byteLength (tag.writeStart style).toList⟩
    (String.ofList (tag.writeStart style).toList)
  exact ⟨read, Lexeme.startTag?_of_readTag hOpens hRead, hSame⟩

theorem head?_write (children : List Node) :
    ((Node.element tag children).write style).toList.head? = some '<' := by
  simp [Node.write, toList_writeStart hTag.raw]

end Tag

end Markup

namespace Converter

variable {converter : Converter}

/-- Script text in place of imports makes no candidate. -/
theorem isCandidate_readBack (style : ImportStyle) (tag : Tag) :
    converter.isCandidate (tag.readBack style) = converter.isCandidate tag := by
  have hDirective : converter.directive? (tag.resolve style) =
      (converter.directive? tag).map (·.resolve style) := by
    simp only [directive?, Tag.resolve, List.find?_map, Function.comp_def,
      Markup.Attribute.isStaticNamed_resolve]
  rw [Tag.readBack, isCandidate_bare, isCandidate, hDirective, Option.isSome_map]
  rfl

/-- The text can be read, and no image in it is a candidate. -/
def LeavesAlone (converter : Converter) (cs : List Char) : Prop :=
  Readable cs ∧ converter.candidateTags cs = []

theorem leavesAlone_nil : converter.LeavesAlone [] := ⟨⟨rfl, List.forall_mem_nil _⟩, rfl⟩

theorem LeavesAlone.append {left right : List Char} (hLeft : converter.LeavesAlone left)
    (hRight : converter.LeavesAlone right) : converter.LeavesAlone (left ++ right) := by
  refine ⟨(hLeft.1.append_iff right).mpr hRight.1, ?_⟩
  rw [candidateTags_append hLeft.1, hLeft.2, hRight.2]
  rfl

/-- A lexeme that begins no candidate. -/
theorem leavesAlone_lexeme (lexeme : Lexeme) (position : Nat)
    (hAlone : scanAll lexeme.source = ([lexeme], none)) (hReadable : lexeme.token.isReadable = true)
    (hTag : ∀ tag, lexeme.startTag? 0 position = some tag → converter.isCandidate tag = false) :
    converter.LeavesAlone lexeme.source := by
  refine ⟨⟨by rw [hAlone], by simpa [hAlone] using hReadable⟩, ?_⟩
  rw [candidateTags, hAlone]
  cases hFirst : lexeme.startTag? 0 0 with
  | none => simp [startTags, hFirst]
  | some tag =>
      have hNone := hTag (tag.moved position) (by rw [Lexeme.startTag?_eq_moved, hFirst]; rfl)
      rw [isCandidate_moved] at hNone
      simp [startTags, hFirst, hNone]

section

variable (style : ImportStyle)

theorem leavesAlone_writeStart {tag : Tag} (hTag : tag.IsLegible)
    (hNone : converter.isCandidate tag = false) :
    converter.LeavesAlone (tag.writeStart style).toList := by
  have hSome : (tag.writeStart style).toList ≠ [] := by simp [Tag.toList_writeStart hTag.raw]
  have hAll := Lexeme.scanAll_append hSome (Tag.scan_writeStart hTag style [])
  rw [List.append_nil] at hAll
  obtain ⟨read, hRead, hSame⟩ := Tag.startTag?_writeStart hTag style 0 0
  refine leavesAlone_lexeme ⟨tag.startToken style, (tag.writeStart style).toList⟩ 0 hAll
    (Lexeme.isReadable_of_startTag? hRead) fun other hOther => ?_
  rw [hRead, Option.some.injEq] at hOther
  rw [← hOther, ← isCandidate_bare, hSame, isCandidate_readBack, hNone]

theorem leavesAlone_writeEnd {tag : Tag} (hTag : tag.IsLegible) :
    converter.LeavesAlone tag.writeEnd.toList := by
  by_cases hClosing : tag.closing = .endTag
  · have hSome : tag.writeEnd.toList ≠ [] := by simp [Tag.toList_writeEnd hTag.raw hClosing]
    have hAll := Lexeme.scanAll_append hSome (Tag.scan_writeEnd hTag hClosing [])
    rw [List.append_nil] at hAll
    exact leavesAlone_lexeme ⟨.endTag tag.name.toList, tag.writeEnd.toList⟩ 0 hAll rfl
      fun other hOther => by cases hOther
  · rw [Tag.writeEnd_eq_empty hTag.raw hClosing]
    exact leavesAlone_nil

theorem leavesAlone_writeAll {nodes : List Node}
    (h : ∀ node ∈ nodes, converter.LeavesAlone (node.write style).toList) :
    converter.LeavesAlone (writeAll style nodes).toList := by
  induction nodes with
  | nil => exact leavesAlone_nil
  | cons node nodes ih =>
      obtain ⟨hNode, hNodes⟩ := List.forall_mem_cons.mp h
      rw [writeAll, String.toList_append]
      exact hNode.append (ih hNodes)

theorem leavesAlone_element {tag : Tag} {children : List Node} (hTag : tag.IsLegible)
    (hNone : converter.isCandidate tag = false)
    (hChildren : converter.LeavesAlone (writeAll style children).toList) :
    converter.LeavesAlone ((Node.element tag children).write style).toList := by
  rw [Node.write, String.toList_append, String.toList_append]
  exact ((leavesAlone_writeStart style hTag hNone).append hChildren).append
    (leavesAlone_writeEnd hTag)

/-- What is written for a candidate: a tag that is no candidate any more, and in it only what can be
left alone. -/
theorem transform_leaves {lexeme : Lexeme} {position : Nat} {tag : Tag}
    (hTag : lexeme.startTag? 0 position = some tag) (hCandidate : converter.isCandidate tag = true)
    (hAccepted : converter.refusal? tag = none)
    (hNames : tag.HasPlainNames) (imports : Imports) :
    ∃ left children, (converter.transform ⟨tag, []⟩ imports).left = ⟨left, children⟩ ∧
      left.IsLegible ∧ converter.isCandidate left = false ∧
      converter.LeavesAlone (writeAll style children).toList := by
  obtain ⟨plan, hPlan⟩ := refusal?_eq_none_iff.mp hAccepted hCandidate
  obtain ⟨hBegins, -⟩ := Lexeme.beginsAt_of_startTag? hTag
  have hVoid := candidate_isVoid hCandidate
  have hClosing : tag.closing ≠ .endTag := fun hEnd => by simp [hBegins.not_void hEnd] at hVoid
  have hImage := convert_isLegible hCandidate hPlan hBegins.targets_eq hClosing
    (hBegins.isLegible_attrs hNames) imports
  have hDone := isCandidate_convert tag imports (plan?_directive_name hPlan)
  rw [transform_of_plan hCandidate hPlan]
  split
  · have hPicture : (skeleton (converter.convert plan tag imports).1).tag.IsLegible :=
      ⟨rfl, (by decide : isTagName "picture" = true), List.forall_mem_nil _,
        fun _ => (by decide : isVoidName "picture" = false), fun hVoid => by cases hVoid⟩
    have hNamed : (skeleton (converter.convert plan tag imports).1).tag.isNamed "picture" = true :=
      Text.equalIgnoringCase_refl "picture"
    refine ⟨_, _, rfl, hPicture, not_isCandidate_of_isNamed hNamed (by decide),
      leavesAlone_writeAll style (List.forall_mem_append.mpr ⟨fun node hNode => ?_, ?_⟩)⟩
    · obtain ⟨source, hSource, rfl⟩ := List.mem_map.mp hNode
      have hCopied (name : String) :
          ∀ attr ∈ (converter.convert plan tag imports).1.attr? name, attr.IsLegible :=
        fun attr hAttr => hImage.attrs attr (List.mem_of_find?_eq_some hAttr)
      have hLegible := Pending.forall_mem_sourcesFrom
        (Pending.source_isLegible (hCopied "media") (hCopied "sizes")) source hSource
      exact leavesAlone_element style hLegible
        (not_isCandidate_of_isNamed (Pending.isNamed_of_mem_sourcesFrom hSource) (by decide))
        leavesAlone_nil
    · exact List.forall_mem_singleton.mpr (leavesAlone_element style hImage hDone leavesAlone_nil)
  · exact ⟨_, _, rfl, hImage, hDone, leavesAlone_nil⟩

/-- A candidate with this tag is accepted, and the names of its attributes are plain. -/
def TakesPlain (converter : Converter) (tag : Tag) : Prop :=
  converter.isCandidate tag = true → converter.refusal? tag = none ∧ tag.HasPlainNames

/-- What is written for a start tag: its own text, or another tag in which nothing is left to do. -/
theorem leavesAlone_startTag {lexeme : Lexeme} {position : Nat} {tag : Tag}
    (hAlone : scanAll lexeme.source = ([lexeme], none))
    (hTag : lexeme.startTag? 0 position = some tag) (hTakes : converter.TakesPlain tag)
    (imports : Imports) :
    let text := ((converter.transform ⟨tag, []⟩ imports).left.toNode.write style).toList
    converter.LeavesAlone text ∧ (text = lexeme.source ∨ text.head? = some '<') := by
  intro text
  cases hCandidate : converter.isCandidate tag with
  | false =>
      have hText : text = lexeme.source := by
        rw [← toList_write_startTag style hTag]
        simp only [text, transform_of_not_candidate ⟨tag, []⟩ imports hCandidate]
      refine ⟨hText ▸ leavesAlone_lexeme lexeme position hAlone
        (Lexeme.isReadable_of_startTag? hTag) fun other hOther => ?_, Or.inl hText⟩
      rw [← Option.some.inj (hTag.symm.trans hOther)]
      exact hCandidate
  | true =>
      obtain ⟨hAccepted, hNames⟩ := hTakes hCandidate
      obtain ⟨left, children, hLeft, hLegible, hDone, hChildren⟩ :=
        transform_leaves style hTag hCandidate hAccepted hNames imports
      have hText : text = ((Node.element left children).write style).toList := by
        simp only [text, hLeft, Element.toNode]
      rw [hText]
      exact ⟨leavesAlone_element style hLegible hDone hChildren,
        Or.inr (Tag.head?_write hLegible style children)⟩

section

variable {lexemes : List Lexeme} {position : Nat}
  (hAlone : ∀ lexeme ∈ lexemes, scanAll lexeme.source = ([lexeme], none))
  (hTags : ∀ tag ∈ startTags 0 position lexemes, converter.TakesPlain tag)
include hAlone hTags

theorem leavesAlone_rewriteAll (hReadable : ∀ lexeme ∈ lexemes, lexeme.token.isReadable = true)
    (imports : Imports) :
    converter.LeavesAlone (converter.rewriteAll style position imports lexemes) := by
  induction lexemes generalizing position imports with
  | nil => exact leavesAlone_nil
  | cons lexeme lexemes ih =>
      obtain ⟨hFirst, hRest⟩ := List.forall_mem_cons.mp hAlone
      obtain ⟨hRead, hReadRest⟩ := List.forall_mem_cons.mp hReadable
      obtain ⟨hTag, hTagsRest⟩ := List.forall_mem_append.mp hTags
      rw [rewriteAll]
      dsimp only
      split
      · rename_i hNone
        refine (leavesAlone_lexeme lexeme position hFirst hRead fun tag hSome => ?_).append
          (ih hRest hTagsRest hReadRest imports)
        rw [hNone] at hSome
        cases hSome
      · rename_i tag hSome
        have hText := leavesAlone_startTag style hFirst hSome (hTag tag (by simp [hSome])) imports
        exact hText.1.append (ih hRest hTagsRest hReadRest _)

/-- The text begins with its own first character, or with a tag. -/
theorem head?_rewriteAll (hSome : ∀ lexeme ∈ lexemes, lexeme.source ≠ []) (imports : Imports) :
    (converter.rewriteAll style position imports lexemes).head? =
        (lexemes.flatMap Lexeme.source).head? ∨
      (converter.rewriteAll style position imports lexemes).head? = some '<' := by
  cases lexemes with
  | nil => exact Or.inl rfl
  | cons lexeme lexemes =>
      obtain ⟨hFirst, -⟩ := List.forall_mem_cons.mp hAlone
      obtain ⟨hTag, -⟩ := List.forall_mem_append.mp hTags
      obtain ⟨c, cs, hSource⟩ :=
        List.exists_cons_of_ne_nil (hSome lexeme List.mem_cons_self)
      rw [rewriteAll]
      dsimp only
      split
      · exact Or.inl (by simp [hSource])
      · rename_i tag hRead
        rcases (leavesAlone_startTag style hFirst hRead (hTag tag (by simp [hRead])) imports).2 with
          hSame | hBracket
        · exact Or.inl (by simp [hSame, hSource])
        · exact Or.inr (by rw [List.head?_append, hBracket]; rfl)

end

end

/-- A text without candidates compiles to itself. -/
theorem compile_of_leavesAlone (style : ImportStyle) {source : String}
    (hMark : ¬ BeginsWithMark source) (h : converter.LeavesAlone source.toList) :
    Template.compile converter style source =
      ⟨.ok ⟨source, Imports.empty, style, .zero⟩, []⟩ := by
  obtain ⟨nodes, hParse⟩ := (Markup.parse_ok_iff_readable hMark).mpr h.1
  have hNone : ∀ element ∈ elementsAll nodes, converter.isCandidate element.tag = false := by
    have hCandidates := @candidates_parse converter source nodes hMark hParse
    rw [h.2, List.map_nil, candidates, List.filter_eq_nil_iff] at hCandidates
    simpa using hCandidates
  obtain ⟨lost, hSource, hLost⟩ := Markup.writeAll_lost style hParse
  rw [Markup.behindMark_of_not_beginsWithMark hMark, Text.byteLength_eq_zero,
    String.toList_eq_nil_iff] at hLost
  rw [hLost, String.append_empty] at hSource
  simp [Template.compile, hParse, visitAll_of_no_candidates Imports.empty nodes hNone,
    Visit.nothing, ← hSource, Summary.total, Summary.zero]

theorem takesPlain_startTags {source : String} {nodes : List Node}
    (hMark : ¬ BeginsWithMark source) (hParse : parse source = .ok nodes)
    (hNone : converter.textFailure? source.toList = none)
    (hNames : ∀ candidate ∈ converter.candidates nodes, candidate.tag.HasPlainNames) :
    ∀ tag ∈ startTags 0 0 (scanAll source.toList).1, converter.TakesPlain tag := by
  intro tag hTag hCandidate
  have hMem : Element.mk tag [] ∈ (converter.candidateTags source.toList).map (Element.mk · []) :=
    List.mem_map_of_mem (List.mem_filter.mpr ⟨hTag, hCandidate⟩)
  rw [textFailure?, firstFailure?, List.findSome?_eq_none_iff] at hNone
  have hFailure := hNone _ hMem
  rw [failure?, Option.map_eq_none_iff] at hFailure
  rw [← candidates_parse hMark hParse] at hMem
  exact ⟨hFailure, hNames _ hMem⟩

end Converter

namespace Template

/-- The markup of a compiled template compiles to itself, with nothing imported, counted or reported,
unless something in the name of an attribute of a candidate ends a tag or begins a value. It does not
matter what else stands in the template, or which characters there are in the values. -/
theorem compile_idempotent (converter : Converter) (style : ImportStyle) (source : String)
    (compiled : Compiled) (hMark : ¬ BeginsWithMark source)
    (hNames : ∀ nodes, parse source = .ok nodes →
      ∀ candidate ∈ converter.candidates nodes, candidate.tag.HasPlainNames)
    (h : (compile converter style source).value = .ok compiled) :
    compile converter style compiled.markup =
      ⟨.ok ⟨compiled.markup, Imports.empty, style, .zero⟩, []⟩ := by
  obtain ⟨hReadable, hNone⟩ := (Converter.compile_isOk_iff hMark).mp ⟨compiled, h⟩
  obtain ⟨nodes, hParse⟩ := (Markup.parse_ok_iff_readable hMark).mpr hReadable
  have hTags := Converter.takesPlain_startTags hMark hParse hNone (hNames nodes hParse)
  have hScanned := scanAll_alone source.toList
  have hAlone := Converter.leavesAlone_rewriteAll style hScanned hTags hReadable.2 Imports.empty
  have hHead := Converter.head?_rewriteAll style hScanned hTags
    (Lexeme.scanAll_ne_nil source.toList) Imports.empty
  rw [hReadable.source_eq] at hHead
  rw [← Converter.toList_markup hMark h] at hAlone hHead
  refine Converter.compile_of_leavesAlone style (fun hBegins => ?_) hAlone
  rw [BeginsWithMark] at hMark hBegins
  rw [hBegins] at hHead
  rcases hHead with hSame | hBracket
  · exact hMark hSame.symm
  · exact absurd hBracket (by decide)

/-- Names that are only marks, bindings of both spellings, values in which tags end and references
begin, an attribute that the sources copy, and elements that are never closed. -/
theorem compile_idempotent_marks :
    let converter := Converter.ofConfig Config.empty
    let source := "a &amp; b<p><IMG =x='&lt;>\"' / src=a.png v-bind:title='f(\"&gt;\")' " ++
      "modernize :sizes=\"s > 1\" v-bind:=y></b>c"
    ∃ compiled, ¬ BeginsWithMark source ∧
      (∀ nodes, parse source = .ok nodes →
        ∀ candidate ∈ converter.candidates nodes, candidate.tag.HasPlainNames) ∧
      (compile converter .hoisted source).value = .ok compiled ∧ compiled.imports.size = 3 ∧
      compile converter .hoisted compiled.markup =
        ⟨.ok ⟨compiled.markup, Imports.empty, .hoisted, .zero⟩, []⟩ := by
  intro converter source
  have hMark : ¬ BeginsWithMark source := by decide +kernel
  have hPlain : (parse source).toOption.all (fun nodes =>
      (converter.candidates nodes).all (decide ·.tag.HasPlainNames)) = true := by
    decide +kernel
  have hNames : ∀ nodes, parse source = .ok nodes →
      ∀ candidate ∈ converter.candidates nodes, candidate.tag.HasPlainNames := by
    intro nodes hParse
    simpa only [hParse, Except.toOption, Option.all_some, List.all_eq_true, decide_eq_true_eq]
      using hPlain
  obtain ⟨compiled, hCompiled, hSize⟩ := map_toOption_eq_some_iff.mp (by decide +kernel :
    (compile converter .hoisted source).value.toOption.map (·.imports.size) = some 3)
  exact ⟨compiled, hMark, hNames, hCompiled, hSize,
    compile_idempotent converter .hoisted source compiled hMark hNames hCompiled⟩

end Template

end ResponsiveImages
