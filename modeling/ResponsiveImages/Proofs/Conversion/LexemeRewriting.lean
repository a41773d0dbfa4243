import ResponsiveImages.Proofs.Conversion.Failures
import ResponsiveImages.Proofs.Conversion.Outcomes

/-! Compilation without a tree. A template that compiles is written lexeme by lexeme, in one pass
over its text: a start tag is converted at once, with the imports that the tags in front of it left,
and every other lexeme is copied. The tree decides nothing but where the nodes stand. -/
namespace ResponsiveImages

open Markup (Element ImportStyle Lexeme Tag elementsAll parse startTags)
open Text (byteLength)

namespace Markup.Splices

/-- The edits leave only one text. -/
theorem unique {position : Nat} {cs first second : List Char} {edits : List (Span × String)}
    (hFirst : Splices position cs edits first) (hSecond : Splices position cs edits second) :
    first = second := by
  rw [← Option.some.injEq, ← hFirst.spliceFrom_eq, hSecond.spliceFrom_eq]

end Markup.Splices

namespace Converter

variable {converter : Converter}

/-- What is written for lexemes that stand one behind the other, the first one at the position. -/
def rewriteAll (converter : Converter) (style : ImportStyle) (position : Nat) (imports : Imports) :
    List Lexeme → List Char
  | [] => []
  | lexeme :: lexemes =>
    let behind := position + byteLength lexeme.source
    match lexeme.startTag? 0 position with
    | none => lexeme.source ++ converter.rewriteAll style behind imports lexemes
    | some tag =>
      let run := converter.transform ⟨tag, []⟩ imports
      (run.left.toNode.write style).toList ++
        converter.rewriteAll style behind run.imports lexemes

/-- A start tag that was read is written as it was read. -/
theorem toList_write_startTag (style : ImportStyle) {lexeme : Lexeme} {markLength position : Nat}
    {tag : Tag} (h : lexeme.startTag? markLength position = some tag) :
    ((Element.mk tag []).toNode.write style).toList = lexeme.source := by
  obtain ⟨hBegins, hStart⟩ := Lexeme.beginsAt_of_startTag? h
  obtain ⟨raw, hRaw, -⟩ := hBegins.raw_span
  rw [Tag.startSource, hRaw] at hStart
  simpa [Element.toNode, Markup.Node.write, Markup.writeAll, Tag.writeStart, Tag.writeEnd, hRaw]
    using hStart

theorem splices_rewriteAll (style : ImportStyle) (position : Nat) (imports : Imports)
    (lexemes : List Lexeme) :
    Markup.Splices position (lexemes.flatMap Lexeme.source)
      (converter.edits style imports
        (((startTags 0 position lexemes).filter converter.isCandidate).map (Element.mk · [])))
      (converter.rewriteAll style position imports lexemes) := by
  induction lexemes generalizing position imports with
  | nil => exact .rest position []
  | cons lexeme lexemes ih =>
      rw [List.flatMap_cons, startTags, rewriteAll]
      cases hTag : lexeme.startTag? 0 position with
      | none => exact (ih _ imports).prepend lexeme.source
      | some tag =>
          have hWrite := toList_write_startTag style hTag
          cases hCandidate : converter.isCandidate tag with
          | false =>
              simp only [transform_of_not_candidate ⟨tag, []⟩ imports hCandidate, hWrite,
                Option.toList_some, List.singleton_append, List.filter_cons, hCandidate,
                Bool.false_eq_true, reduceIte]
              exact (ih _ imports).prepend lexeme.source
          | true =>
              obtain ⟨hBegins, hStart⟩ := Lexeme.beginsAt_of_startTag? hTag
              obtain ⟨raw, hRaw, hSpan⟩ := hBegins.raw_span
              rw [Tag.startSource, hRaw] at hStart
              have hStart : raw.toList = lexeme.source := hStart
              rw [hStart] at hSpan
              simp only [Option.toList_some, List.singleton_append, List.filter_cons, hCandidate,
                reduceIte, List.map_cons, edits, hSpan]
              have hText : lexeme.source ++ lexemes.flatMap Lexeme.source =
                  [] ++ lexeme.source ++ lexemes.flatMap Lexeme.source := rfl
              have hRest := ih (position + byteLength lexeme.source)
                (converter.transform ⟨tag, []⟩ imports).imports
              exact .edit hText rfl rfl hRest (by rw [List.nil_append])

/-- The markup of a compiled template. -/
theorem toList_markup {style : ImportStyle} {source : String} {compiled : Template.Compiled}
    (hMark : ¬ Markup.BeginsWithMark source)
    (h : (Template.compile converter style source).value = .ok compiled) :
    compiled.markup.toList =
      converter.rewriteAll style 0 Imports.empty (Lexeme.scanAll source.toList).1 := by
  obtain ⟨nodes, hParse, hResult, hMarkup, -, -⟩ := Template.compile_eq_ok h
  have hWalk := visitAll_refines_walkAll converter Imports.empty nodes
  obtain ⟨encounters, hEncounters, -⟩ := hWalk.counted hResult
  obtain ⟨cut, lost, hSource, hLost, hSome, hStands⟩ := Markup.parse_stands hParse
  rw [Markup.behindMark_of_not_beginsWithMark hMark] at hLost hStands
  rw [Text.byteLength_eq_zero.mp hLost, List.append_nil] at hSource
  have hRewrites := nodes_rewrite style hSome 0 Imports.empty nodes hStands encounters hEncounters
  rw [← hSource, ← hWalk.left, ← hMarkup] at hRewrites
  have hSplices := hRewrites.splices
  have hReadable := (Markup.parse_ok_iff_readable hMark).mp ⟨nodes, hParse⟩
  rw [candidates_parse hMark hParse, candidateTags] at hSplices
  have hLinear := @splices_rewriteAll converter style 0 Imports.empty
    (Lexeme.scanAll source.toList).1
  rw [hReadable.source_eq] at hLinear
  exact hSplices.unique hLinear

/-- The error of the first candidate among the start tags of a text that is refused. -/
def textFailure? (converter : Converter) (cs : List Char) : Option WalkError :=
  converter.firstFailure? ((converter.candidateTags cs).map (Element.mk · []))

variable {style : ImportStyle} {source : String} (hMark : ¬ Markup.BeginsWithMark source)
include hMark

theorem firstFailure?_parse {nodes : List Markup.Node} (h : parse source = .ok nodes) :
    converter.firstFailure? (converter.metAll nodes) = converter.textFailure? source.toList := by
  rw [textFailure?, ← candidates_parse hMark h, metAll_parse h,
    ← firstFailure?_filter_isCandidate, candidates]

/-- A template compiles if it can be read and no candidate in its text is refused. -/
theorem compile_isOk_iff :
    (∃ compiled, (Template.compile converter style source).value = .ok compiled) ↔
      Markup.Readable source.toList ∧ converter.textFailure? source.toList = none := by
  rw [← Markup.parse_ok_iff_readable hMark]
  constructor
  · rintro ⟨compiled, hCompiled⟩
    obtain ⟨nodes, hParse, hResult, -⟩ := Template.compile_eq_ok hCompiled
    refine ⟨⟨nodes, hParse⟩, ?_⟩
    rw [← firstFailure?_parse hMark hParse, Option.eq_none_iff_forall_ne_some]
    intro error hError
    rw [(visitAll_error_iff Imports.empty nodes error).mpr hError] at hResult
    cases hResult
  · rintro ⟨⟨nodes, hParse⟩, hNone⟩
    refine (Template.compile_ok_iff hParse).mpr ?_
    cases hResult : (converter.visitAll Imports.empty nodes).result with
    | ok summary => exact ⟨summary, rfl⟩
    | error error =>
        rw [visitAll_error_iff, firstFailure?_parse hMark hParse, hNone] at hResult
        cases hResult

theorem compile_element_iff (error : WalkError) :
    (Template.compile converter style source).value = .error (.element error) ↔
      Markup.Readable source.toList ∧ converter.textFailure? source.toList = some error := by
  rw [← Markup.parse_ok_iff_readable hMark]
  cases hParse : parse source with
  | error fault => simp [Template.compile, hParse]
  | ok nodes =>
      rw [Template.compile_error_iff hParse]
      simp [visitAll_error_iff, firstFailure?_parse hMark hParse]

variable {compiled : Template.Compiled}
  (h : (Template.compile converter style source).value = .ok compiled)
include h

theorem compiled_paths :
    compiled.imports.paths =
      ((converter.candidateTags source.toList).flatMap converter.requests).eraseDups := by
  obtain ⟨nodes, hParse, hResult, -, hImports, -⟩ := Template.compile_eq_ok h
  have hCandidates := @candidates_parse converter source nodes hMark hParse
  rw [candidates] at hCandidates
  rw [hImports, visitAll_imports_eq hResult, Imports.paths_requestAll_empty, metAll_parse hParse,
    requestsAll, hCandidates, List.flatMap_map]

theorem compiled_summary :
    compiled.summary = converter.summarize (converter.candidateTags source.toList) := by
  obtain ⟨nodes, hParse, hResult, -⟩ := Template.compile_eq_ok h
  have hCandidates := @candidates_parse converter source nodes hMark hParse
  have hTags : ((elementsAll nodes).map Element.tag).filter converter.isCandidate =
      converter.candidateTags source.toList := by
    rw [List.filter_map]
    exact (congrArg (List.map Element.tag) hCandidates).trans (by simp [Function.comp_def])
  rw [visitAll_summary hResult, metAll_parse hParse, ← hTags, summarize_filter]

end Converter

end ResponsiveImages
