import ResponsiveImages.Proofs.Conversion.Likeness
import ResponsiveImages.Proofs.Markup.Rescanning

/-! Templates that stand one behind the other. However the elements of the one nest in those of the
other, both together compile to what each of them compiles to. Character data may be one run across
the seam, positions in the second template are counted from the start of the first one, and modules
that both of them import are imported once. -/
namespace ResponsiveImages

open Markup (BeginsWithMark Element Lexeme Readable Tag startTags)
open Markup.Lexeme (Joins scanAll scanAll_joins)
open Text (byteLength)

namespace Markup

theorem startTags_append (markLength position : Nat) (left right : List Lexeme) :
    startTags markLength position (left ++ right) =
      startTags markLength position left ++
        startTags markLength (position + byteLength (left.flatMap Lexeme.source)) right := by
  induction left generalizing position with
  | nil => simp [startTags]
  | cons lexeme left ih => simp [startTags, ih, Nat.add_assoc]

theorem Lexeme.Joins.startTags {left right joined : List Lexeme} (h : Joins left right joined)
    (markLength position : Nat) :
    Markup.startTags markLength position joined =
      Markup.startTags markLength position left ++
        Markup.startTags markLength (position + byteLength (left.flatMap Lexeme.source)) right := by
  cases h with
  | apart => exact startTags_append _ _ _ _
  | run early late first second =>
      simp [startTags_append, Markup.startTags, Lexeme.startTag?, Token.opens, Nat.add_assoc]

theorem Lexeme.Joins.isReadable {left right joined : List Lexeme} (h : Joins left right joined) :
    (∀ lexeme ∈ joined, lexeme.token.isReadable = true) ↔
      (∀ lexeme ∈ left, lexeme.token.isReadable = true) ∧
        ∀ lexeme ∈ right, lexeme.token.isReadable = true := by
  cases h with
  | apart => exact List.forall_mem_append
  | run early late first second =>
      have hText : Token.text.isReadable = true := rfl
      simp only [List.forall_mem_append, List.forall_mem_cons, List.not_mem_nil, IsEmpty.forall_iff,
        implies_true, hText, true_and, and_true]

/-- Behind a text that can be read only the next one decides. -/
theorem Readable.append_iff {cs : List Char} (h : Readable cs) (other : List Char) :
    Readable (cs ++ other) ↔ Readable other := by
  obtain ⟨hFault, hJoins⟩ := scanAll_joins other h.1
  rw [Readable, Readable, hFault, hJoins.isReadable, and_iff_right h.2]

theorem not_beginsWithMark_append {first second : String} (hFirst : ¬ BeginsWithMark first)
    (hSecond : ¬ BeginsWithMark second) : ¬ BeginsWithMark (first ++ second) := by
  unfold BeginsWithMark at *
  rw [String.toList_append]
  cases hChars : first.toList with
  | nil => simpa using hSecond
  | cons c cs => simpa [hChars] using hFirst

end Markup

/-- The error at a later place in the text. -/
def WalkError.moved (distance : Nat) : WalkError → WalkError
  | located name position cause => located name (position + distance) cause
  | bare cause => bare cause

namespace Converter

variable {converter : Converter}

/-- With imports as calls, lexemes are written alike wherever they stand. -/
theorem rewriteAll_require (position place : Nat) (imports others : Imports)
    (lexemes : List Lexeme) :
    converter.rewriteAll .require position imports lexemes =
      converter.rewriteAll .require place others lexemes := by
  induction lexemes generalizing position place imports others with
  | nil => rfl
  | cons lexeme lexemes ih =>
      cases hTag : lexeme.startTag? 0 0 with
      | none =>
          have hNone (distance : Nat) : lexeme.startTag? 0 distance = none := by
            rw [Lexeme.startTag?_eq_moved, hTag, Option.map_none]
          simp only [rewriteAll, hNone]
          rw [ih _ (place + byteLength lexeme.source) _ others]
      | some tag =>
          have hSome (distance : Nat) : lexeme.startTag? 0 distance = some (tag.moved distance) := by
            rw [Lexeme.startTag?_eq_moved, hTag, Option.map_some]
          simp only [rewriteAll, hSome]
          rw [write_transform_startTag (hSome position) (hSome place) imports others,
            ih _ (place + byteLength lexeme.source) _
              (converter.transform ⟨tag.moved place, []⟩ others).imports]

theorem rewriteAll_append (position place : Nat) (imports others : Imports)
    (left right : List Lexeme) :
    converter.rewriteAll .require position imports (left ++ right) =
      converter.rewriteAll .require position imports left ++
        converter.rewriteAll .require place others right := by
  induction left generalizing position imports with
  | nil => exact rewriteAll_require position place imports others right
  | cons lexeme left ih =>
      rw [List.cons_append, rewriteAll, rewriteAll]
      dsimp only
      cases lexeme.startTag? 0 position <;> simp [ih]

/-- Lexemes of two texts are written as those of each of them are. -/
theorem rewriteAll_joins {left right joined : List Lexeme} (h : Joins left right joined)
    (position : Nat) (imports : Imports) :
    converter.rewriteAll .require position imports joined =
      converter.rewriteAll .require position imports left ++
        converter.rewriteAll .require position imports right := by
  cases h with
  | apart => exact rewriteAll_append _ _ _ _ _ _
  | run early late first second =>
      have hText (cs : List Char) (lexemes : List Lexeme) :
          converter.rewriteAll .require position imports (⟨.text, cs⟩ :: lexemes) =
            cs ++ converter.rewriteAll .require position imports lexemes :=
        congrArg (cs ++ ·) (rewriteAll_require _ _ _ _ _)
      rw [rewriteAll_append _ position _ imports early, hText,
        rewriteAll_append _ position _ imports early, hText, hText]
      simp [rewriteAll]

theorem isCandidate_moved (distance : Nat) (tag : Tag) :
    converter.isCandidate (tag.moved distance) = converter.isCandidate tag :=
  (decisions_of_bare (tag.bare_moved distance)).1

theorem failure?_moved (distance : Nat) (tag : Tag) :
    converter.failure? ⟨tag.moved distance, []⟩ =
      (converter.failure? ⟨tag, []⟩).map (·.moved distance) := by
  have hRefusal : converter.refusal? (tag.moved distance) = converter.refusal? tag :=
    (decisions_of_bare (tag.bare_moved distance)).2.1
  rw [failure?, failure?, hRefusal, Option.map_map]
  congr 1
  funext cause
  cases hSpan : tag.span <;>
    simp [WalkError.ofTag, Tag.moved, hSpan, Markup.Span.moved, WalkError.moved]

/-- The candidates of two texts, those of the second one behind the first. -/
theorem candidateTags_append {cs : List Char} (h : Readable cs) (other : List Char) :
    converter.candidateTags (cs ++ other) =
      converter.candidateTags cs ++
        (converter.candidateTags other).map (·.moved (byteLength cs)) := by
  obtain ⟨-, hJoins⟩ := scanAll_joins other h.1
  rw [candidateTags, hJoins.startTags, h.source_eq, Markup.startTags_add, List.filter_append,
    List.filter_map]
  simp [candidateTags, Function.comp_def, isCandidate_moved]

theorem firstFailure?_moved (distance : Nat) (tags : List Tag) :
    converter.firstFailure? ((tags.map (·.moved distance)).map (Element.mk · [])) =
      (converter.firstFailure? (tags.map (Element.mk · []))).map (·.moved distance) := by
  induction tags with
  | nil => rfl
  | cons tag tags ih =>
      simp only [firstFailure?, List.map_cons, List.findSome?_cons, failure?_moved] at ih ⊢
      cases converter.failure? ⟨tag, []⟩ with
      | none => exact ih
      | some error => rfl

theorem textFailure?_append {cs : List Char} (h : Readable cs) (other : List Char)
    (hNone : converter.textFailure? cs = none) :
    converter.textFailure? (cs ++ other) =
      (converter.textFailure? other).map (·.moved (byteLength cs)) := by
  have hFirst : converter.firstFailure? ((converter.candidateTags cs).map (Element.mk · [])) = none :=
    hNone
  rw [textFailure?, candidateTags_append h, List.map_append, firstFailure?, List.findSome?_append,
    ← firstFailure?, hFirst, Option.none_or, ← firstFailure?, firstFailure?_moved, textFailure?]

theorem requests_moved (distance : Nat) (tags : List Tag) :
    (tags.map (·.moved distance)).flatMap converter.requests = tags.flatMap converter.requests := by
  have hRequests (tag : Tag) : converter.requests (tag.moved distance) = converter.requests tag :=
    (decisions_of_bare (tag.bare_moved distance)).2.2.1
  simp [List.flatMap_map, hRequests]

theorem summarize_moved (distance : Nat) (tags : List Tag) :
    converter.summarize (tags.map (·.moved distance)) = converter.summarize tags := by
  have hOutcome (tag : Tag) : converter.outcome (tag.moved distance) = converter.outcome tag :=
    (decisions_of_bare (tag.bare_moved distance)).2.2.2
  simp [summarize, List.foldr_map, hOutcome]

end Converter

namespace Template

/-- With imports as calls, a template that compiles can be continued by any other one without a byte
order mark. If the other one compiles, so do both together, to the markup, the summary and the imports
of both. If an element of the other one is refused, both together are refused for the same element,
which now stands behind the first template. Neither has to close what it opens. -/
theorem compile_append (converter : Converter) (first second : String) (left : Compiled)
    (hFirst : ¬ BeginsWithMark first) (hSecond : ¬ BeginsWithMark second)
    (hLeft : (compile converter .require first).value = .ok left) :
    (∀ right, (compile converter .require second).value = .ok right →
      (compile converter .require (first ++ second)).value =
        .ok ⟨left.markup ++ right.markup, ⟨(left.imports.paths ++ right.imports.paths).eraseDups⟩,
          .require, left.summary.add right.summary⟩) ∧
    ∀ name position cause,
      (compile converter .require second).value =
          .error (.element (.located name position cause)) →
        (compile converter .require (first ++ second)).value =
          .error (.element (.located name (position + byteLength first.toList) cause)) := by
  have hBoth := Markup.not_beginsWithMark_append hFirst hSecond
  obtain ⟨hReadable, hNone⟩ := (Converter.compile_isOk_iff hFirst).mp ⟨left, hLeft⟩
  have hAgain := hReadable.append_iff second.toList
  have hFailure := Converter.textFailure?_append hReadable second.toList hNone
  have hCandidates := @Converter.candidateTags_append converter _ hReadable second.toList
  rw [← String.toList_append] at hAgain hFailure hCandidates
  constructor
  · intro right hRight
    obtain ⟨hMore, hNoMore⟩ := (Converter.compile_isOk_iff hSecond).mp ⟨right, hRight⟩
    obtain ⟨both, hOk⟩ := (@Converter.compile_isOk_iff converter .require _ hBoth).mpr
      ⟨hAgain.mpr hMore, by rw [hFailure, hNoMore, Option.map_none]⟩
    have hMarkup : both.markup = left.markup ++ right.markup := by
      have hJoins := (scanAll_joins second.toList hReadable.1).2
      rw [← String.toList_inj, String.toList_append, Converter.toList_markup hBoth hOk,
        String.toList_append, Converter.rewriteAll_joins hJoins,
        Converter.toList_markup hFirst hLeft, Converter.toList_markup hSecond hRight]
    have hPaths : both.imports.paths = (left.imports.paths ++ right.imports.paths).eraseDups := by
      rw [Converter.compiled_paths hBoth hOk, hCandidates, List.flatMap_append,
        Converter.requests_moved, Converter.compiled_paths hFirst hLeft,
        Converter.compiled_paths hSecond hRight, Imports.eraseDups_append_eraseDups,
        Imports.eraseDups_eraseDups_append]
    have hSummary : both.summary = left.summary.add right.summary := by
      rw [Converter.compiled_summary hBoth hOk, hCandidates, Converter.summarize_append,
        Converter.summarize_moved, Converter.compiled_summary hFirst hLeft,
        Converter.compiled_summary hSecond hRight]
    obtain ⟨-, -, -, -, -, hStyle⟩ := compile_eq_ok hOk
    rw [hOk, ← hMarkup, ← hPaths, ← hSummary, ← hStyle]
  · intro name position cause hRight
    obtain ⟨hMore, hError⟩ := (Converter.compile_element_iff hSecond _).mp hRight
    rw [Converter.compile_element_iff hBoth, hFailure, hError]
    exact ⟨hAgain.mpr hMore, rfl⟩

/-- The second template closes elements of the first one, goes on with its last word and asks again
for its image. The third one is refused. -/
theorem compile_append_list :
    let converter := Converter.ofConfig Config.empty
    let first := "<ul><li><img modernize src='a.png'>té"
    let second := "a</li><img src='b.png' modernize='onlyUseImg'><img modernize src='a.png'></ul></p>"
    let third := "s</li><IMG modernize :src=x>"
    ∃ left right, ¬ BeginsWithMark first ∧ ¬ BeginsWithMark second ∧ ¬ BeginsWithMark third ∧
      (compile converter .require first).value = .ok left ∧
      (compile converter .require second).value = .ok right ∧
      left.imports.size = 3 ∧ right.imports.size = 5 ∧
      (compile converter .require (first ++ second)).value =
        .ok ⟨left.markup ++ right.markup, ⟨(left.imports.paths ++ right.imports.paths).eraseDups⟩,
          .require, left.summary.add right.summary⟩ ∧
      (compile converter .require third).value =
        .error (.element (.located "IMG" 6 (.unresolvedSource "x"))) ∧
      (compile converter .require (first ++ third)).value =
        .error (.element (.located "IMG" (6 + byteLength first.toList) (.unresolvedSource "x"))) := by
  intro converter first second third
  have hFirst : ¬ BeginsWithMark first := by decide
  have hSecond : ¬ BeginsWithMark second := by decide
  have hThird : ¬ BeginsWithMark third := by decide
  obtain ⟨left, hLeft, hThree⟩ := map_toOption_eq_some_iff.mp (by decide +kernel :
    (compile converter .require first).value.toOption.map (·.imports.size) = some 3)
  obtain ⟨right, hRight, hFive⟩ := map_toOption_eq_some_iff.mp (by decide +kernel :
    (compile converter .require second).value.toOption.map (·.imports.size) = some 5)
  have hRefused : (compile converter .require third).value =
      .error (.element (.located "IMG" 6 (.unresolvedSource "x"))) :=
    error?_eq_some_iff.mp (by decide +kernel)
  obtain ⟨hBoth, -⟩ := compile_append converter first second left hFirst hSecond hLeft
  obtain ⟨-, hMoved⟩ := compile_append converter first third left hFirst hThird hLeft
  exact ⟨left, right, hFirst, hSecond, hThird, hLeft, hRight, hThree, hFive, hBoth right hRight,
    hRefused, hMoved _ _ _ hRefused⟩

end Template

end ResponsiveImages
