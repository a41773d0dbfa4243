import ResponsiveImages.Markup.Node
import ResponsiveImages.Text.Utf8

/-! Texts in which some spans are replaced. Spans are ranges of bytes, so a text has a slice for a
span only if the span begins and ends between two characters. -/
namespace ResponsiveImages.Markup

open Text (byteLength splitBytes splitBytes_append)

/-- The part of a text that a span covers. -/
def slice (span : Span) (cs : List Char) : Option (List Char) := do
  let (_, behind) ← splitBytes span.start cs
  let (text, _) ← splitBytes (span.stop - span.start) behind
  return text

/-- A text that begins at the position, with another text in place of each of the spans. -/
def spliceFrom (position : Nat) (cs : List Char) : List (Span × String) → Option (List Char)
  | [] => some cs
  | (span, text) :: edits => do
    let (before, behind) ← splitBytes (span.start - position) cs
    let (_, behind) ← splitBytes (span.stop - span.start) behind
    let after ← spliceFrom span.stop behind edits
    return before ++ text.toList ++ after

/-- A text with another text in place of each of the spans. -/
def splice (cs : List Char) (edits : List (Span × String)) : Option (List Char) :=
  spliceFrom 0 cs edits

theorem slice_append (before text after : List Char) :
    slice ⟨byteLength before, byteLength before + byteLength text⟩ (before ++ text ++ after) =
      some text := by
  simp [slice, List.append_assoc, splitBytes_append]

/-- The edits turn a text that begins at the position into another one. Their spans stand in it one
behind the other. -/
inductive Splices : Nat → List Char → List (Span × String) → List Char → Prop
  | rest (position : Nat) (cs : List Char) : Splices position cs [] cs
  | edit {position : Nat} {cs before old behind after written : List Char} {span : Span}
      {text : String} {edits : List (Span × String)}
      (hText : cs = before ++ old ++ behind)
      (hStart : span.start = position + byteLength before)
      (hStop : span.stop = span.start + byteLength old)
      (hBehind : Splices span.stop behind edits after)
      (hWritten : written = before ++ text.toList ++ after) :
      Splices position cs ((span, text) :: edits) written

namespace Splices

/-- More text in front of the first span is left alone. -/
theorem prepend {position : Nat} (left : List Char) {cs written : List Char}
    {edits : List (Span × String)}
    (h : Splices (position + byteLength left) cs edits written) :
    Splices position (left ++ cs) edits (left ++ written) := by
  cases h with
  | rest => exact .rest position (left ++ cs)
  | @edit _ _ before old behind _ _ _ _ _ hText hStart hStop hBehind hWritten =>
      have hLonger : left ++ cs = (left ++ before) ++ old ++ behind := by simp [hText]
      exact .edit hLonger (by simp [hStart, Nat.add_assoc]) hStop hBehind (by simp [hWritten])

/-- Two texts that stand one behind the other are edited one by one. -/
theorem append {position : Nat} {left leftWritten right rightWritten : List Char}
    {early late : List (Span × String)} (hLeft : Splices position left early leftWritten)
    (hRight : Splices (position + byteLength left) right late rightWritten) :
    Splices position (left ++ right) (early ++ late) (leftWritten ++ rightWritten) := by
  induction hLeft with
  | rest position cs => exact hRight.prepend cs
  | edit hText hStart hStop hBehind hWritten ih =>
      have hPlace := hStart ▸ hStop
      subst hText hWritten
      refine .edit (by simp) hStart hStop (ih ?_) (by simp)
      simpa [hPlace, Nat.add_assoc] using hRight

/-- Every edit is carried out. -/
theorem spliceFrom_eq {position : Nat} {cs written : List Char} {edits : List (Span × String)}
    (h : Splices position cs edits written) : spliceFrom position cs edits = some written := by
  induction h with
  | rest => rfl
  | @edit position cs before old behind after written span text edits hText hStart hStop _
      hWritten ih =>
      have hBefore : span.start - position = byteLength before := by omega
      have hOld : span.stop - span.start = byteLength old := by omega
      simp [spliceFrom, hText, hBefore, hOld, splitBytes_append, ih, hWritten]

/-- No span begins in front of the text. -/
theorem le_start {position : Nat} {cs written : List Char} {edits : List (Span × String)}
    (h : Splices position cs edits written) : ∀ edit ∈ edits, position ≤ edit.1.start := by
  induction h with
  | rest => exact List.forall_mem_nil _
  | edit hText hStart hStop hBehind hWritten ih =>
      refine List.forall_mem_cons.mpr ⟨hStart ▸ Nat.le_add_right _ _, fun edit hEdit => ?_⟩
      have hLater := ih edit hEdit
      omega

/-- No span begins before all spans in front of it have ended. -/
theorem pairwise {position : Nat} {cs written : List Char} {edits : List (Span × String)}
    (h : Splices position cs edits written) :
    (edits.map Prod.fst).Pairwise fun earlier later => earlier.stop ≤ later.start := by
  induction h with
  | rest => exact .nil
  | edit hText hStart hStop hBehind hWritten ih =>
      refine List.pairwise_cons.mpr ⟨?_, ih⟩
      simpa using hBehind.le_start

end Splices

end ResponsiveImages.Markup
