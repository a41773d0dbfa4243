import ResponsiveImages.Proofs.Markup.Lexing

/-! How lexemes are written. The token of a lexeme tells what its text begins and ends with, so that
tags of one kind are not taken for those of another. -/
namespace ResponsiveImages.Markup

open Lexeme

/-- The ways in which a token is written. Only a self-closing tag has a slash in front of its last
bracket, and what is passed through begins like no tag. -/
def Token.IsSpelled : Token → List Char → Prop
  | .startTag content, source =>
    source = '<' :: (content ++ ['>']) ∧ content.getLast? ≠ some '/'
  | .selfClosingTag content, source => source = '<' :: (content ++ ['/', '>'])
  | .endTag name, source =>
    ∃ content, source = '<' :: '/' :: (content ++ ['>']) ∧ endTagName content = name
  | .text, source => source ≠ []
  | .verbatim, source => ∃ mark rest, source = '<' :: mark :: rest ∧ (mark = '?' ∨ mark = '!')

namespace Lexeme

def IsSpelled (lexeme : Lexeme) : Prop := lexeme.token.IsSpelled lexeme.source

theorem scanText_isSpelled {c : Char} {cs rest : List Char} {lexeme : Lexeme}
    (hBracket : c ≠ '<') (hAmpersand : c ≠ '&')
    (h : scanText (c :: cs) = .ok (lexeme, rest)) : lexeme.IsSpelled := by
  have hSome := (scanText_takes hBracket hAmpersand h).1
  cases h
  exact hSome

theorem scanReference_isSpelled {cs rest : List Char} {lexeme : Lexeme}
    (h : scanReference cs = .ok (lexeme, rest)) : lexeme.IsSpelled := by
  have hSome := (scanReference_takes h).1
  unfold scanReference at h
  dsimp only at h
  split at h <;> cases h
  exact hSome

theorem scanInstruction_isSpelled {cs rest : List Char} {lexeme : Lexeme}
    (h : scanInstruction cs = .ok (lexeme, rest)) : lexeme.IsSpelled := by
  unfold scanInstruction at h
  split at h
  · cases h
  · split at h
    · cases h
      exact ⟨'?', _, rfl, Or.inl rfl⟩
    · cases h

theorem scanComment_isSpelled {cs rest : List Char} {lexeme : Lexeme}
    (h : scanComment cs = .ok (lexeme, rest)) : lexeme.IsSpelled := by
  unfold scanComment at h
  split at h
  · split at h
    · cases h
      exact ⟨'!', _, rfl, Or.inr rfl⟩
    · cases h
  · cases h

theorem scanSection_isSpelled {cs rest : List Char} {lexeme : Lexeme}
    (h : scanSection cs = .ok (lexeme, rest)) : lexeme.IsSpelled := by
  have hSome := (scanSection_takes h).1
  unfold scanSection at h
  split at h
  · split at h <;> cases h
    exact hSome
  · cases h

theorem scanDoctype_isSpelled {cs rest : List Char} {lexeme : Lexeme}
    (h : scanDoctype cs = .ok (lexeme, rest)) : lexeme.IsSpelled := by
  simp only [scanDoctype] at h
  split at h
  · split at h
    · split at h
      · cases h
      · cases h
        exact ⟨'!', _, rfl, Or.inr rfl⟩
    · cases h
  · cases h

theorem scanEndTag_isSpelled {cs rest : List Char} {lexeme : Lexeme}
    (h : scanEndTag cs = .ok (lexeme, rest)) : lexeme.IsSpelled := by
  unfold scanEndTag at h
  split at h
  · rename_i content after hSplit
    cases h
    exact ⟨content, rfl, rfl⟩
  · cases h

/-- Of a self-closing tag the content is kept without its slash. -/
theorem scanStartTag_isSpelled {cs rest : List Char} {lexeme : Lexeme}
    (h : scanStartTag cs = .ok (lexeme, rest)) : lexeme.IsSpelled := by
  simp only [scanStartTag] at h
  split at h
  · rename_i content after hSplit
    split at h
    · rename_i hSlash
      cases h
      obtain ⟨front, rfl⟩ := List.getLast?_eq_some_iff.mp hSlash
      simp [IsSpelled, Token.IsSpelled]
    · rename_i hSlash
      cases h
      exact ⟨rfl, hSlash⟩
  · cases h

theorem scan_isSpelled {c : Char} {cs rest : List Char} {lexeme : Lexeme}
    (h : scan (c :: cs) = .ok (lexeme, rest)) : lexeme.IsSpelled := by
  unfold scan at h
  split at h
  · exact scanInstruction_isSpelled h
  · split at h
    · exact scanComment_isSpelled h
    · exact scanSection_isSpelled h
    · exact scanDoctype_isSpelled h
    · exact scanDoctype_isSpelled h
    · cases h
  · exact scanEndTag_isSpelled h
  · exact scanStartTag_isSpelled h
  · exact scanReference_isSpelled h
  · rename_i hBracket hAmpersand
    exact scanText_isSpelled (fun hc => hBracket cs (by rw [hc]))
      (fun hc => hAmpersand cs (by rw [hc])) h

theorem scanAll_isSpelled (cs : List Char) : ∀ lexeme ∈ (scanAll cs).1, lexeme.IsSpelled := by
  induction cs using scan_induction with
  | done => exact List.forall_mem_nil _
  | fault c cs error hScan =>
      rw [scanAll_of_error hScan]
      exact List.forall_mem_nil _
  | step c cs lexeme rest hScan ih =>
      rw [scanAll_of_ok hScan]
      exact List.forall_mem_cons.mpr ⟨scan_isSpelled hScan, ih⟩

end Lexeme

end ResponsiveImages.Markup
