import ResponsiveImages.Markup.Token

/-! Lexemes lose nothing. Each one is a part of the text that is not empty, the next one begins
where it ends, and up to the first fault the text is used up. Nothing is said about which lexemes
these are. -/
namespace ResponsiveImages.Markup.Lexeme

theorem splitTag_eq {quote : Option Char} {cs content after : List Char}
    (h : splitTag quote cs = some (content, after)) : cs = content ++ '>' :: after := by
  induction cs generalizing quote content with
  | nil => simp [splitTag] at h
  | cons c rest ih =>
      simp only [splitTag] at h
      split at h
      · rename_i hEnd
        cases h
        simp [hEnd.2]
      · obtain ⟨parts, hParts, hEq⟩ := Option.map_eq_some_iff.mp h
        cases hEq
        simp [← ih hParts]

theorem splitMark_eq {mark cs content after : List Char}
    (h : splitMark mark cs = some (content, after)) : cs = content ++ mark ++ after := by
  induction cs generalizing content with
  | nil => simp [splitMark] at h
  | cons c rest ih =>
      simp only [splitMark] at h
      split at h
      · rename_i hMark
        obtain ⟨behind, hBehind⟩ := List.isPrefixOf_iff_prefix.mp hMark
        cases h
        simp [← hBehind]
      · obtain ⟨parts, hParts, hEq⟩ := Option.map_eq_some_iff.mp h
        cases hEq
        simp [ih hParts]

theorem splitBalanced_eq {depth : Nat} {cs content after : List Char}
    (h : splitBalanced depth cs = some (content, after)) : cs = content ++ '>' :: after := by
  induction cs generalizing depth content with
  | nil => simp [splitBalanced] at h
  | cons c rest ih =>
      simp only [splitBalanced] at h
      split at h
      · rename_i hEnd
        subst hEnd
        split at h
        · cases h
          rfl
        · obtain ⟨parts, hParts, hEq⟩ := Option.map_eq_some_iff.mp h
          cases hEq
          simp [← ih hParts]
      · obtain ⟨parts, hParts, hEq⟩ := Option.map_eq_some_iff.mp h
        cases hEq
        simp [← ih hParts]

/-- A lexeme that was scanned takes up a part of the text that is not empty, and leaves the rest. -/
def Takes (cs : List Char) (lexeme : Lexeme) (rest : List Char) : Prop :=
  lexeme.source ≠ [] ∧ lexeme.source ++ rest = cs

theorem scanText_takes {c : Char} {cs rest : List Char} {lexeme : Lexeme}
    (hBracket : c ≠ '<') (hAmpersand : c ≠ '&')
    (h : scanText (c :: cs) = .ok (lexeme, rest)) : Takes (c :: cs) lexeme rest := by
  simp only [scanText, Except.ok.injEq, Prod.mk.injEq] at h
  obtain ⟨rfl, rfl⟩ := h
  exact ⟨by simp [hBracket, hAmpersand], List.takeWhile_append_dropWhile⟩

theorem scanReference_takes {cs rest : List Char} {lexeme : Lexeme}
    (h : scanReference cs = .ok (lexeme, rest)) : Takes ('&' :: cs) lexeme rest := by
  unfold scanReference at h
  dsimp only at h
  split at h
  · rename_i after hAfter
    cases h
    refine ⟨by simp, ?_⟩
    have hText := List.takeWhile_append_dropWhile (l := cs)
      (p := fun c => c ≠ ';' && c ≠ '&' && c ≠ '<')
    rw [hAfter] at hText
    simpa using hText
  · cases h

theorem scanInstruction_takes {cs rest : List Char} {lexeme : Lexeme}
    (h : scanInstruction cs = .ok (lexeme, rest)) : Takes ('<' :: '?' :: cs) lexeme rest := by
  unfold scanInstruction at h
  split at h
  · cases h
  · split at h
    · rename_i content after hSplit
      cases h
      exact ⟨by simp, by simp [splitMark_eq hSplit]⟩
    · cases h

theorem scanComment_takes {cs rest : List Char} {lexeme : Lexeme}
    (h : scanComment cs = .ok (lexeme, rest)) : Takes ('<' :: '!' :: cs) lexeme rest := by
  unfold scanComment at h
  split at h
  · split at h
    · rename_i content after hSplit
      cases h
      exact ⟨by simp, by simp [splitMark_eq hSplit]⟩
    · cases h
  · cases h

theorem scanSection_takes {cs rest : List Char} {lexeme : Lexeme}
    (h : scanSection cs = .ok (lexeme, rest)) : Takes ('<' :: '!' :: cs) lexeme rest := by
  unfold scanSection at h
  split at h
  · rename_i hWord
    obtain ⟨behind, rfl⟩ := List.isPrefixOf_iff_prefix.mp hWord
    split at h
    · rename_i content after hSplit
      rw [List.drop_left] at hSplit
      cases h
      exact ⟨by simp, by simp [splitMark_eq hSplit]⟩
    · cases h
  · cases h

theorem scanDoctype_takes {cs rest : List Char} {lexeme : Lexeme}
    (h : scanDoctype cs = .ok (lexeme, rest)) : Takes ('<' :: '!' :: cs) lexeme rest := by
  simp only [scanDoctype] at h
  split at h
  · split at h
    · rename_i content after hSplit
      split at h
      · cases h
      · cases h
        refine ⟨by simp, ?_⟩
        have hText := List.take_append_drop doctypeWord.length cs
        rw [splitBalanced_eq hSplit] at hText
        simpa using hText
    · cases h
  · cases h

theorem scanEndTag_takes {cs rest : List Char} {lexeme : Lexeme}
    (h : scanEndTag cs = .ok (lexeme, rest)) : Takes ('<' :: '/' :: cs) lexeme rest := by
  unfold scanEndTag at h
  split at h
  · rename_i content after hSplit
    cases h
    exact ⟨by simp, by simp [splitTag_eq hSplit]⟩
  · cases h

theorem scanStartTag_takes {cs rest : List Char} {lexeme : Lexeme}
    (h : scanStartTag cs = .ok (lexeme, rest)) : Takes ('<' :: cs) lexeme rest := by
  simp only [scanStartTag] at h
  split at h
  · rename_i content after hSplit
    have hText := splitTag_eq hSplit
    split at h <;> cases h <;> exact ⟨by simp, by simp [hText]⟩
  · cases h

theorem scan_takes {c : Char} {cs rest : List Char} {lexeme : Lexeme}
    (h : scan (c :: cs) = .ok (lexeme, rest)) : Takes (c :: cs) lexeme rest := by
  unfold scan at h
  split at h
  · rename_i hText
    cases hText
    exact scanInstruction_takes h
  · rename_i hText
    cases hText
    split at h
    · exact scanComment_takes h
    · exact scanSection_takes h
    · exact scanDoctype_takes h
    · exact scanDoctype_takes h
    · cases h
  · rename_i hText
    cases hText
    exact scanEndTag_takes h
  · rename_i hText
    cases hText
    exact scanStartTag_takes h
  · rename_i hText
    cases hText
    exact scanReference_takes h
  · rename_i hBracket hAmpersand
    exact scanText_takes (fun hc => hBracket cs (by rw [hc]))
      (fun hc => hAmpersand cs (by rw [hc])) h

/-- Every lexeme makes the text shorter. This is why its length is enough fuel. -/
theorem Takes.length_lt {cs rest : List Char} {lexeme : Lexeme} (h : Takes cs lexeme rest) :
    rest.length < cs.length := by
  have hSome := List.length_pos_iff.mpr h.1
  rw [← h.2, List.length_append]
  omega

theorem scanFrom_eq {cs : List Char} {fuel budget : Nat} (hFuel : cs.length ≤ fuel)
    (hBudget : cs.length ≤ budget) : scanFrom fuel cs = scanFrom budget cs := by
  induction fuel generalizing cs budget with
  | zero =>
      have hEmpty : cs = [] := List.length_eq_zero_iff.mp (by omega)
      subst hEmpty
      cases budget <;> rfl
  | succ fuel ih =>
      cases cs with
      | nil => cases budget <;> rfl
      | cons c cs =>
          cases budget with
          | zero => simp at hBudget
          | succ budget =>
              cases hScan : scan (c :: cs) with
              | error error => simp [scanFrom, hScan]
              | ok scanned =>
                  have hShorter := (scan_takes hScan).length_lt
                  rw [List.length_cons] at hFuel hBudget hShorter
                  simp only [scanFrom, hScan]
                  rw [ih (by omega) (by omega : scanned.2.length ≤ budget)]

theorem scanAll_of_error {c : Char} {cs : List Char} {error : LexicalError}
    (h : scan (c :: cs) = .error error) : scanAll (c :: cs) = ([], some error) := by
  simp [scanAll, scanFrom, h]

theorem scanAll_of_ok {c : Char} {cs rest : List Char} {lexeme : Lexeme}
    (h : scan (c :: cs) = .ok (lexeme, rest)) :
    scanAll (c :: cs) = (lexeme :: (scanAll rest).1, (scanAll rest).2) := by
  have hShorter := (scan_takes h).length_lt
  rw [List.length_cons] at hShorter
  simp only [scanAll, List.length_cons, scanFrom, h]
  rw [scanFrom_eq (by omega) (Nat.le_refl _)]

/-- Induction on a text lexeme by lexeme, up to its end or the first fault. -/
@[elab_as_elim]
theorem scan_induction {motive : List Char → Prop} (done : motive [])
    (fault : ∀ c cs error, scan (c :: cs) = .error error → motive (c :: cs))
    (step : ∀ c cs lexeme rest, scan (c :: cs) = .ok (lexeme, rest) → motive rest →
      motive (c :: cs)) (cs : List Char) : motive cs := by
  induction hLength : cs.length using Nat.strongRecOn generalizing cs with
  | ind length ih =>
      cases cs with
      | nil => exact done
      | cons c cs =>
          cases hScan : scan (c :: cs) with
          | error error => exact fault c cs error hScan
          | ok scanned =>
              have hShorter := (scan_takes hScan).length_lt
              exact step c cs scanned.1 scanned.2 hScan (ih _ (hLength ▸ hShorter) _ rfl)

/-- The lexemes stand in the text one behind the other, from its beginning, and to its end unless
there is a fault. -/
theorem scanAll_source (cs : List Char) :
    ∃ unread, (scanAll cs).1.flatMap Lexeme.source ++ unread = cs ∧
      ((scanAll cs).2 = none → unread = []) := by
  induction cs using scan_induction with
  | done => exact ⟨[], rfl, fun _ => rfl⟩
  | fault c cs error hScan =>
      rw [scanAll_of_error hScan]
      exact ⟨c :: cs, rfl, fun hNone => by cases hNone⟩
  | step c cs lexeme rest hScan ih =>
      obtain ⟨unread, hSource, hEnd⟩ := ih
      rw [scanAll_of_ok hScan]
      refine ⟨unread, ?_, hEnd⟩
      rw [List.flatMap_cons, List.append_assoc, hSource, (scan_takes hScan).2]

theorem scanAll_ne_nil (cs : List Char) : ∀ lexeme ∈ (scanAll cs).1, lexeme.source ≠ [] := by
  induction cs using scan_induction with
  | done => exact List.forall_mem_nil _
  | fault c cs error hScan =>
      rw [scanAll_of_error hScan]
      exact List.forall_mem_nil _
  | step c cs lexeme rest hScan ih =>
      rw [scanAll_of_ok hScan]
      exact List.forall_mem_cons.mpr ⟨(scan_takes hScan).1, ih⟩

end ResponsiveImages.Markup.Lexeme
