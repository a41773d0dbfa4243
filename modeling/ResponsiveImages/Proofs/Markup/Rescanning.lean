import ResponsiveImages.Proofs.Markup.WrittenAttributes
import ResponsiveImages.Proofs.Markup.Lexing

/-! Where a lexeme ends is decided by its own text. What follows it can be exchanged for anything
else, with one exception: a run of character data goes on for as long as there is more of it. Two
texts that stand one behind the other therefore have the lexemes that each of them has, except that
two runs of character data at the seam are one run. -/
namespace ResponsiveImages.Markup

/-- Character data ends where the text does, or where a tag or a reference begins. -/
def EndsText (cs : List Char) : Prop := ∀ c ∈ cs.head?, c = '<' ∨ c = '&'

namespace Lexeme

theorem splitTag_again {quote : Option Char} {cs content after : List Char} (other : List Char)
    (h : splitTag quote cs = some (content, after)) :
    splitTag quote (content ++ '>' :: other) = some (content, other) := by
  induction cs generalizing quote content with
  | nil => simp [splitTag] at h
  | cons c rest ih =>
      simp only [splitTag] at h
      split at h
      · rename_i hEnd
        cases h
        simp [splitTag, hEnd.1]
      · rename_i hEnd
        obtain ⟨parts, hParts, hEq⟩ := Option.map_eq_some_iff.mp h
        cases hEq
        simp only [List.cons_append, splitTag, hEnd, reduceIte, ih hParts, Option.map_some]

/-- Whether a text begins with a mark is decided by as many characters as the mark has. -/
theorem isPrefixOf_append {mark : List Char} (cs left right : List Char)
    (hLength : mark.length ≤ cs.length) :
    mark.isPrefixOf (cs ++ left) = mark.isPrefixOf (cs ++ right) := by
  have hPrefix : ∀ behind, mark <+: cs ++ behind ↔ mark <+: cs := fun behind =>
    ⟨fun h => List.prefix_of_prefix_length_le h (List.prefix_append cs behind) hLength,
      fun h => h.trans (List.prefix_append cs behind)⟩
  rw [Bool.eq_iff_iff, List.isPrefixOf_iff_prefix, List.isPrefixOf_iff_prefix, hPrefix, hPrefix]

theorem splitMark_again {mark cs content after : List Char} (other : List Char)
    (hMark : mark ≠ []) (h : splitMark mark cs = some (content, after)) :
    splitMark mark (content ++ mark ++ other) = some (content, other) := by
  induction cs generalizing content with
  | nil => simp [splitMark] at h
  | cons c rest ih =>
      simp only [splitMark] at h
      split at h
      · cases h
        obtain ⟨first, marks, rfl⟩ := List.exists_cons_of_ne_nil hMark
        have hBegins : (first :: marks).isPrefixOf (first :: (marks ++ other)) = true :=
          List.isPrefixOf_iff_prefix.mpr (List.prefix_append (first :: marks) other)
        simp [splitMark, hBegins]
      · rename_i hNot
        obtain ⟨parts, hParts, hEq⟩ := Option.map_eq_some_iff.mp h
        cases hEq
        -- The mark is not longer than what stands from here to its end.
        have hSame := isPrefixOf_append (c :: (parts.1 ++ mark)) parts.2 other
          (by simp only [List.length_cons, List.length_append]; omega : mark.length ≤ _)
        rw [List.cons_append, ← splitMark_eq hParts] at hSame
        rw [List.cons_append, List.cons_append, splitMark, if_neg, ih hParts]
        · rfl
        · rw [← List.cons_append, ← hSame]
          exact hNot

theorem splitBalanced_again {depth : Nat} {cs content after : List Char} (other : List Char)
    (h : splitBalanced depth cs = some (content, after)) :
    splitBalanced depth (content ++ '>' :: other) = some (content, other) := by
  induction cs generalizing depth content with
  | nil => simp [splitBalanced] at h
  | cons c rest ih =>
      simp only [splitBalanced] at h
      split at h
      · rename_i hEnd
        subst hEnd
        split at h
        · cases h
          simp [splitBalanced]
        · obtain ⟨parts, hParts, hEq⟩ := Option.map_eq_some_iff.mp h
          cases hEq
          simp [splitBalanced, ih hParts]
      · rename_i hEnd
        obtain ⟨parts, hParts, hEq⟩ := Option.map_eq_some_iff.mp h
        cases hEq
        simp only [List.cons_append, splitBalanced, hEnd, reduceIte, ih hParts, Option.map_some]

section

variable {rest after : List Char} {lexeme : Lexeme} (other : List Char)

theorem scanReference_again (h : scanReference rest = .ok (lexeme, after)) :
    scan (lexeme.source ++ other) = .ok (lexeme, other) := by
  unfold scanReference at h
  dsimp only at h
  split at h
  · cases h
    generalize hName : (fun c : Char => decide (c ≠ ';') && decide (c ≠ '&') && decide (c ≠ '<')) =
      inName
    have hEnd : ∀ c ∈ (';' :: other).head?, inName c = false := by
      simp [← hName]
    obtain ⟨hTake, hDrop⟩ :=
      takeWhile_dropWhile_append
        (fun _ hc => List.mem_takeWhile_imp hc : ∀ c ∈ rest.takeWhile inName, inName c = true) hEnd
    have hText : '&' :: (rest.takeWhile inName ++ [';']) ++ other =
      '&' :: (rest.takeWhile inName ++ ';' :: other) := by simp
    rw [hText]
    simp only [scan, scanReference, hName, hTake, hDrop]
  · cases h

theorem scanInstruction_again (h : scanInstruction rest = .ok (lexeme, after)) :
    scan (lexeme.source ++ other) = .ok (lexeme, other) := by
  unfold scanInstruction at h
  split at h
  · cases h
  · rename_i hFirst
    split at h
    · rename_i content behind hSplit
      cases h
      have hText : ['<', '?'] ++ content ++ ['?', '>'] ++ other =
          '<' :: '?' :: (content ++ ['?', '>'] ++ other) := by simp
      have hHead : (content ++ ['?', '>'] ++ other).head? ≠ some '>' := by
        rw [splitMark_eq hSplit] at hFirst
        cases content with
        | nil => simp
        | cons c content => simpa using hFirst
      simp only [hText, scan, scanInstruction]
      rw [if_neg hHead, splitMark_again other (List.cons_ne_nil _ _) hSplit]
      rfl
    · cases h

theorem scanComment_again (h : scanComment rest = .ok (lexeme, after)) :
    scan (lexeme.source ++ other) = .ok (lexeme, other) := by
  unfold scanComment at h
  split at h
  · split at h
    · rename_i content behind hSplit
      cases h
      have hText : ['<', '!', '-', '-'] ++ content ++ ['-', '-', '>'] ++ other =
          '<' :: '!' :: '-' :: '-' :: (content ++ ['-', '-', '>'] ++ other) := by simp
      simp only [hText, scan, scanComment, splitMark_again other (List.cons_ne_nil _ _) hSplit]
      rfl
    · cases h
  · cases h

theorem scanSection_again (h : scanSection rest = .ok (lexeme, after)) :
    scan (lexeme.source ++ other) = .ok (lexeme, other) := by
  unfold scanSection at h
  split at h
  · split at h
    · rename_i content behind hSplit
      cases h
      have hText : ['<', '!'] ++ sectionWord ++ content ++ [']', ']', '>'] ++ other =
          '<' :: '!' :: (sectionWord ++ (content ++ [']', ']', '>'] ++ other)) := by simp
      have hScan : scan ('<' :: '!' :: (sectionWord ++ (content ++ [']', ']', '>'] ++ other))) =
          scanSection (sectionWord ++ (content ++ [']', ']', '>'] ++ other)) := rfl
      have hWord : sectionWord.isPrefixOf
          (sectionWord ++ (content ++ [']', ']', '>'] ++ other)) = true :=
        List.isPrefixOf_iff_prefix.mpr (List.prefix_append _ _)
      rw [hText, hScan, scanSection, if_pos hWord, List.drop_left,
        splitMark_again other (List.cons_ne_nil _ _) hSplit]
    · cases h
  · cases h

theorem scanDoctype_again (hFirst : ∀ c ∈ rest.head?, c = 'D' ∨ c = 'd')
    (h : scanDoctype rest = .ok (lexeme, after)) :
    scan (lexeme.source ++ other) = .ok (lexeme, other) := by
  simp only [scanDoctype] at h
  split at h
  · rename_i hWord
    split at h
    · rename_i content behind hSplit
      split at h
      · cases h
      · rename_i hBlank
        cases h
        generalize hTaken : rest.take doctypeWord.length = word at hWord ⊢
        have hLength : word.length = doctypeWord.length := by
          simpa using congrArg List.length hWord
        have hTake : (word ++ (content ++ '>' :: other)).take doctypeWord.length = word := by
          rw [← hLength, List.take_left]
        have hDrop : (word ++ (content ++ '>' :: other)).drop doctypeWord.length =
            content ++ '>' :: other := by
          rw [← hLength, List.drop_left]
        have hText : ['<', '!'] ++ (word ++ content) ++ ['>'] ++ other =
            '<' :: '!' :: (word ++ (content ++ '>' :: other)) := by simp
        have hScan : scan ('<' :: '!' :: (word ++ (content ++ '>' :: other))) =
            scanDoctype (word ++ (content ++ '>' :: other)) := by
          obtain ⟨c, cs, rfl⟩ := List.exists_cons_of_length_pos (hLength ▸ by decide : 0 < word.length)
          have hHead : rest.head? = some c := by
            cases rest <;> simp_all [doctypeWord]
          rcases hFirst c hHead with rfl | rfl <;> rfl
        rw [hText, hScan]
        simp only [scanDoctype, hTake, hDrop, hWord, reduceIte, splitBalanced_again other hSplit,
          hBlank]
        rfl
    · cases h
  · cases h

theorem scanEndTag_again (h : scanEndTag rest = .ok (lexeme, after)) :
    scan (lexeme.source ++ other) = .ok (lexeme, other) := by
  unfold scanEndTag at h
  split at h
  · rename_i content behind hSplit
    cases h
    simp [scan, scanEndTag, splitTag_again other hSplit]
  · cases h

/-- A bracket begins a start tag unless its next character says something else. -/
theorem scan_bracket (cs : List Char) (h : ∀ c ∈ cs.head?, c ≠ '?' ∧ c ≠ '!' ∧ c ≠ '/') :
    scan ('<' :: cs) = scanStartTag cs := by
  cases cs with
  | nil => rfl
  | cons c cs =>
      obtain ⟨hInstruction, hDeclaration, hEnd⟩ := h c rfl
      simp [scan, hInstruction, hDeclaration, hEnd]

theorem scanStartTag_again (hFirst : ∀ c ∈ rest.head?, c ≠ '?' ∧ c ≠ '!' ∧ c ≠ '/')
    (h : scanStartTag rest = .ok (lexeme, after)) :
    scan (lexeme.source ++ other) = .ok (lexeme, other) := by
  simp only [scanStartTag] at h
  split at h
  · rename_i content behind hSplit
    have hHead : ∀ c ∈ (content ++ '>' :: other).head?, c ≠ '?' ∧ c ≠ '!' ∧ c ≠ '/' := by
      rw [splitTag_eq hSplit] at hFirst
      cases content with
      | nil => simp
      | cons c content => simpa using hFirst
    have hText : '<' :: (content ++ ['>']) ++ other = '<' :: (content ++ '>' :: other) := by simp
    split at h <;> rename_i hSlash <;> cases h <;>
      simp only [hText, scan_bracket _ hHead, scanStartTag, splitTag_again other hSplit, hSlash,
        reduceIte]
  · cases h

end

/-- Character data is one run up to the next tag or reference. -/
theorem scan_text {content rest : List Char} (hSome : content ≠ [])
    (hChars : ∀ c ∈ content, c ≠ '<' ∧ c ≠ '&') (hRest : EndsText rest) :
    scan (content ++ rest) = .ok (⟨.text, content⟩, rest) := by
  have hScan : scan (content ++ rest) = scanText (content ++ rest) := by
    obtain ⟨c, cs, rfl⟩ := List.exists_cons_of_ne_nil hSome
    obtain ⟨hBracket, hAmpersand⟩ := hChars c List.mem_cons_self
    simp [scan, hBracket, hAmpersand]
  have hInText : ∀ c ∈ content, (decide (c ≠ '<') && decide (c ≠ '&')) = true := by
    intro c hc
    simp [hChars c hc]
  have hEnd : ∀ c ∈ rest.head?, (decide (c ≠ '<') && decide (c ≠ '&')) = false := by
    intro c hc
    rcases hRest c hc with rfl | rfl <;> simp
  obtain ⟨hTake, hDrop⟩ := takeWhile_dropWhile_append hInText hEnd
  rw [hScan, scanText, hTake, hDrop]

/-- The lexeme is a run of character data and no reference or section. Such a run goes on for as
long as it can. -/
def IsRun (lexeme : Lexeme) : Prop :=
  lexeme.token = .text ∧ lexeme.source ≠ [] ∧ ∀ c ∈ lexeme.source, c ≠ '<' ∧ c ≠ '&'

theorem scanText_isRun {c : Char} {cs rest : List Char} {lexeme : Lexeme}
    (hFirst : c ≠ '<' ∧ c ≠ '&') (h : scanText (c :: cs) = .ok (lexeme, rest)) :
    lexeme.IsRun ∧ EndsText rest := by
  have hSource := (scanText_takes hFirst.1 hFirst.2 h).1
  simp only [scanText, Except.ok.injEq, Prod.mk.injEq] at h
  obtain ⟨rfl, rfl⟩ := h
  refine ⟨⟨rfl, hSource, fun _ hc => by simpa using List.mem_takeWhile_imp hc⟩, fun next hNext => ?_⟩
  have hStop := List.head?_dropWhile_not (fun c : Char => decide (c ≠ '<') && decide (c ≠ '&'))
    (c :: cs)
  rw [hNext] at hStop
  simpa [Decidable.or_iff_not_imp_left] using hStop

/-- A lexeme is scanned again whatever follows it, unless it is a run of character data and goes
on. -/
theorem scan_again {c : Char} {cs rest : List Char} {lexeme : Lexeme}
    (h : scan (c :: cs) = .ok (lexeme, rest)) :
    (lexeme.IsRun ∧ EndsText rest) ∨
      ∀ other, scan (lexeme.source ++ other) = .ok (lexeme, other) := by
  unfold scan at h
  split at h
  · exact Or.inr fun other => scanInstruction_again other h
  · split at h
    · exact Or.inr fun other => scanComment_again other h
    · exact Or.inr fun other => scanSection_again other h
    · exact Or.inr fun other => scanDoctype_again other (by simp) h
    · exact Or.inr fun other => scanDoctype_again other (by simp) h
    · cases h
  · exact Or.inr fun other => scanEndTag_again other h
  · rename_i rest hInstruction hDeclaration hEnd hText
    cases hText
    refine Or.inr fun other => scanStartTag_again other (fun first hFirst => ?_) h
    obtain ⟨behind, rfl⟩ := List.head?_eq_some_iff.mp hFirst
    exact ⟨fun hc => hInstruction behind (by rw [hc]), fun hc => hDeclaration behind (by rw [hc]),
      fun hc => hEnd behind (by rw [hc])⟩
  · exact Or.inr fun other => scanReference_again other h
  · rename_i hBracket hAmpersand
    exact Or.inl (scanText_isRun ⟨fun hc => hBracket cs (by rw [hc]),
      fun hc => hAmpersand cs (by rw [hc])⟩ h)

/-- A lexeme that is scanned from a part of the text is the first one of the whole. -/
theorem scanAll_append {token : Token} {source rest : List Char} (hSome : source ≠ [])
    (h : scan (source ++ rest) = .ok (⟨token, source⟩, rest)) :
    scanAll (source ++ rest) = (⟨token, source⟩ :: (scanAll rest).1, (scanAll rest).2) := by
  obtain ⟨c, cs, rfl⟩ := List.exists_cons_of_ne_nil hSome
  rw [List.cons_append] at h ⊢
  exact scanAll_of_ok h

/-- The lexemes of two texts that stand one behind the other. -/
inductive Joins : List Lexeme → List Lexeme → List Lexeme → Prop
  | apart (left right : List Lexeme) : Joins left right (left ++ right)
  /-- Character data at the end of the first text goes on in the second one. -/
  | run (early late : List Lexeme) (first second : List Char) :
      Joins (early ++ [⟨.text, first⟩]) (⟨.text, second⟩ :: late)
        (early ++ ⟨.text, first ++ second⟩ :: late)

theorem Joins.cons (lexeme : Lexeme) {left right joined : List Lexeme}
    (h : Joins left right joined) : Joins (lexeme :: left) right (lexeme :: joined) := by
  cases h with
  | apart => exact .apart (lexeme :: left) right
  | run early late first second => exact .run (lexeme :: early) late first second

/-- A run of character data at the end of a text takes in the one that the next text begins with. -/
theorem scanAll_run {lexeme : Lexeme} (hRun : lexeme.IsRun) (cs : List Char) :
    (scanAll (lexeme.source ++ cs)).2 = (scanAll cs).2 ∧
      Joins [lexeme] (scanAll cs).1 (scanAll (lexeme.source ++ cs)).1 := by
  obtain ⟨hToken, hSome, hChars⟩ := hRun
  obtain ⟨token, source⟩ := lexeme
  subst hToken
  by_cases hEnds : EndsText cs
  · rw [scanAll_append hSome (scan_text hSome hChars hEnds)]
    exact ⟨rfl, .apart _ _⟩
  · obtain ⟨c, hHead, hc⟩ : ∃ c ∈ cs.head?, ¬ (c = '<' ∨ c = '&') := by
      simpa [EndsText] using hEnds
    obtain ⟨behind, rfl⟩ := List.head?_eq_some_iff.mp hHead
    rw [not_or] at hc
    obtain ⟨⟨token, second⟩, rest, hScan⟩ :
        ∃ lexeme rest, scanText (c :: behind) = .ok (lexeme, rest) := ⟨_, _, rfl⟩
    obtain ⟨-, hText⟩ := scanText_takes hc.1 hc.2 hScan
    obtain ⟨⟨hToken, hSecond, hMore⟩, hEnd⟩ := scanText_isRun hc hScan
    subst hToken
    have hWhole : scan (source ++ second ++ rest) = .ok (⟨.text, source ++ second⟩, rest) :=
      scan_text (by simp [hSome]) (List.forall_mem_append.mpr ⟨hChars, hMore⟩) hEnd
    have hBehind : scan (second ++ rest) = .ok (⟨.text, second⟩, rest) :=
      scan_text hSecond hMore hEnd
    dsimp only at hText ⊢
    rw [← hText, scanAll_append hSecond hBehind, ← List.append_assoc,
      scanAll_append (by simp [hSome]) hWhole]
    exact ⟨rfl, .run [] _ source second⟩

/-- Two texts that stand one behind the other have the lexemes that each of them has, and the second
one has its own fault. -/
theorem scanAll_joins {cs : List Char} (other : List Char) (h : (scanAll cs).2 = none) :
    (scanAll (cs ++ other)).2 = (scanAll other).2 ∧
      Joins (scanAll cs).1 (scanAll other).1 (scanAll (cs ++ other)).1 := by
  induction cs using scan_induction with
  | done => exact ⟨rfl, .apart [] _⟩
  | fault c cs error hScan => simp [scanAll_of_error hScan] at h
  | step c cs lexeme rest hScan ih =>
      obtain ⟨hSome, hText⟩ := scan_takes hScan
      rw [scanAll_of_ok hScan] at h ⊢
      rw [← hText, List.append_assoc]
      obtain ⟨hFault, hJoins⟩ := ih h
      have hFirst : scan (lexeme.source ++ (rest ++ other)) = .ok (lexeme, rest ++ other) →
          (scanAll (lexeme.source ++ (rest ++ other))).2 = (scanAll other).2 ∧
            Joins (lexeme :: (scanAll rest).1) (scanAll other).1
              (scanAll (lexeme.source ++ (rest ++ other))).1 := by
        intro hAgain
        rw [scanAll_append hSome hAgain]
        exact ⟨hFault, hJoins.cons lexeme⟩
      rcases scan_again hScan with ⟨hRun, hEnds⟩ | hAgain
      · cases rest with
        | nil => exact scanAll_run hRun other
        | cons next rest =>
            obtain ⟨token, source⟩ := lexeme
            obtain ⟨rfl, -, hChars⟩ := hRun
            exact hFirst (scan_text hSome hChars hEnds)
      · exact hFirst (hAgain _)

/-- Every lexeme of a text is the only one of its own text. -/
theorem scanAll_alone (cs : List Char) :
    ∀ lexeme ∈ (scanAll cs).1, scanAll lexeme.source = ([lexeme], none) := by
  induction cs using scan_induction with
  | done => exact List.forall_mem_nil _
  | fault c cs error hScan =>
      rw [scanAll_of_error hScan]
      exact List.forall_mem_nil _
  | step c cs lexeme rest hScan ih =>
      rw [scanAll_of_ok hScan]
      refine List.forall_mem_cons.mpr ⟨?_, ih⟩
      have hAlone : scan (lexeme.source ++ []) = .ok (lexeme, []) := by
        rcases scan_again hScan with ⟨⟨hToken, hSome, hChars⟩, -⟩ | hAgain
        · obtain ⟨token, source⟩ := lexeme
          subst hToken
          exact scan_text hSome hChars (by simp [EndsText])
        · exact hAgain []
      have hAll := scanAll_append (scan_takes hScan).1 hAlone
      rwa [List.append_nil] at hAll

end Lexeme

end ResponsiveImages.Markup
