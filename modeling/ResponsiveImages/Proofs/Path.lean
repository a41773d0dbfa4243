import Mathlib.Data.List.Infix
import ResponsiveImages.Path

/-! What a path says of the way to a place is whether it starts at the root, and which of its pieces
move. Slashes that are doubled or at the end and single dots make no difference to the way. The
directories above a path are those on the way to it. -/
namespace ResponsiveImages.Path

/-- The pieces that move, first to last. -/
def steps (path : String) : List String :=
  (pieces path).filter (!isStill ·)

theorem pieces_append (left right : String) :
    pieces (left ++ "/" ++ right) = pieces left ++ pieces right := by
  have hText : (left ++ "/" ++ right).toList = left.toList ++ '/' :: right.toList := by simp
  rw [pieces, hText, List.splitOn_append_cons_self, List.map_append]
  rfl

theorem steps_append (left right : String) :
    steps (left ++ "/" ++ right) = steps left ++ steps right := by
  rw [steps, pieces_append, List.filter_append]
  rfl

theorem slash_not_mem_splitOn {text part : List Char} (h : part ∈ text.splitOn '/') :
    '/' ∉ part := by
  induction text generalizing part with
  | nil =>
      rw [List.splitOn_nil, List.mem_singleton] at h
      rw [h]
      exact List.not_mem_nil
  | cons c text ih =>
      rw [List.splitOn_cons_eq_if_modifyHead] at h
      split at h
      · rcases List.mem_cons.mp h with rfl | hMore
        · exact List.not_mem_nil
        · exact ih hMore
      · rename_i hNoSlash
        cases hParts : text.splitOn '/' with
        | nil => exact absurd hParts (List.splitOn_ne_nil _ _)
        | cons first more =>
            rw [hParts, List.modifyHead_cons] at h
            rcases List.mem_cons.mp h with rfl | hMore
            · have hFirst := ih (hParts ▸ List.mem_cons_self)
              rw [List.mem_cons, not_or]
              exact ⟨Ne.symm (by simpa using hNoSlash), hFirst⟩
            · exact ih (hParts ▸ List.mem_cons_of_mem _ hMore)

theorem slash_not_mem_pieces {path piece : String} (h : piece ∈ pieces path) :
    '/' ∉ piece.toList := by
  obtain ⟨part, hPart, rfl⟩ := List.mem_map.mp h
  rw [String.toList_ofList]
  exact slash_not_mem_splitOn hPart

theorem intercalate_pieces (path : String) : String.intercalate "/" (pieces path) = path := by
  refine String.toList_inj.mp ?_
  have hParts : (pieces path).map String.toList = path.toList.splitOn '/' := by
    simp [pieces, Function.comp_def]
  rw [String.toList_intercalate, hParts]
  exact List.intercalate_splitOn '/'

theorem pieces_intercalate {items : List String} (hSome : items ≠ [])
    (hItems : ∀ item ∈ items, '/' ∉ item.toList) :
    pieces (String.intercalate "/" items) = items := by
  have hParts : (['/'].intercalate (items.map String.toList)).splitOn '/' =
      items.map String.toList :=
    List.splitOn_intercalate '/' (by simpa using hItems) (by simpa using hSome)
  rw [pieces, String.toList_intercalate]
  show ((['/'].intercalate _).splitOn '/').map String.ofList = items
  rw [hParts, List.map_map]
  simp [Function.comp_def]

theorem isAbsolute_append {left : String} (right : String) (h : left ≠ "") :
    isAbsolute (left ++ right) = isAbsolute left := by
  have hSome : left.toList ≠ [] := by simpa using h
  rw [isAbsolute, isAbsolute, String.toList_append, List.head?_append_of_ne_nil _ hSome]

/-- Joined pieces start at the root if the first one is empty, and not the only one. -/
theorem isAbsolute_intercalate {first : String} (more : List String)
    (hFirst : '/' ∉ first.toList) :
    isAbsolute (String.intercalate "/" (first :: more)) = true ↔ first = "" ∧ more ≠ [] := by
  rw [isAbsolute, String.toList_intercalate, List.map_cons, beq_iff_eq]
  cases more with
  | nil =>
      simpa using fun hHead => hFirst (List.mem_of_head? hHead)
  | cons second more =>
      rw [List.map_cons, List.intercalate_cons_cons, List.append_assoc]
      cases hText : first.toList with
      | nil => simp [String.toList_eq_nil_iff.mp hText]
      | cons c text =>
          rw [hText] at hFirst
          have hSome : first ≠ "" := by
            rintro rfl
            cases hText
          have hNoSlash : c ≠ '/' := fun hSlash => hFirst (hSlash ▸ List.mem_cons_self)
          simp [hSome, hNoSlash]

theorem first_isStill {path : String} (h : anchor path ≠ "") :
    ∃ first rest, pieces path = first :: rest ∧ isStill first = true := by
  unfold anchor at h
  split at h
  · rename_i hAbsolute
    obtain ⟨rest, hText⟩ := List.head?_eq_some_iff.mp (beq_iff_eq.mp hAbsolute)
    refine ⟨"", (rest.splitOn '/').map String.ofList, ?_, by decide⟩
    rw [pieces, hText, List.splitOn_cons_eq_if_modifyHead, if_pos (by decide)]
    rfl
  · split at h
    · rename_i hDot
      obtain ⟨rest, hPieces⟩ := List.head?_eq_some_iff.mp (beq_iff_eq.mp hDot)
      exact ⟨".", rest, hPieces, by decide⟩
    · exact absurd rfl h

theorem steps_empty : steps "" = [] := by decide

/-- No step is lost with what a path begins with. -/
theorem steps_eq (path : String) :
    steps path = ((bodyReversed path).filter (!isStill ·)).reverse := by
  rw [bodyReversed, List.filter_reverse, List.reverse_reverse, steps]
  split
  · rfl
  · rename_i hAnchor
    obtain ⟨first, rest, hPieces, hStill⟩ := first_isStill (by simpa using hAnchor)
    rw [hPieces, List.filter_cons_of_neg (by simp [hStill])]
    rfl

theorem steps_intercalate {reversed : List String} (hSome : reversed ≠ [])
    (hReversed : ∀ piece ∈ reversed, '/' ∉ piece.toList) :
    steps (String.intercalate "/" reversed.reverse) =
      (reversed.filter (!isStill ·)).reverse := by
  rw [steps, pieces_intercalate (by simpa using hSome) (by simpa using hReversed),
    List.filter_reverse]

theorem steps_assemble {start : String} {reversed : List String}
    (hStart : start = "/" ∨ start = "." ∨ start = "")
    (hReversed : ∀ piece ∈ reversed, '/' ∉ piece.toList) :
    steps (assemble start reversed) = (reversed.filter (!isStill ·)).reverse := by
  by_cases hSome : reversed = []
  · subst hSome
    rcases hStart with rfl | rfl | rfl <;> decide
  · have hBody := steps_intercalate hSome hReversed
    rcases hStart with rfl | rfl | rfl
    · have hRoot := steps_append "" (String.intercalate "/" reversed.reverse)
      rwa [hBody] at hRoot
    · have hDot := steps_append "." (String.intercalate "/" reversed.reverse)
      have hStay : steps "." = [] := by decide
      rw [hBody, hStay] at hDot
      simpa [assemble, hSome] using hDot
    · rw [← hBody, assemble]
      simp

theorem filter_dropWhile_isStill (items : List String) :
    (items.dropWhile isStill).filter (!isStill ·) = items.filter (!isStill ·) := by
  induction items with
  | nil => rfl
  | cons item items ih =>
      rw [List.dropWhile_cons]
      split
      · rename_i hStill
        rw [List.filter_cons_of_neg (by simp [hStill]), ih]
      · rfl

/-- One step after the other is taken back. -/
theorem tails_steps (reversed : List String) :
    reversed.filter (!isStill ·) :: (shortenings reversed).map (List.filter (!isStill ·)) =
      (reversed.filter (!isStill ·)).tails := by
  induction reversed with
  | nil => rfl
  | cons piece rest ih =>
      rw [shortenings]
      split
      · rename_i hStill
        rw [List.filter_cons_of_neg (by simp [hStill]), ih]
      · rename_i hMoves
        rw [List.filter_cons_of_pos (by simp [hMoves]), List.map_cons, filter_dropWhile_isStill,
          ih, List.tails_cons]

theorem isSuffix_of_mem_shortenings {reversed shorter : List String}
    (h : shorter ∈ shortenings reversed) : shorter <:+ reversed := by
  induction reversed with
  | nil => exact absurd h List.not_mem_nil
  | cons piece rest ih =>
      rw [shortenings] at h
      split at h
      · exact (ih h).trans (List.suffix_cons piece rest)
      · rcases List.mem_cons.mp h with rfl | hMore
        · exact (List.dropWhile_suffix isStill).trans (List.suffix_cons piece rest)
        · exact (ih hMore).trans (List.suffix_cons piece rest)

theorem anchor_cases (path : String) :
    (anchor path = "/" ∧ isAbsolute path = true) ∨
      (anchor path = "." ∨ anchor path = "") ∧ isAbsolute path = false := by
  unfold anchor
  split
  · rename_i hAbsolute
    exact Or.inl ⟨rfl, hAbsolute⟩
  · rename_i hRelative
    refine Or.inr ⟨?_, Bool.eq_false_iff.mpr hRelative⟩
    split
    · exact Or.inl rfl
    · exact Or.inr rfl

theorem slash_not_mem_shortening {path piece : String} {shorter : List String}
    (h : shorter ∈ shortenings (bodyReversed path)) (hPiece : piece ∈ shorter) :
    '/' ∉ piece.toList := by
  have hBody := (isSuffix_of_mem_shortenings h).mem hPiece
  rw [bodyReversed, List.mem_reverse] at hBody
  split at hBody
  · exact slash_not_mem_pieces hBody
  · exact slash_not_mem_pieces (List.mem_of_mem_drop hBody)

/-- The directories above a path are those on the way to it, nearest first. A path that begins with a
dot has two spellings for the last one. -/
theorem steps_ancestors (path : String) :
    (ancestors path).map steps =
      (steps path).inits.reverse ++ if anchor path = "." then [[]] else [] := by
  have hStart : anchor path = "/" ∨ anchor path = "." ∨ anchor path = "" :=
    (anchor_cases path).imp And.left And.left
  have hAbove : (shortenings (bodyReversed path)).map (steps ∘ assemble (anchor path)) =
      ((shortenings (bodyReversed path)).map (List.filter (!isStill ·))).map List.reverse := by
    rw [List.map_map]
    refine List.map_congr_left fun shorter hShorter => ?_
    exact steps_assemble hStart fun piece => slash_not_mem_shortening hShorter
  rw [ancestors, List.map_append, List.map_cons, List.map_map, hAbove, steps_eq,
    ← List.map_cons, tails_steps, List.inits_reverse, List.reverse_reverse]
  congr 1
  simp only [beq_iff_eq]
  split
  · exact congrArg (fun still => [still]) steps_empty
  · rfl

example : ancestors "./a//b/../c/." = ["./a//b/../c/.", "./a//b/..", "./a//b", "./a", ".", ""] := by
  decide +kernel

/-- A shorter path could start at the root by mistake if its first piece were empty. Then the whole
path would start there, too. -/
theorem isAbsolute_shortening {path : String} (hStart : anchor path = "")
    (hPath : isAbsolute path = false) {shorter : List String}
    (h : shorter ∈ shortenings (bodyReversed path)) :
    isAbsolute (String.intercalate "/" shorter.reverse) = false := by
  have hBody : bodyReversed path = (pieces path).reverse := by simp [bodyReversed, hStart]
  obtain ⟨above, hAbove⟩ := hBody ▸ isSuffix_of_mem_shortenings h
  cases hShorter : shorter.reverse with
  | nil => rfl
  | cons first more =>
      have hPieces : pieces path = first :: (more ++ above.reverse) := by
        have hWhole := congrArg List.reverse hAbove
        rw [List.reverse_append, List.reverse_reverse, hShorter, List.cons_append] at hWhole
        exact hWhole.symm
      have hFirst : '/' ∉ first.toList := slash_not_mem_pieces (hPieces ▸ List.mem_cons_self)
      rw [← intercalate_pieces path, hPieces, ← Bool.not_eq_true,
        isAbsolute_intercalate _ hFirst] at hPath
      rw [← Bool.not_eq_true, isAbsolute_intercalate _ hFirst]
      exact fun ⟨hEmpty, hMore⟩ => hPath ⟨hEmpty, by simp [hMore]⟩

/-- Of the directories above a path either all are told from the root on, or none. -/
theorem isAbsolute_of_mem_ancestors {path directory : String} (h : directory ∈ ancestors path) :
    isAbsolute directory = isAbsolute path := by
  rw [ancestors, List.mem_append, List.mem_cons, List.mem_map] at h
  rcases h with (rfl | ⟨shorter, hShorter, rfl⟩) | hLast
  · rfl
  · rcases anchor_cases path with ⟨hStart, hPath⟩ | ⟨hStart | hStart, hPath⟩
    · rw [hStart, hPath]
      exact isAbsolute_append _ (by decide)
    · rw [hStart, hPath, assemble]
      split <;> exact isAbsolute_append _ (by decide)
    · rw [hStart, hPath, assemble]
      simpa using isAbsolute_shortening hStart hPath hShorter
  · rcases anchor_cases path with ⟨hStart, -⟩ | ⟨-, hPath⟩
    · simp [hStart] at hLast
    · rw [hPath]
      split at hLast
      · rw [List.mem_singleton.mp hLast]
        rfl
      · cases hLast

theorem steps_join (directory : String) {name : String} (h : isAbsolute name = false) :
    steps (join directory name) = steps directory ++ steps name := by
  rw [join, if_neg (by simp [h])]
  split
  · rename_i hEnd
    rcases Bool.or_eq_true_iff.mp hEnd with hEmpty | hSlash
    · rw [String.isEmpty_iff.mp hEmpty, steps_empty]
      simp
    · obtain ⟨front, hFront⟩ := List.getLast?_eq_some_iff.mp (beq_iff_eq.mp hSlash)
      have hDirectory : directory = String.ofList front ++ "/" ++ "" := by
        refine String.toList_inj.mp ?_
        simp [hFront]
      rw [hDirectory, steps_append, String.append_empty, steps_append, steps_empty, List.append_nil]
  · exact steps_append directory name

theorem isAbsolute_join (directory : String) {name : String} (h : isAbsolute name = false) :
    isAbsolute (join directory name) = isAbsolute directory := by
  rw [join, if_neg (by simp [h])]
  by_cases hEmpty : directory = ""
  · have hStart : isAbsolute "" = false := by decide
    rw [hEmpty, hStart]
    simpa using h
  · split
    · exact isAbsolute_append name hEmpty
    · rw [String.append_assoc]
      exact isAbsolute_append _ hEmpty

end ResponsiveImages.Path
