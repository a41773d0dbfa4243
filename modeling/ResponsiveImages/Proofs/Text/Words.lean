import ResponsiveImages.Text.Character

/-! Words are what stands between blanks, or between a blank and an end of the text. -/
namespace ResponsiveImages.Text

theorem isBlank_of_mem_replicate (count : Nat) :
    ∀ c ∈ List.replicate count ' ', isBlank c = true := by
  intro c hc
  rw [List.eq_of_mem_replicate hc]
  decide

theorem dropWhile_blanks {blanks rest : List Char}
    (hBlanks : ∀ c ∈ blanks, isBlank c = true) (hRest : ∀ c ∈ rest.head?, isBlank c = false) :
    (blanks ++ rest).dropWhile isBlank = rest := by
  rw [List.dropWhile_append_of_pos hBlanks]
  cases rest with
  | nil => rfl
  | cons c rest => exact List.dropWhile_cons_of_neg (by simp [hRest c rfl])

/-- Two texts that differ by blanks at the end only are the same if neither ends with one. -/
theorem eq_of_append_blanks {left right leftBlanks rightBlanks : List Char}
    (h : left ++ leftBlanks = right ++ rightBlanks)
    (hLeftBlanks : ∀ c ∈ leftBlanks, isBlank c = true)
    (hRightBlanks : ∀ c ∈ rightBlanks, isBlank c = true)
    (hLeft : ∀ c ∈ left.getLast?, isBlank c = false)
    (hRight : ∀ c ∈ right.getLast?, isBlank c = false) : left = right := by
  have hReverse := congrArg (fun text => text.reverse.dropWhile isBlank) h
  simp only [List.reverse_append] at hReverse
  rw [dropWhile_blanks (by simpa using hLeftBlanks) (by simpa using hLeft),
    dropWhile_blanks (by simpa using hRightBlanks) (by simpa using hRight)] at hReverse
  exact List.reverse_inj.mp hReverse

/-- The text holds the word, which is not empty and holds no blank. On either side of it there is a
blank or nothing. -/
def IsWordIn (word text : List Char) : Prop :=
  ∃ before after, text = before ++ word ++ after ∧ word ≠ [] ∧ (∀ c ∈ word, isBlank c = false) ∧
    (∀ c ∈ before.getLast?, isBlank c = true) ∧ ∀ c ∈ after.head?, isBlank c = true

@[simp] theorem words_nil : words [] = [] := by
  simp [words]

/-- A blank belongs to no word, and the words on its two sides have nothing to do with each other. -/
theorem words_append_blank {c : Char} (h : isBlank c = true) (left right : List Char) :
    words (left ++ c :: right) = words left ++ words right := by
  rw [words, List.splitOnP_append_cons left right h, List.filter_append]
  rfl

theorem words_cons_blank {c : Char} (h : isBlank c = true) (text : List Char) :
    words (c :: text) = words text := by
  simpa using words_append_blank h [] text

theorem words_of_no_blank {word : List Char} (hSome : word ≠ [])
    (hWord : ∀ c ∈ word, isBlank c = false) : words word = [word] := by
  rw [words, List.splitOnP_eq_singleton hWord]
  simp [hSome]

/-- Blanks in front of a word, or behind it, change nothing. -/
theorem words_append_of_ends {before : List Char} (h : ∀ c ∈ before.getLast?, isBlank c = true)
    (text : List Char) : words (before ++ text) = words before ++ words text := by
  rcases List.eq_nil_or_concat before with rfl | ⟨front, c, rfl⟩
  · simp
  · have hBlank : isBlank c = true := h c (by simp)
    rw [List.concat_eq_append, List.append_assoc, List.singleton_append,
      words_append_blank hBlank, words_append_blank hBlank front []]
    simp

theorem words_append_of_begins {after : List Char} (h : ∀ c ∈ after.head?, isBlank c = true)
    (text : List Char) : words (text ++ after) = words text ++ words after := by
  cases after with
  | nil => simp
  | cons c after =>
      have hBlank : isBlank c = true := h c rfl
      rw [words_append_blank hBlank, words_cons_blank hBlank]

/-- Words are exactly what stands in a text as a word. -/
theorem mem_words_iff {word text : List Char} : word ∈ words text ↔ IsWordIn word text := by
  constructor
  · intro h
    induction hLength : text.length using Nat.strongRecOn generalizing text with
    | ind length ih =>
        by_cases hBlank : ∃ c ∈ text, isBlank c = true
        · obtain ⟨c, hMem, hc⟩ := hBlank
          obtain ⟨left, right, rfl⟩ := List.append_of_mem hMem
          simp only [List.length_append, List.length_cons] at hLength
          rw [words_append_blank hc, List.mem_append] at h
          rcases h with hLeft | hRight
          · obtain ⟨before, after, rfl, hSome, hWord, hBefore, hAfter⟩ :=
              ih left.length (by omega) hLeft rfl
            refine ⟨before, after ++ c :: right, by simp, hSome, hWord, hBefore, ?_⟩
            cases after with
            | nil => simpa using hc
            | cons d after => simpa using hAfter
          · obtain ⟨before, after, rfl, hSome, hWord, hBefore, hAfter⟩ :=
              ih right.length (by omega) hRight rfl
            refine ⟨left ++ c :: before, after, by simp, hSome, hWord, ?_, hAfter⟩
            intro d hd
            cases hLast : before.getLast? with
            | none =>
                rw [List.getLast?_eq_none_iff.mp hLast] at hd
                simp only [List.getLast?_append, List.getLast?_singleton, Option.some_or,
                  Option.mem_def, Option.some.injEq] at hd
                exact hd ▸ hc
            | some last =>
                rw [List.getLast?_append, List.getLast?_cons, hLast] at hd
                simp only [Option.getD_some, Option.some_or, Option.mem_def, Option.some.injEq] at hd
                exact hd ▸ hBefore last hLast
        · simp only [not_exists, not_and, Bool.not_eq_true] at hBlank
          have hSome : text ≠ [] := by
            rintro rfl
            simp at h
          rw [words_of_no_blank hSome hBlank, List.mem_singleton] at h
          subst h
          exact ⟨[], [], by simp, hSome, hBlank, by simp, by simp⟩
  · rintro ⟨before, after, rfl, hSome, hWord, hBefore, hAfter⟩
    rw [words_append_of_begins hAfter, words_append_of_ends hBefore, words_of_no_blank hSome hWord]
    simp

theorem words_blanks {blanks : List Char} (h : ∀ c ∈ blanks, isBlank c = true) :
    words blanks = [] := by
  induction blanks with
  | nil => exact words_nil
  | cons c blanks ih =>
      obtain ⟨hc, hBlanks⟩ := List.forall_mem_cons.mp h
      rw [words_cons_blank hc, ih hBlanks]

theorem words_append_blanks {blanks : List Char} (h : ∀ c ∈ blanks, isBlank c = true)
    (text : List Char) : words (text ++ blanks) = words text := by
  rw [words_append_of_begins (fun c hc => h c (List.mem_of_head? hc)), words_blanks h,
    List.append_nil]

theorem words_blanks_append {blanks : List Char} (h : ∀ c ∈ blanks, isBlank c = true)
    (text : List Char) : words (blanks ++ text) = words text := by
  rw [words_append_of_ends (fun c hc => h c (List.mem_of_getLast? hc)), words_blanks h,
    List.nil_append]

/-- A word that does not hold a certain character is a word of the text in front of the character or
of that behind it. -/
theorem mem_words_append_cons {word left right : List Char} {c : Char}
    (h : word ∈ words (left ++ c :: right)) :
    c ∈ word ∨ word ∈ words left ∨ word ∈ words right := by
  obtain ⟨before, after, hText, hSome, hWord, hBefore, hAfter⟩ := mem_words_iff.mp h
  rw [List.append_assoc] at hText
  rcases List.append_eq_append_iff.mp hText with ⟨more, rfl, hRight⟩ | ⟨more, rfl, hLeft⟩
  · cases more with
    | nil =>
        obtain ⟨d, word, rfl⟩ := List.exists_cons_of_ne_nil hSome
        exact .inl ((List.cons.inj hRight).1 ▸ List.mem_cons_self)
    | cons d more =>
        obtain ⟨rfl, rfl⟩ := List.cons.inj hRight
        refine .inr (.inr (mem_words_iff.mpr ⟨more, after, by simp, hSome, hWord, ?_, hAfter⟩))
        intro e he
        exact hBefore e (by simp [List.getLast?_append, List.getLast?_cons, Option.mem_def.mp he])
  · rcases List.append_eq_append_iff.mp hLeft with ⟨rest, rfl, rfl⟩ | ⟨rest, rfl, hRight⟩
    · refine .inr (.inl (mem_words_iff.mpr ⟨before, rest, by simp, hSome, hWord, hBefore, ?_⟩))
      intro e he
      exact hAfter e (by simp [List.head?_append, Option.mem_def.mp he])
    · cases rest with
      | nil =>
          refine .inr (.inl (mem_words_iff.mpr ⟨before, [], ?_, hSome, hWord, hBefore, by simp⟩))
          simp
      | cons d rest =>
          exact .inl (by simp [(List.cons.inj hRight).1])

end ResponsiveImages.Text
