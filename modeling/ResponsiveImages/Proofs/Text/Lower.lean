import ResponsiveImages.Text.Character
import ResponsiveImages.Text.LowerCase

/-! Lower case and blanks: no character becomes a blank in lower case. -/
namespace ResponsiveImages.Text

theorem isAlpha_of_toLower {c : Char} (h : c.toLower.isAlpha = true) : c.isAlpha = true := by
  unfold Char.toLower at h
  split at h
  · rename_i hCapital
    have hUpper : c.isUpper = true := decide_eq_true hCapital
    exact Bool.or_eq_true_iff.mpr (Or.inl hUpper)
  · exact h

/-- The letters of ASCII stand in two runs. -/
theorem toNat_of_isAlpha {c : Char} (h : c.isAlpha = true) :
    (65 ≤ c.toNat ∧ c.toNat ≤ 90) ∨ (97 ≤ c.toNat ∧ c.toNat ≤ 122) := by
  have hCase : (c.isUpper || c.isLower) = true := h
  rcases Bool.or_eq_true_iff.mp hCase with hUpper | hLower
  · obtain ⟨hFirst, hLast⟩ : 'A'.val ≤ c.val ∧ c.val ≤ 'Z'.val := of_decide_eq_true hUpper
    exact .inl ⟨UInt32.le_iff_toNat_le.mp hFirst, UInt32.le_iff_toNat_le.mp hLast⟩
  · have hRange : (decide ('a'.val ≤ c.val) && decide (c.val ≤ 'z'.val)) = true := hLower
    obtain ⟨hFirst, hLast⟩ := Bool.and_eq_true_iff.mp hRange
    exact .inr ⟨UInt32.le_iff_toNat_le.mp (of_decide_eq_true hFirst),
      UInt32.le_iff_toNat_le.mp (of_decide_eq_true hLast)⟩

@[simp] theorem lower_nil : lower [] = [] := rfl

@[simp] theorem lower_cons (c : Char) (cs : List Char) : lower (c :: cs) = lowerChar c ++ lower cs :=
  rfl

@[simp] theorem lower_append (left right : List Char) :
    lower (left ++ right) = lower left ++ lower right :=
  List.flatMap_append

theorem lowerChar_of_ascii {c : Char} (h : c.toNat < 128) : lowerChar c = [c.toLower] :=
  if_pos h

/-- Letters of ASCII are taken to lower case one by one. -/
theorem lower_of_isAlpha {word : List Char} (h : ∀ c ∈ word, c.isAlpha = true) :
    lower word = word.map Char.toLower := by
  induction word with
  | nil => rfl
  | cons c word ih =>
      obtain ⟨hc, hWord⟩ := List.forall_mem_cons.mp h
      have hAscii : c.toNat < 128 := by
        have hRange := toNat_of_isAlpha hc
        omega
      rw [lower_cons, lowerChar_of_ascii hAscii, ih hWord]
      rfl

theorem lower_replicate_space (count : Nat) :
    lower (List.replicate count ' ') = List.replicate count ' ' := by
  induction count with
  | zero => rfl
  | succ count ih =>
      rw [List.replicate_succ, Text.lower_cons, ih]
      rfl

/-- No small letter is in a range of blanks. -/
theorem capitalRuns_avoid_blanks : ∀ run ∈ capitalRuns, ∀ range ∈ blankRanges,
    run.target + (run.last - run.first) < range.1 ∨ range.2 < run.target := by
  decide +kernel

theorem isBlank_eq_false_iff {c : Char} :
    isBlank c = false ↔ ∀ range ∈ blankRanges, c.toNat < range.1 ∨ range.2 < c.toNat := by
  simp only [isBlank, List.any_eq_false, Bool.and_eq_true, decide_eq_true_eq]
  refine forall₂_congr fun range _ => ?_
  omega

/-- A number that is not a code point stands for the zero character. -/
theorem isBlank_ofNat_eq_false {code : Nat}
    (h : ∀ range ∈ blankRanges, code < range.1 ∨ range.2 < code) :
    isBlank (Char.ofNat code) = false := by
  by_cases hValid : code.isValidChar
  · have hChar : Char.ofNat code = Char.ofNatAux code hValid := dif_pos hValid
    rw [hChar]
    exact isBlank_eq_false_iff.mpr h
  · have hZero : Char.ofNat code = '\x00' := dif_neg hValid
    rw [hZero]
    decide

theorem isBlank_smallCodePoint {c : Char} (h : isBlank c = false) :
    isBlank (Char.ofNat (smallCodePoint c.toNat)) = false := by
  refine isBlank_ofNat_eq_false fun range hRange => ?_
  unfold smallCodePoint
  split
  · rename_i run hRun
    have hCode := List.find?_some hRun
    simp only [Bool.and_eq_true, decide_eq_true_eq] at hCode
    have hAvoid := capitalRuns_avoid_blanks run (List.mem_of_find?_eq_some hRun) range hRange
    omega
  · exact isBlank_eq_false_iff.mp h range hRange

theorem isBlank_lowerChar {c : Char} (h : isBlank c = false) :
    ∀ d ∈ lowerChar c, isBlank d = false := by
  unfold lowerChar
  split
  · rename_i hAscii
    have hAll : ∀ code < 128, isBlank (Char.ofNat code) = false →
        isBlank (Char.ofNat code).toLower = false := by decide +kernel
    have hc := hAll c.toNat hAscii
    rw [Char.ofNat_toNat] at hc
    exact List.forall_mem_singleton.mpr (hc h)
  · split
    · exact List.forall_mem_cons.mpr ⟨by decide, List.forall_mem_singleton.mpr (by decide)⟩
    · exact List.forall_mem_singleton.mpr (isBlank_smallCodePoint h)

theorem isBlank_lower {text : List Char} (h : ∀ c ∈ text, isBlank c = false) :
    ∀ c ∈ lower text, isBlank c = false := by
  intro d hd
  obtain ⟨c, hc, hd⟩ := List.mem_flatMap.mp hd
  exact isBlank_lowerChar (h c hc) d hd

end ResponsiveImages.Text
