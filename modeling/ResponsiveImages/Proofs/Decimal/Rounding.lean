import ResponsiveImages.Decimal.Shortest

/-! Rounding of quotients. The result depends on the value of a quotient alone. It is a magnitude of
the format, and the quotient itself if that is one. -/
namespace ResponsiveImages.Decimal

theorem divideToNearest_mul (tie : Tie) (num den : Nat) {factor : Nat} (h : 0 < factor) :
    divideToNearest tie (num * factor) (den * factor) = divideToNearest tie num den := by
  have hBelow : 2 * (num % den * factor) < den * factor ↔ 2 * (num % den) < den := by
    rw [← Nat.mul_assoc]
    exact Nat.mul_lt_mul_right h
  have hAbove : den * factor < 2 * (num % den * factor) ↔ den < 2 * (num % den) := by
    rw [← Nat.mul_assoc]
    exact Nat.mul_lt_mul_right h
  simp only [divideToNearest, Nat.mul_div_mul_right num den h, Nat.mul_mod_mul_right, hBelow,
    hAbove]

/-- A whole quotient is not rounded. -/
theorem divideToNearest_of_whole (tie : Tie) (quotient : Nat) {den : Nat} (h : 0 < den) :
    divideToNearest tie (quotient * den) den = quotient := by
  simp [divideToNearest, h]

/-- Rounding leads to one of the two neighbours. -/
theorem divideToNearest_cases (tie : Tie) (num den : Nat) :
    divideToNearest tie num den = num / den ∨ divideToNearest tie num den = num / den + 1 := by
  unfold divideToNearest Tie.choose
  dsimp only
  split
  · exact .inl rfl
  · split
    · exact .inr rfl
    · cases tie with
      | even =>
          dsimp only
          split
          · exact .inl rfl
          · exact .inr rfl
      | up => exact .inr rfl

namespace Magnitude

theorem ofRatio?_mul (num den : Nat) {factor : Nat} (h : 0 < factor) :
    ofRatio? (num * factor) (den * factor) = ofRatio? num den := by
  have hUnits : num * factor * unitsPerOne = num * unitsPerOne * factor := Nat.mul_right_comm _ _ _
  have hStep (scale : Nat) :
      den * factor * Nat.pow 2 scale = den * Nat.pow 2 scale * factor := Nat.mul_right_comm _ _ _
  simp only [ofRatio?, hUnits, hStep, Nat.mul_div_mul_right _ den h, divideToNearest_mul _ _ _ h]

/-- Equal quotients are rounded to the same magnitude. -/
theorem ofRatio?_of_cross {num den otherNum otherDen : Nat} (hDen : 0 < den) (hOther : 0 < otherDen)
    (h : num * otherDen = otherNum * den) : ofRatio? num den = ofRatio? otherNum otherDen := by
  rw [← ofRatio?_mul num den hOther, ← ofRatio?_mul otherNum otherDen hDen, h,
    Nat.mul_comm den otherDen]

/-- The one form in which a magnitude of the format is kept: 53 bits, the highest of them set unless
the scale is the smallest. -/
structure IsCanonical (m : Magnitude) : Prop where
  significand_lt : m.significand < Nat.pow 2 53
  le_significand : m.scale = 0 ∨ Nat.pow 2 52 ≤ m.significand
  scale_le : m.scale ≤ 2045

instance (m : Magnitude) : Decidable m.IsCanonical :=
  decidable_of_iff (m.significand < Nat.pow 2 53 ∧ (m.scale = 0 ∨ Nat.pow 2 52 ≤ m.significand) ∧
      m.scale ≤ 2045)
    ⟨fun ⟨hHigh, hLow, hScale⟩ => ⟨hHigh, hLow, hScale⟩, fun h =>
      ⟨h.significand_lt, h.le_significand, h.scale_le⟩⟩

theorem unitsPerOne_pos : 0 < unitsPerOne := by decide +kernel

/-- Above the smallest scale, the highest bit of the significand is the highest one of the units. -/
theorem log2_units {m : Magnitude} (hLow : Nat.pow 2 52 ≤ m.significand)
    (hHigh : m.significand < Nat.pow 2 53) : Nat.log2 m.units = 52 + m.scale := by
  have hPow : 0 < Nat.pow 2 m.scale := Nat.two_pow_pos m.scale
  have hAtLeast : 2 ^ (52 + m.scale) ≤ m.units := by
    rw [Nat.pow_add]
    exact Nat.mul_le_mul_right _ hLow
  have hBelow : m.units < 2 ^ (52 + m.scale + 1) := by
    rw [Nat.add_right_comm, Nat.pow_add]
    exact Nat.mul_lt_mul_of_pos_right hHigh hPow
  have hNonzero : m.units ≠ 0 := Nat.ne_of_gt (Nat.lt_of_lt_of_le (Nat.two_pow_pos _) hAtLeast)
  exact (Nat.log2_eq_iff hNonzero).mpr ⟨hAtLeast, hBelow⟩

theorem scaleFor_units {m : Magnitude} (h : m.IsCanonical) : scaleFor m.units = m.scale := by
  by_cases hZero : m.scale = 0
  · have hUnits : m.units = m.significand := by
      rw [units, hZero]
      exact Nat.mul_one m.significand
    rw [scaleFor, hUnits, if_pos h.significand_lt, hZero]
  · have hLow := h.le_significand.resolve_left hZero
    have hLarge : ¬ m.units < Nat.pow 2 53 := by
      have hTwo : Nat.pow 2 1 ≤ Nat.pow 2 m.scale :=
        Nat.pow_le_pow_right (by decide) (Nat.pos_of_ne_zero hZero)
      exact Nat.not_lt.mpr (Nat.mul_le_mul hLow hTwo)
    rw [scaleFor, if_neg hLarge, log2_units hLow h.significand_lt, Nat.add_sub_cancel_left]

/-- The exact value of a magnitude is rounded to this magnitude. -/
theorem ofRatio?_units {m : Magnitude} (h : m.IsCanonical) :
    ofRatio? m.units unitsPerOne = some m := by
  have hWhole : m.units * unitsPerOne / unitsPerOne = m.units :=
    Nat.mul_div_cancel _ unitsPerOne_pos
  have hSignificand : divideToNearest .even (m.units * unitsPerOne)
      (unitsPerOne * Nat.pow 2 m.scale) = m.significand := by
    rw [Nat.mul_comm unitsPerOne, divideToNearest_mul _ _ _ unitsPerOne_pos, units]
    exact divideToNearest_of_whole _ _ (Nat.two_pow_pos m.scale)
  have hCarry : m.significand ≠ Nat.pow 2 53 := Nat.ne_of_lt h.significand_lt
  simp only [ofRatio?, hWhole, scaleFor_units h, hSignificand, hCarry, if_false, h.scale_le,
    if_true]

/-- At the scale that is chosen for it, a number of units has 53 bits. -/
theorem scaleFor_bounds (wholeUnits : Nat) :
    wholeUnits / Nat.pow 2 (scaleFor wholeUnits) < Nat.pow 2 53 ∧
      (scaleFor wholeUnits = 0 ∨ Nat.pow 2 52 ≤ wholeUnits / Nat.pow 2 (scaleFor wholeUnits)) := by
  unfold scaleFor
  split
  · rename_i hSmall
    exact ⟨Nat.lt_of_le_of_lt (Nat.div_le_self _ _) hSmall, .inl rfl⟩
  · rename_i hLarge
    have hNonzero : wholeUnits ≠ 0 := by
      rintro rfl
      exact hLarge (by decide)
    have hBits : 53 ≤ Nat.log2 wholeUnits := (Nat.le_log2 hNonzero).mpr (Nat.not_lt.mp hLarge)
    obtain ⟨hLow, hHigh⟩ := (Nat.log2_eq_iff hNonzero).mp rfl
    obtain ⟨scale, hScale⟩ := Nat.exists_eq_add_of_le (show 52 ≤ Nat.log2 wholeUnits by omega)
    have hPow : 0 < Nat.pow 2 scale := Nat.two_pow_pos scale
    rw [hScale, Nat.pow_add] at hLow
    rw [hScale, Nat.add_right_comm, Nat.pow_add] at hHigh
    rw [hScale, Nat.add_sub_cancel_left]
    exact ⟨(Nat.div_lt_iff_lt_mul hPow).mpr hHigh, .inr ((Nat.le_div_iff_mul_le hPow).mpr hLow)⟩

/-- Whatever is rounded becomes a magnitude of the format. -/
theorem isCanonical_of_ofRatio? {num den : Nat} {m : Magnitude} (h : ofRatio? num den = some m) :
    m.IsCanonical := by
  obtain ⟨hHigh, hLow⟩ := scaleFor_bounds (num * unitsPerOne / den)
  have hNeighbours := divideToNearest_cases .even (num * unitsPerOne)
    (den * Nat.pow 2 (scaleFor (num * unitsPerOne / den)))
  rw [← Nat.div_div_eq_div_mul] at hNeighbours
  simp only [ofRatio?] at h
  generalize scaleFor (num * unitsPerOne / den) = scale at h hHigh hLow hNeighbours
  generalize divideToNearest .even (num * unitsPerOne) (den * Nat.pow 2 scale) = significand
    at h hNeighbours
  generalize num * unitsPerOne / den / Nat.pow 2 scale = floor at hHigh hLow hNeighbours
  obtain ⟨hScale, hRounded⟩ := Option.ite_none_right_eq_some.mp h
  by_cases hCarry : significand = Nat.pow 2 53
  · rw [if_pos hCarry] at hScale hRounded
    cases hRounded
    exact ⟨show Nat.pow 2 52 < Nat.pow 2 53 by decide, .inr (Nat.le_refl _), hScale⟩
  · rw [if_neg hCarry] at hScale hRounded
    cases hRounded
    have hBelow : significand < Nat.pow 2 53 := by omega
    exact ⟨hBelow, hLow.imp id fun hFloor => show Nat.pow 2 52 ≤ significand by omega, hScale⟩

theorem IsCanonical.divided {m : Magnitude} (h : m.IsCanonical) (divisor : Magnitude) :
    ((m.divide? divisor).getD m).IsCanonical := by
  cases hQuotient : m.divide? divisor with
  | none => exact h
  | some quotient => exact isCanonical_of_ofRatio? hQuotient

theorem IsCanonical.dividedByTenTo {m : Magnitude} (h : m.IsCanonical) (power : Nat) :
    (m.divideByTenTo power).IsCanonical := by
  fun_induction divideByTenTo m power with
  | case1 m power _ => exact h.divided _
  | case2 m power _ _ => exact h
  | case3 m power _ _ ih => exact ih (h.divided _)

/-- Every step of a scaling leads to a magnitude of the format. -/
theorem isCanonical_of_scaled? {significand : Nat} {exponent : Int} {m : Magnitude}
    (h : scaled? significand exponent = some m) : m.IsCanonical := by
  obtain ⟨whole, hWhole, hScaled⟩ := Option.bind_eq_some_iff.mp h
  have hCanonical := isCanonical_of_ofRatio? hWhole
  split at hScaled
  · cases hScaled
    exact hCanonical.dividedByTenTo _
  · split at hScaled
    · exact isCanonical_of_ofRatio? hScaled
    · split at hScaled
      · cases hScaled
        exact hCanonical
      · cases hScaled

end Magnitude

end ResponsiveImages.Decimal
