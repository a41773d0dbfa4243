import Mathlib.Algebra.Order.Field.Rat
import Mathlib.Data.List.TakeWhile
import Mathlib.Tactic.FieldSimp
import Mathlib.Tactic.Ring
import ResponsiveImages.Decimal.Notation
import ResponsiveImages.Proofs.Decimal.Rounding

/-! The text of a magnitude is read back as the same magnitude, so that no two magnitudes have one
text. The digits come from a search. Whatever it finds reads back, and where it finds nothing the
exact value does. -/
namespace ResponsiveImages.Decimal

namespace Scientific

def value (s : Scientific) : ℚ := s.digits * 10 ^ s.exponent

theorem value_of_zero {s : Scientific} (h : s.digits = 0) : s.value = 0 := by
  rw [value, h, Nat.cast_zero, zero_mul]

/-- The decimal as a quotient. -/
def ratio (s : Scientific) : Nat × Nat :=
  match s.exponent with
  | .ofNat power => (s.digits * Nat.pow 10 power, 1)
  | .negSucc power => (s.digits, Nat.pow 10 (power + 1))

theorem magnitude?_eq (s : Scientific) : s.magnitude? = Magnitude.ofRatio? s.ratio.1 s.ratio.2 := by
  obtain ⟨digits, exponent⟩ := s
  unfold magnitude? Magnitude.ofDecimal?
  cases exponent with
  | ofNat power =>
      have hWhole : 0 ≤ Int.ofNat power := Int.natCast_nonneg power
      simp only [hWhole, if_true]
      rfl
  | negSucc power =>
      have hPlaces : ¬ 0 ≤ Int.negSucc power := Int.not_le.mpr (Int.negSucc_lt_zero power)
      simp only [hPlaces, if_false]
      rfl

theorem ratio_pos (s : Scientific) : 0 < s.ratio.2 := by
  unfold ratio
  split
  · exact Nat.one_pos
  · exact Nat.pow_pos (by decide)

theorem value_eq_ratio (s : Scientific) : s.value = s.ratio.1 / s.ratio.2 := by
  obtain ⟨digits, exponent⟩ := s
  cases exponent with
  | ofNat power => simp [value, ratio]
  | negSucc power => simp [value, ratio, zpow_negSucc, div_eq_mul_inv]

/-- The magnitude that is nearest to a decimal depends on its value alone. -/
theorem magnitude?_congr {s t : Scientific} (h : s.value = t.value) :
    s.magnitude? = t.magnitude? := by
  rw [magnitude?_eq, magnitude?_eq]
  refine Magnitude.ofRatio?_of_cross s.ratio_pos t.ratio_pos ?_
  have hs : (s.ratio.2 : ℚ) ≠ 0 := Nat.cast_ne_zero.mpr (Nat.ne_of_gt s.ratio_pos)
  have ht : (t.ratio.2 : ℚ) ≠ 0 := Nat.cast_ne_zero.mpr (Nat.ne_of_gt t.ratio_pos)
  rw [value_eq_ratio, value_eq_ratio, div_eq_div_iff hs ht] at h
  exact_mod_cast h

theorem magnitude?_places (digits places : Nat) :
    magnitude? ⟨digits, -(places : Int)⟩ = Magnitude.ofRatio? digits (Nat.pow 10 places) := by
  rw [magnitude?_eq]
  cases places with
  | zero => exact congrArg (Magnitude.ofRatio? · 1) (Nat.mul_one digits)
  | succ places => rfl

theorem value_dropZeros (s : Scientific) (steps : Nat) : (s.dropZeros steps).value = s.value := by
  induction steps generalizing s with
  | zero => rfl
  | succ steps ih =>
      rw [dropZeros]
      split
      · rename_i hZero
        have hWhole : s.digits = s.digits / 10 * 10 := by omega
        have hDigits : (s.digits : ℚ) = (s.digits / 10 : Nat) * 10 := by exact_mod_cast hWhole
        rw [ih, value, value, hDigits, zpow_add_one₀ (by decide)]
        ring
      · rfl

end Scientific

namespace Magnitude

theorem ofRatio?_places (units places : Nat) :
    ofRatio? (units * Nat.pow 5 places) (Nat.pow 10 places) =
      ofRatio? units (Nat.pow 2 places) := by
  have hTen : Nat.pow 10 places = Nat.pow 2 places * Nat.pow 5 places := Nat.mul_pow 2 5 places
  rw [hTen]
  exact ofRatio?_mul _ _ (Nat.pow_pos (by decide))

/-- That the exact value reads back has nothing to do with how small a unit is. -/
theorem magnitude?_exact {m : Magnitude} (h : m.IsCanonical) : m.exact.magnitude? = some m := by
  have hUnits := ofRatio?_units h
  have hPlaces : (-1074 : Int) = -(1074 : Nat) := rfl
  unfold unitsPerOne at hUnits
  rw [exact, hPlaces]
  generalize 1074 = places at hUnits ⊢
  rw [Scientific.magnitude?_places, ofRatio?_places, hUnits]

theorem magnitude?_onGrid {m : Magnitude} {tie : Tie} {exponent : Int} {found : Scientific}
    (h : m.onGrid? tie exponent = some found) : found.magnitude? = some m := by
  unfold onGrid? at h
  generalize m.inSteps exponent = ratio at h
  obtain ⟨num, den⟩ := ratio
  dsimp only at h
  split at h
  · rename_i hBelow hAbove
    cases h
    rcases divideToNearest_cases tie num den with hDigits | hDigits
    · rw [hDigits]
      exact beq_iff_eq.mp hBelow
    · rw [hDigits]
      exact beq_iff_eq.mp hAbove
  · rename_i hBelow _
    cases h
    exact beq_iff_eq.mp hBelow
  · rename_i _ hAbove
    cases h
    exact beq_iff_eq.mp hAbove
  · cases h

theorem magnitude?_shortest {m : Magnitude} (h : m.IsCanonical) (tie : Tie) :
    (m.shortest tie).magnitude? = some m := by
  unfold shortest
  dsimp only
  split
  · rename_i found hFound
    obtain ⟨more, -, hGrid⟩ := List.exists_of_findSome?_eq_some hFound
    rw [Scientific.magnitude?_congr (found.value_dropZeros 17)]
    exact magnitude?_onGrid hGrid
  · exact magnitude?_exact h

end Magnitude

/-- What stands before a mark, and what stands behind it. -/
def splitAtMark (mark : Char) (text : List Char) : List Char × List Char :=
  (text.takeWhile (· ≠ mark), (text.dropWhile (· ≠ mark)).drop 1)

theorem splitAtMark_append {mark : Char} {before : List Char} (h : mark ∉ before)
    (after : List Char) : splitAtMark mark (before ++ mark :: after) = (before, after) := by
  have hBefore : ∀ c ∈ before, decide (c ≠ mark) = true := fun c hc =>
    decide_eq_true (ne_of_mem_of_not_mem hc h)
  rw [splitAtMark, List.takeWhile_append_of_pos hBefore, List.dropWhile_append_of_pos hBefore]
  simp

theorem splitAtMark_of_notMem {mark : Char} {text : List Char} (h : mark ∉ text) :
    splitAtMark mark text = (text, []) := by
  have hText : ∀ c ∈ text, decide (c ≠ mark) = true := fun c hc =>
    decide_eq_true (ne_of_mem_of_not_mem hc h)
  rw [splitAtMark, List.takeWhile_eq_self_iff.mpr hText, List.dropWhile_eq_nil_iff.mpr hText]
  rfl

/-- Digits and nothing else, so that no mark is among them. -/
def AllDigits (digits : List Char) : Prop :=
  ∀ c ∈ digits, c.isDigit = true

theorem AllDigits.notMem {digits : List Char} (h : AllDigits digits) {mark : Char}
    (hMark : mark.isDigit = false) : mark ∉ digits := fun hMem =>
  Bool.eq_false_iff.mp hMark (h mark hMem)

theorem allDigits_toDigits (number : Nat) : AllDigits (Nat.toDigits 10 number) := fun _ hc =>
  Nat.isDigit_of_mem_toDigits (by decide) (by decide) hc

theorem AllDigits.append {left right : List Char} (hLeft : AllDigits left)
    (hRight : AllDigits right) : AllDigits (left ++ right) :=
  List.forall_mem_append.mpr ⟨hLeft, hRight⟩

theorem allDigits_zeros (count : Nat) : AllDigits (List.replicate count '0') := fun c hc => by
  rw [List.eq_of_mem_replicate hc]
  rfl

theorem AllDigits.take {digits : List Char} (h : AllDigits digits) (count : Nat) :
    AllDigits (digits.take count) := fun c hc => h c (List.mem_of_mem_take hc)

theorem AllDigits.drop {digits : List Char} (h : AllDigits digits) (count : Nat) :
    AllDigits (digits.drop count) := fun c hc => h c (List.mem_of_mem_drop hc)

/-- Digits, the first of them before a point if there is one. -/
structure IsMantissa (text : List Char) : Prop where
  begins : ∃ c more, text = c :: more ∧ c.isDigit = true
  chars : ∀ c ∈ text, c.isDigit = true ∨ c = '.'

theorem IsMantissa.notMem {text : List Char} (h : IsMantissa text) : 'e' ∉ text := fun hMem =>
  (h.chars 'e' hMem).elim (by decide) (by decide)

theorem isMantissa_digits {digits : List Char} (h : AllDigits digits) (hSome : digits ≠ []) :
    IsMantissa digits := by
  obtain ⟨c, more, rfl⟩ := List.exists_cons_of_ne_nil hSome
  exact ⟨⟨c, more, rfl, h c List.mem_cons_self⟩, fun c hc => .inl (h c hc)⟩

theorem isMantissa_point {whole places : List Char} (hWhole : AllDigits whole)
    (hSome : whole ≠ []) (hPlaces : AllDigits places) : IsMantissa (whole ++ '.' :: places) := by
  obtain ⟨c, more, rfl⟩ := List.exists_cons_of_ne_nil hSome
  refine ⟨⟨c, _, rfl, hWhole c List.mem_cons_self⟩, fun c hc => ?_⟩
  rcases List.mem_append.mp hc with hc | hc
  · exact .inl (hWhole c hc)
  · rcases List.mem_cons.mp hc with rfl | hc
    · exact .inr rfl
    · exact .inl (hPlaces c hc)

namespace Scientific

/-- The number that an exponent with its sign writes. -/
def exponentValue : List Char → Int
  | '-' :: digits => -(Nat.ofDigitChars 10 digits 0 : Nat)
  | '+' :: digits => (Nat.ofDigitChars 10 digits 0 : Nat)
  | _ => 0

/-- The decimal that a text writes: digits with a point, an exponent or both. -/
def ofText (text : List Char) : Scientific :=
  let (mantissa, exponent) := splitAtMark 'e' text
  let (whole, places) := splitAtMark '.' mantissa
  ⟨Nat.ofDigitChars 10 (whole ++ places) 0, exponentValue exponent - places.length⟩

theorem ofText_digits {digits : List Char} (h : AllDigits digits) :
    ofText digits = ⟨Nat.ofDigitChars 10 digits 0, 0⟩ := by
  simp [ofText, splitAtMark_of_notMem (h.notMem (show 'e'.isDigit = false by decide)),
    splitAtMark_of_notMem (h.notMem (show '.'.isDigit = false by decide)), exponentValue]

theorem ofText_point {whole places : List Char} (hWhole : AllDigits whole)
    (hPlaces : AllDigits places) :
    ofText (whole ++ '.' :: places) =
      ⟨Nat.ofDigitChars 10 (whole ++ places) 0, -(places.length : Int)⟩ := by
  have hLetter : 'e' ∉ whole ++ '.' :: places := by
    simp [hWhole.notMem (show 'e'.isDigit = false by decide),
      hPlaces.notMem (show 'e'.isDigit = false by decide)]
  simp [ofText, splitAtMark_of_notMem hLetter,
    splitAtMark_append (hWhole.notMem (show '.'.isDigit = false by decide)), exponentValue]

theorem ofText_exponent {mantissa : List Char} (h : 'e' ∉ mantissa) (exponent : List Char) :
    ofText (mantissa ++ 'e' :: exponent) =
      ⟨(ofText mantissa).digits, (ofText mantissa).exponent + exponentValue exponent⟩ := by
  simp only [ofText, splitAtMark_append h, splitAtMark_of_notMem h, exponentValue]
  congr 1
  omega

theorem exponentValue_signed (exponent : Int) :
    exponentValue ((if exponent < 0 then '-' else '+') :: Nat.toDigits 10 exponent.natAbs) =
      exponent := by
  split
  · rw [exponentValue, Nat.ofDigitChars_ten_toDigits]
    omega
  · rw [exponentValue, Nat.ofDigitChars_ten_toDigits]
    omega

/-- One digit stands before the point, if there is a point at all. -/
theorem exists_mantissa {digits : List Char} (h : AllDigits digits) (hSome : digits ≠ [])
    (exponent : Int) :
    ∃ mantissa, IsMantissa mantissa ∧
      withExponent digits exponent = mantissa ++ 'e' ::
        ((if exponent < 0 then '-' else '+') :: Nat.toDigits 10 exponent.natAbs) ∧
      ofText mantissa = ⟨Nat.ofDigitChars 10 digits 0, 1 - (digits.length : Int)⟩ := by
  unfold withExponent
  match digits with
  | [] => exact absurd rfl hSome
  | [digit] => exact ⟨[digit], isMantissa_digits h hSome, List.append_assoc .., ofText_digits h⟩
  | digit :: next :: more =>
      obtain ⟨hDigit, hMore⟩ := List.forall_mem_cons.mp h
      have hWhole : AllDigits [digit] := List.forall_mem_singleton.mpr hDigit
      have hPlaces : -((next :: more).length : Int) =
          1 - ((digit :: next :: more).length : Int) := by
        simp only [List.length_cons]
        omega
      refine ⟨[digit] ++ '.' :: next :: more, isMantissa_point hWhole (by simp) hMore,
        List.append_assoc .., ?_⟩
      rw [ofText_point hWhole hMore, hPlaces]
      rfl

section Layouts

variable {s : Scientific} {digits : List Char} {before : Int}
  (hDigits : digits = Nat.toDigits 10 s.digits) (hBefore : before = digits.length + s.exponent)

include hDigits

theorem allDigits_digits : AllDigits digits :=
  hDigits ▸ allDigits_toDigits s.digits

theorem ofDigitChars_digits : Nat.ofDigitChars 10 digits 0 = s.digits := by
  rw [hDigits, Nat.ofDigitChars_ten_toDigits]

include hBefore

/-- The point stands before all digits, with zeros between. -/
theorem ofText_pointBefore (h : before ≤ 0) :
    ofText (['0'] ++ '.' :: (List.replicate (-before).toNat '0' ++ digits)) = s := by
  have hZero : AllDigits ['0'] := allDigits_zeros 1
  have hPlaces := (allDigits_zeros (-before).toNat).append (allDigits_digits hDigits)
  have hExponent : -((List.replicate (-before).toNat '0' ++ digits).length : Int) = s.exponent := by
    rw [List.length_append, List.length_replicate]
    omega
  rw [ofText_point hZero hPlaces, hExponent]
  simp [Nat.ofDigitChars_append, Nat.ofDigitChars_cons, Nat.ofDigitChars_replicate_zero,
    ofDigitChars_digits hDigits]

/-- The point stands behind all digits and zeros. The decimal place counts as one more digit. -/
theorem value_ofText_pointBehind (h : digits.length ≤ before.toNat) (hPositive : 0 < before) :
    (ofText (digits ++ List.replicate (before.toNat - digits.length) '0' ++ '.' :: ['0'])).value =
      s.value := by
  have hWhole := (allDigits_digits hDigits).append
    (allDigits_zeros (before.toNat - digits.length))
  have hZero : AllDigits ['0'] := allDigits_zeros 1
  have hPower : s.exponent = (before.toNat - digits.length : Nat) := by omega
  rw [ofText_point hWhole hZero, value, value, hPower]
  generalize before.toNat - digits.length = power
  simp [Nat.ofDigitChars_append, Nat.ofDigitChars_cons, Nat.ofDigitChars_replicate_zero,
    ofDigitChars_digits hDigits]
  ring

/-- The point stands among the digits. -/
theorem ofText_pointAmong (h : ¬ digits.length ≤ before.toNat) (hPositive : 0 < before) :
    ofText (digits.take before.toNat ++ '.' :: digits.drop before.toNat) = s := by
  have hAll := allDigits_digits hDigits
  have hWhole := hAll.take before.toNat
  have hPlaces := hAll.drop before.toNat
  have hExponent : -((digits.drop before.toNat).length : Int) = s.exponent := by
    rw [List.length_drop]
    omega
  rw [ofText_point hWhole hPlaces, List.take_append_drop, ofDigitChars_digits hDigits, hExponent]

theorem value_ofText_placePoint : (ofText (placePoint digits before)).value = s.value := by
  unfold placePoint
  split
  · rename_i hSmall
    rw [List.append_assoc]
    exact congrArg value (ofText_pointBefore hDigits hBefore hSmall)
  · rename_i hSmall
    have hPositive : 0 < before := Int.not_le.mp hSmall
    split
    · rename_i hLarge
      exact value_ofText_pointBehind hDigits hBefore hLarge hPositive
    · rename_i hAmong
      rw [List.append_assoc]
      exact congrArg value (ofText_pointAmong hDigits hBefore hAmong hPositive)

theorem ofText_withExponent : ofText (withExponent digits (before - 1)) = s := by
  have hSome : digits ≠ [] := hDigits ▸ Nat.toDigits_ne_nil
  obtain ⟨mantissa, hForm, hText, hMantissa⟩ :=
    exists_mantissa (allDigits_digits hDigits) hSome (before - 1)
  have hExponent : 1 - (digits.length : Int) + (before - 1) = s.exponent := by omega
  rw [hText, ofText_exponent hForm.notMem, hMantissa, exponentValue_signed,
    ofDigitChars_digits hDigits, hExponent]

end Layouts

end Scientific

namespace Magnitude

/-- The text of a magnitude writes a decimal that is rounded to it. -/
theorem magnitude?_ofText_text {m : Magnitude} (h : m.IsCanonical) (layout : Notation) :
    (Scientific.ofText (m.text layout)).magnitude? = some m := by
  unfold text
  split
  · rename_i hZero
    have hText : Scientific.ofText ['0', '.', '0'] = ⟨0, -1⟩ := by decide
    have hUnits : m.units = 0 := by rw [units, hZero, Nat.zero_mul]
    have hExact : m.exact.value = 0 := Scientific.value_of_zero (Nat.mul_eq_zero.mpr (.inl hUnits))
    rw [hText, Scientific.magnitude?_congr ((Scientific.value_of_zero rfl).trans hExact.symm)]
    exact magnitude?_exact h
  · dsimp only
    split
    · rw [Scientific.magnitude?_congr (Scientific.value_ofText_placePoint rfl rfl)]
      exact magnitude?_shortest h layout.tie
    · rw [Scientific.ofText_withExponent rfl rfl]
      exact magnitude?_shortest h layout.tie

/-- No two magnitudes have one text. -/
theorem text_injective {m other : Magnitude} (h : m.IsCanonical) (hOther : other.IsCanonical)
    {layout : Notation} (hText : m.text layout = other.text layout) : m = other := by
  have hRead := magnitude?_ofText_text h layout
  rw [hText, magnitude?_ofText_text hOther layout] at hRead
  exact (Option.some.inj hRead).symm

end Magnitude

/-- The characters that numbers are written with. -/
def IsNumberChar (c : Char) : Prop :=
  c.isDigit = true ∨ c ∈ ['.', 'e', '+', '-']

instance (c : Char) : Decidable (IsNumberChar c) :=
  inferInstanceAs (Decidable (_ ∨ _))

/-- The form of a number that is not whole: a digit comes first, and a point or an exponent shows
that it is not whole. -/
structure IsFractional (text : List Char) : Prop where
  begins : ∃ c more, text = c :: more ∧ c.isDigit = true
  marked : '.' ∈ text ∨ 'e' ∈ text
  chars : ∀ c ∈ text, IsNumberChar c

theorem IsMantissa.isNumberChar {text : List Char} (h : IsMantissa text) :
    ∀ c ∈ text, IsNumberChar c := fun c hc => by
  rcases h.chars c hc with hDigit | rfl
  · exact .inl hDigit
  · decide

theorem isFractional_point {whole places : List Char} (hWhole : AllDigits whole)
    (hSome : whole ≠ []) (hPlaces : AllDigits places) :
    IsFractional (whole ++ '.' :: places) := by
  have hMantissa := isMantissa_point hWhole hSome hPlaces
  exact ⟨hMantissa.begins, .inl (by simp), hMantissa.isNumberChar⟩

section Layouts

variable {digits : List Char} (h : AllDigits digits) (hSome : digits ≠ [])

include h hSome

/-- A digit stands before the point, wherever it is placed. -/
theorem exists_point (before : Int) :
    ∃ whole places, placePoint digits before = whole ++ '.' :: places ∧ AllDigits whole ∧
      whole ≠ [] ∧ AllDigits places := by
  unfold placePoint
  split
  · exact ⟨['0'], _, List.append_assoc .., allDigits_zeros 1, by simp,
      (allDigits_zeros _).append h⟩
  · rename_i hPositive
    split
    · exact ⟨_, ['0'], rfl, h.append (allDigits_zeros _), by simp [hSome], allDigits_zeros 1⟩
    · have hFirst : digits.take before.toNat ≠ [] := by
        simp only [ne_eq, List.take_eq_nil_iff, hSome, or_false]
        omega
      exact ⟨_, _, List.append_assoc .., h.take before.toNat, hFirst, h.drop before.toNat⟩

theorem isFractional_placePoint (before : Int) : IsFractional (placePoint digits before) := by
  obtain ⟨whole, places, hText, hWhole, hFirst, hPlaces⟩ := exists_point h hSome before
  rw [hText]
  exact isFractional_point hWhole hFirst hPlaces

theorem isFractional_withExponent (exponent : Int) :
    IsFractional (withExponent digits exponent) := by
  obtain ⟨mantissa, hForm, hText, -⟩ := Scientific.exists_mantissa h hSome exponent
  obtain ⟨c, more, hFirst, hDigit⟩ := hForm.begins
  rw [hText]
  refine ⟨⟨c, _, by rw [hFirst]; rfl, hDigit⟩, .inr (by simp), fun c hc => ?_⟩
  rcases List.mem_append.mp hc with hc | hc
  · exact hForm.isNumberChar c hc
  · rcases List.mem_cons.mp hc with rfl | hc
    · decide
    · rcases List.mem_cons.mp hc with rfl | hc
      · split <;> decide
      · exact .inl (allDigits_toDigits _ c hc)

end Layouts

theorem isFractional_text (layout : Notation) (m : Magnitude) : IsFractional (m.text layout) := by
  unfold Magnitude.text
  split
  · have hZero := allDigits_zeros 1
    exact isFractional_point hZero (by simp) hZero
  · dsimp only
    split
    · exact isFractional_placePoint (allDigits_toDigits _) Nat.toDigits_ne_nil _
    · exact isFractional_withExponent (allDigits_toDigits _) Nat.toDigits_ne_nil _

namespace Double

theorem toList_text (layout : Notation) (x : Double) :
    (x.text layout).toList = (if x.negative then ['-'] else []) ++ x.magnitude.text layout :=
  String.toList_ofList

/-- No two numbers of the format have one text. -/
theorem text_injective {x y : Double} (hx : x.magnitude.IsCanonical) (hy : y.magnitude.IsCanonical)
    {layout : Notation} (hText : x.text layout = y.text layout) : x = y := by
  have hChars := congrArg String.toList hText
  rw [toList_text, toList_text] at hChars
  obtain ⟨negative, m⟩ := x
  obtain ⟨otherNegative, other⟩ := y
  -- A digit comes first where no sign does.
  have hUnsigned (m other : Magnitude) : '-' :: m.text layout ≠ other.text layout := by
    intro hSame
    obtain ⟨c, more, hFirst, hDigit⟩ := (isFractional_text layout other).begins
    rw [hFirst] at hSame
    rw [← (List.cons.inj hSame).1] at hDigit
    cases hDigit
  cases negative with
  | false =>
      cases otherNegative with
      | false => exact congrArg (Double.mk false) (Magnitude.text_injective hx hy hChars)
      | true => exact absurd hChars.symm (hUnsigned other m)
  | true =>
      cases otherNegative with
      | false => exact absurd hChars (hUnsigned m other)
      | true =>
          have hTexts := (List.cons.inj hChars).2
          exact congrArg (Double.mk true) (Magnitude.text_injective hx hy hTexts)

theorem exists_first_text (layout : Notation) (x : Double) :
    ∃ c more, (x.text layout).toList = c :: more ∧ (c = '-' ∨ c.isDigit = true) := by
  obtain ⟨c, more, hText, hDigit⟩ := (isFractional_text layout x.magnitude).begins
  rw [toList_text]
  split
  · exact ⟨'-', _, rfl, .inl rfl⟩
  · exact ⟨c, more, hText, .inr hDigit⟩

theorem isNumberChar_of_mem_text {layout : Notation} {x : Double} :
    ∀ c ∈ (x.text layout).toList, IsNumberChar c := by
  intro c hc
  rw [toList_text] at hc
  rcases List.mem_append.mp hc with hSign | hText
  · split at hSign
    · cases List.mem_singleton.mp hSign
      decide
    · cases hSign
  · exact (isFractional_text layout x.magnitude).chars c hText

theorem mark_mem_text (layout : Notation) (x : Double) :
    '.' ∈ (x.text layout).toList ∨ 'e' ∈ (x.text layout).toList := by
  rw [toList_text]
  exact (isFractional_text layout x.magnitude).marked.imp (List.mem_append_right _)
    (List.mem_append_right _)

end Double

end ResponsiveImages.Decimal
