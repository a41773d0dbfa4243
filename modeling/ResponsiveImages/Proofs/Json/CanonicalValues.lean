import ResponsiveImages.Proofs.Json.UniqueText
import ResponsiveImages.Proofs.Results

/-! Whatever is read has its numbers in the form in which they are kept. -/
namespace ResponsiveImages.Json.Reader

open Text (isAsciiDigit)
open Decimal (Magnitude)

/-- Whatever the reader takes has the property. -/
def Yields {α : Type} (reader : Reader α) (property : α → Prop) : Prop :=
  ∀ cs read rest, reader cs = .ok (read, rest) → property read

/-- Stated for the function as a whole. With arguments, the check of the equation would evaluate a
scaling. -/
theorem scaledNumber_eq :
    scaledNumber = fun negative significand exponent rest =>
      match Magnitude.scaled? significand exponent with
      | some magnitude => .ok (.double ⟨negative, magnitude⟩, rest)
      | none => failBefore .numberOutOfRange rest :=
  rfl

theorem isCanonical_zero : Magnitude.zero.IsCanonical := by decide

section Numbers

variable (negative : Bool) (significand : Nat) (base : Int)

theorem yields_scaledNumber :
    Yields (scaledNumber negative significand base) Number.IsCanonical := by
  intro cs read rest h
  rw [scaledNumber_eq] at h
  dsimp only at h
  cases hScaled : Magnitude.scaled? significand base with
  | none =>
      rw [hScaled] at h
      cases h
  | some m =>
      rw [hScaled] at h
      cases h
      exact Magnitude.isCanonical_of_scaled? hScaled

theorem yields_exponentDigits (below : Bool) (value : Nat) :
    Yields (exponentDigits negative significand base below value) Number.IsCanonical := by
  intro cs read rest h
  induction cs generalizing value with
  | nil => exact yields_scaledNumber _ _ _ _ _ _ h
  | cons c cs ih =>
      unfold exponentDigits at h
      dsimp only at h
      split at h
      · split at h
        · exact ih _ h
        · split at h
          · cases h
          · cases h
            exact isCanonical_zero
      · exact yields_scaledNumber _ _ _ _ _ _ h

theorem yields_exponent : Yields (exponent negative significand base) Number.IsCanonical := by
  intro cs read rest h
  obtain ⟨below, digits, hDigits⟩ : ∃ below digits, exponent negative significand base cs =
      match digits with
      | [] => failBefore .endInValue []
      | c :: rest =>
        if isAsciiDigit c then
          exponentDigits negative significand base below (c.toNat - '0'.toNat) rest
        else failAt .invalidNumber (c :: rest) := ⟨_, _, rfl⟩
  rw [hDigits] at h
  cases digits with
  | nil => cases h
  | cons c digits =>
      dsimp only at h
      split at h
      · exact yields_exponentDigits _ _ _ _ _ _ _ _ h
      · cases h

theorem yields_optionalExponent :
    Yields (optionalExponent negative significand base) Number.IsCanonical := by
  intro cs read rest h
  unfold optionalExponent at h
  split at h
  · exact yields_exponent _ _ _ _ _ _ h
  · exact yields_exponent _ _ _ _ _ _ h
  · exact yields_scaledNumber _ _ _ _ _ _ h

theorem yields_fraction : Yields (fraction negative significand base) Number.IsCanonical := by
  intro cs read rest h
  unfold fraction at h
  dsimp only at h
  split at h
  · split at h
    · cases h
    · exact yields_scaledNumber _ _ _ _ _ _ h
  · split at h
    · exact yields_optionalExponent _ _ _ _ _ _ h
    · split at h
      · cases h
      · exact yields_optionalExponent _ _ _ _ _ _ h

theorem isCanonical_wholeNumber : (wholeNumber negative significand).IsCanonical := by
  unfold wholeNumber
  split
  · trivial
  · split
    · trivial
    · show Magnitude.IsCanonical _
      cases hWhole : Magnitude.ofRatio? significand 1 with
      | none => exact isCanonical_zero
      | some m => exact Magnitude.isCanonical_of_ofRatio? hWhole

theorem yields_afterWhole : Yields (afterWhole negative significand) Number.IsCanonical := by
  intro cs read rest h
  unfold afterWhole at h
  split at h
  · exact yields_fraction _ _ _ _ _ _ h
  · exact yields_exponent _ _ _ _ _ _ h
  · exact yields_exponent _ _ _ _ _ _ h
  · cases h
    exact isCanonical_wholeNumber _ _

theorem yields_longWhole : Yields (longWhole negative significand) Number.IsCanonical := by
  intro cs read rest h
  unfold longWhole at h
  dsimp only at h
  split at h
  · exact yields_fraction _ _ _ _ _ _ h
  · exact yields_optionalExponent _ _ _ _ _ _ h

theorem yields_unsignedNumber : Yields (unsignedNumber negative) Number.IsCanonical := by
  intro cs read rest h
  unfold unsignedNumber at h
  split at h
  · cases h
  · split at h
    · split at h
      · cases h
      · exact yields_afterWhole _ _ _ _ _ h
    · exact yields_afterWhole _ _ _ _ _ h
  · split at h
    · split at h
      · exact yields_afterWhole _ _ _ _ _ h
      · split at h
        · exact yields_longWhole _ _ _ _ _ h
        · exact yields_afterWhole _ _ _ _ _ h
    · cases h

end Numbers

theorem yields_number : Yields number Number.IsCanonical := by
  intro cs read rest h
  unfold number at h
  split at h
  · exact yields_unsignedNumber _ _ _ _ h
  · exact yields_unsignedNumber _ _ _ _ h

section Entries

variable {α : Type} {property : α → Prop} {entry : Reader α}

theorem yields_entriesFrom (h : Yields entry property) (closing : Char)
    (unclosed uncommaed : Fault) (fuel : Nat) (first : Bool) :
    Yields (entriesFrom closing unclosed uncommaed entry fuel first)
      (fun entries => ∀ entry ∈ entries, property entry) := by
  intro cs entries rest hRead
  induction fuel generalizing first cs entries rest with
  | zero => cases hRead
  | succ fuel ih =>
      -- An entry and those behind it, wherever the first one begins.
      have hEntry (cs : List Char)
          (hEntries : (do
            let read ← entry cs
            let more ← entriesFrom closing unclosed uncommaed entry fuel false read.2
            Except.ok (read.1 :: more.1, more.2)) = .ok (entries, rest)) :
          ∀ entry ∈ entries, property entry := by
        obtain ⟨⟨read, behind⟩, hFirst, hBehind⟩ := bind_eq_ok.mp hEntries
        obtain ⟨⟨more, left⟩, hMore, hSame⟩ := bind_eq_ok.mp hBehind
        cases hSame
        exact List.forall_mem_cons.mpr ⟨h _ _ _ hFirst, ih _ _ _ _ hMore⟩
      unfold entriesFrom at hRead
      dsimp only at hRead
      split at hRead
      · cases hRead
      · split at hRead
        · cases hRead
          exact List.forall_mem_nil _
        · split at hRead
          · exact hEntry _ hRead
          · split at hRead
            · split at hRead
              · cases hRead
              · split at hRead
                · cases hRead
                · exact hEntry _ hRead
            · cases hRead

theorem yields_items (h : Yields entry property) :
    Yields (items entry) (fun entries => ∀ entry ∈ entries, property entry) :=
  fun cs => yields_entriesFrom h ']' .endInList .expectedListComma (cs.length + 1) true cs

theorem yields_member {κ : Type} (key : Reader κ) (h : Yields entry property) :
    Yields (member key entry) (fun read => property read.2) := by
  intro cs read rest hRead
  unfold member at hRead
  split at hRead
  · obtain ⟨⟨name, behind⟩, -, hRead⟩ := bind_eq_ok.mp hRead
    obtain ⟨⟨⟨⟩, behind⟩, -, hRead⟩ := bind_eq_ok.mp hRead
    obtain ⟨⟨value, behind⟩, hValue, hSame⟩ := bind_eq_ok.mp hRead
    cases hSame
    exact h _ _ _ hValue
  · cases hRead

theorem yields_members {κ : Type} (key : Reader κ) (h : Yields entry property) :
    Yields (members key entry) (fun entries => ∀ read ∈ entries, property read.2) :=
  fun cs => yields_entriesFrom (yields_member key h) '\x7d' .endInObject .expectedObjectComma
    (cs.length + 1) true cs

end Entries

theorem yields_valueWith {nested? : Option (Reader Json)}
    (h : ∀ nested, nested? = some nested → Yields nested Json.IsCanonical) :
    Yields (valueWith nested?) Json.IsCanonical := by
  intro cs read rest hRead
  unfold valueWith at hRead
  split at hRead
  · cases hRead
  · obtain ⟨⟨⟨⟩, behind⟩, -, hSame⟩ := bind_eq_ok.mp hRead
    cases hSame
    exact .null
  · obtain ⟨⟨⟨⟩, behind⟩, -, hSame⟩ := bind_eq_ok.mp hRead
    cases hSame
    exact .bool true
  · obtain ⟨⟨⟨⟩, behind⟩, -, hSame⟩ := bind_eq_ok.mp hRead
    cases hSame
    exact .bool false
  · obtain ⟨⟨text, behind⟩, -, hSame⟩ := bind_eq_ok.mp hRead
    cases hSame
    exact .string text
  · split at hRead
    · cases hRead
    · rename_i nested
      obtain ⟨⟨entries, behind⟩, hItems, hSame⟩ := bind_eq_ok.mp hRead
      cases hSame
      exact .array (yields_items (h nested rfl) _ _ _ hItems)
  · split at hRead
    · cases hRead
    · rename_i nested
      obtain ⟨⟨entries, behind⟩, hMembers, hSame⟩ := bind_eq_ok.mp hRead
      cases hSame
      exact .object (Members.isCanonical_ofList (yields_members _ (h nested rfl) _ _ _ hMembers))
  · split at hRead
    · obtain ⟨⟨value, behind⟩, hNumber, hSame⟩ := bind_eq_ok.mp hRead
      cases hSame
      exact .number (yields_number _ _ _ hNumber)
    · cases hRead

/-- Whatever is read has its numbers in the form in which they are kept. -/
theorem yields_value (depth : Nat) : Yields (value depth) Json.IsCanonical := by
  induction depth with
  | zero => exact yields_valueWith fun _ hNone => by cases hNone
  | succ depth ih =>
      refine yields_valueWith fun nested hNested => ?_
      cases hNested
      exact ih

end ResponsiveImages.Json.Reader
