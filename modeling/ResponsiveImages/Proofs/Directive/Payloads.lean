import Mathlib.Data.List.Forall2
import Mathlib.Data.List.TakeWhile
import ResponsiveImages.Directive.Payload

/-! Where a text has a payload for a key. The first occurrence of the key with brackets behind it
counts, and its payload runs to the last closing bracket of the line. -/
namespace ResponsiveImages.Directive

open Text (isBlank)

/-- A word is the name, letter by letter and in any case. -/
def Spells (name word : List Char) : Prop :=
  List.Forall₂ (fun letter c => isCaseOf letter c = true) name word

/-- The text begins with the key, an equals sign and the opening bracket, with blanks in between.
The rest is what follows the bracket. -/
def Opens (key : Key) (text rest : List Char) : Prop :=
  ∃ word before after,
    text = word ++ before ++ '=' :: (after ++ key.opening :: rest) ∧
    Spells key.name.toList word ∧
    (∀ c ∈ before, isBlank c = true) ∧ ∀ c ∈ after, isBlank c = true

/-- The key and an opening bracket begin the text, and a closing bracket follows on the same line as
the opening one. -/
def Occurs (key : Key) (text : List Char) : Prop :=
  ∃ inside rest, Opens key text (inside ++ key.closing :: rest) ∧ '\n' ∉ inside

/-- The payload of a key that begins the text: from the opening bracket to the last closing bracket
in front of the next line feed. -/
def HoldsPayload (key : Key) (text payload : List Char) : Prop :=
  ∃ inside rest, Opens key text (inside ++ key.closing :: rest) ∧ '\n' ∉ inside ∧
    key.closing ∉ rest.takeWhile (· ≠ '\n') ∧ payload = key.opening :: (inside ++ [key.closing])

/-- The payload that a text has for a key is that of the first occurrence. -/
def Takes (key : Key) (text payload : List Char) : Prop :=
  ∃ before rest, text = before ++ rest ∧ HoldsPayload key rest payload ∧
    ∀ earlier later, text = earlier ++ later → earlier.length < before.length → ¬ Occurs key later

theorem Key.isBlank_opening (key : Key) : isBlank key.opening = false := by
  cases key <;> decide

theorem Key.closing_ne_lineFeed (key : Key) : key.closing ≠ '\n' := by
  cases key <;> decide

theorem afterKey_eq_some_iff {name text rest : List Char} :
    afterKey name text = some rest ↔ ∃ word, text = word ++ rest ∧ Spells name word := by
  induction name generalizing text with
  | nil => simp [afterKey, Spells]
  | cons letter letters ih =>
      cases text with
      | nil => simp [afterKey, Spells]
      | cons c cs =>
          rw [afterKey]
          constructor
          · intro h
            split at h
            · rename_i hCase
              obtain ⟨word, rfl, hWord⟩ := ih.mp h
              exact ⟨c :: word, rfl, .cons hCase hWord⟩
            · cases h
          · rintro ⟨word, hText, hWord⟩
            cases hWord with
            | cons hCase hWord =>
                cases hText
                rw [if_pos hCase]
                exact ih.mpr ⟨_, rfl, hWord⟩

theorem afterBlanks_eq_some_iff {expected : Char} (hExpected : isBlank expected = false)
    {text rest : List Char} :
    afterBlanks expected text = some rest ↔
      ∃ blanks, text = blanks ++ expected :: rest ∧ ∀ c ∈ blanks, isBlank c = true := by
  constructor
  · intro h
    rw [afterBlanks] at h
    split at h
    · cases h
    · rename_i c more hDrop
      split at h
      · rename_i hEq
        cases h
        refine ⟨text.takeWhile isBlank, ?_, fun c hc => List.mem_takeWhile_imp hc⟩
        rw [← hEq, ← hDrop, List.takeWhile_append_dropWhile]
      · cases h
  · rintro ⟨blanks, rfl, hBlanks⟩
    rw [afterBlanks, List.dropWhile_append_of_pos hBlanks,
      List.dropWhile_cons_of_neg (by simp [hExpected])]
    simp

theorem throughLast_eq_none {last : Char} {text : List Char} (h : last ∉ text) :
    throughLast last text = none := by
  induction text with
  | nil => rfl
  | cons c cs ih =>
      rw [List.mem_cons, not_or] at h
      rw [throughLast, ih h.2]
      exact if_neg (Ne.symm h.1)

theorem throughLast_append {last : Char} (inside : List Char) {rest : List Char} (h : last ∉ rest) :
    throughLast last (inside ++ last :: rest) = some (inside ++ [last]) := by
  induction inside with
  | nil => simp [throughLast, throughLast_eq_none h]
  | cons c cs ih => rw [List.cons_append, throughLast, ih, List.cons_append]

/-- If a text holds the character there is a last occurrence of it. -/
theorem exists_last_of_mem {last : Char} {text : List Char} (h : last ∈ text) :
    ∃ inside rest, text = inside ++ last :: rest ∧ last ∉ rest := by
  obtain ⟨behind, before, hText, hBehind⟩ :=
    List.eq_append_cons_of_mem (List.mem_reverse.mpr h)
  refine ⟨before.reverse, behind.reverse, ?_, by simpa using hBehind⟩
  simpa using congrArg List.reverse hText

theorem throughLast_eq_some_iff {last : Char} {text taken : List Char} :
    throughLast last text = some taken ↔
      ∃ inside rest, text = inside ++ last :: rest ∧ last ∉ rest ∧ taken = inside ++ [last] := by
  constructor
  · intro h
    by_cases hMem : last ∈ text
    · obtain ⟨inside, rest, rfl, hRest⟩ := exists_last_of_mem hMem
      rw [throughLast_append inside hRest, Option.some.injEq] at h
      exact ⟨inside, rest, rfl, hRest, h.symm⟩
    · rw [throughLast_eq_none hMem] at h
      cases h
  · rintro ⟨inside, rest, rfl, hRest, rfl⟩
    exact throughLast_append inside hRest

theorem opens_iff {key : Key} {text rest : List Char} :
    (do
      let rest ← afterKey key.name.toList text
      let rest ← afterBlanks '=' rest
      afterBlanks key.opening rest) = some rest ↔ Opens key text rest := by
  simp only [Option.bind_eq_bind, Option.bind_eq_some_iff, afterKey_eq_some_iff,
    afterBlanks_eq_some_iff key.isBlank_opening,
    afterBlanks_eq_some_iff (by decide : isBlank '=' = false)]
  constructor
  · rintro ⟨_, ⟨word, rfl, hWord⟩, _, ⟨before, rfl, hBefore⟩, after, rfl, hAfter⟩
    exact ⟨word, before, after, by simp, hWord, hBefore, hAfter⟩
  · rintro ⟨word, before, after, rfl, hWord, hBefore, hAfter⟩
    exact ⟨_, ⟨word, List.append_assoc .., hWord⟩, _, ⟨before, rfl, hBefore⟩, after, rfl, hAfter⟩

theorem takeWhile_line {closing : Char} (hClosing : closing ≠ '\n') {inside : List Char}
    (hInside : '\n' ∉ inside) (rest : List Char) :
    (inside ++ closing :: rest).takeWhile (· ≠ '\n') =
      inside ++ closing :: rest.takeWhile (· ≠ '\n') := by
  rw [List.takeWhile_append_of_pos fun c hc => by simpa using ne_of_mem_of_not_mem hc hInside,
    List.takeWhile_cons_of_pos (by simpa using hClosing)]

/-- What is taken of a line up to the last closing bracket in it. -/
theorem throughLast_line_iff {closing : Char} (hClosing : closing ≠ '\n') {text taken : List Char} :
    throughLast closing (text.takeWhile (· ≠ '\n')) = some taken ↔
      ∃ inside rest, text = inside ++ closing :: rest ∧ '\n' ∉ inside ∧
        closing ∉ rest.takeWhile (· ≠ '\n') ∧ taken = inside ++ [closing] := by
  rw [throughLast_eq_some_iff]
  constructor
  · rintro ⟨inside, more, hText, hMore, hTaken⟩
    have hInside : '\n' ∉ inside := by
      intro hMem
      have hOther := List.mem_takeWhile_imp (hText ▸ List.mem_append_left _ hMem)
      simp at hOther
    have hSplit : text = inside ++ closing :: (more ++ text.dropWhile (· ≠ '\n')) := by
      conv_lhs => rw [← List.takeWhile_append_dropWhile (p := (· ≠ '\n')) (l := text), hText]
      simp
    refine ⟨inside, _, hSplit, hInside, ?_, hTaken⟩
    have hSame := takeWhile_line hClosing hInside (more ++ text.dropWhile (· ≠ '\n'))
    rw [← hSplit, hText] at hSame
    rw [← (List.cons.inj (List.append_cancel_left hSame)).2]
    exact hMore
  · rintro ⟨inside, rest, rfl, hInside, hRest, hTaken⟩
    exact ⟨inside, _, takeWhile_line hClosing hInside rest, hRest, hTaken⟩

theorem payloadAtStart?_eq_some_iff {key : Key} {text payload : List Char} :
    payloadAtStart? key text = some payload ↔ HoldsPayload key text payload := by
  have hSteps : payloadAtStart? key text =
      (do
        let rest ← afterKey key.name.toList text
        let rest ← afterBlanks '=' rest
        afterBlanks key.opening rest).bind fun rest =>
          (throughLast key.closing (rest.takeWhile (· ≠ '\n'))).map (key.opening :: ·) := by
    simp only [payloadAtStart?, Option.bind_eq_bind, Option.bind_assoc, Option.map_eq_bind]
    rfl
  simp only [hSteps, Option.bind_eq_some_iff, opens_iff, Option.map_eq_some_iff,
    throughLast_line_iff key.closing_ne_lineFeed]
  constructor
  · rintro ⟨_, hOpens, _, ⟨inside, rest, rfl, hInside, hRest, rfl⟩, rfl⟩
    exact ⟨inside, rest, hOpens, hInside, hRest, rfl⟩
  · rintro ⟨inside, rest, hOpens, hInside, hRest, rfl⟩
    exact ⟨_, hOpens, _, ⟨inside, rest, rfl, hInside, hRest, rfl⟩, rfl⟩

/-- A key with brackets behind it has a payload. The closing bracket that shows this need not be the
one that ends the payload. -/
theorem occurs_iff {key : Key} {text : List Char} :
    Occurs key text ↔ ∃ payload, HoldsPayload key text payload := by
  constructor
  · rintro ⟨inside, rest, hOpens, hInside⟩
    have hMem : key.closing ∈ (inside ++ key.closing :: rest).takeWhile (· ≠ '\n') := by
      rw [takeWhile_line key.closing_ne_lineFeed hInside]
      simp
    obtain ⟨before, behind, hLine, hBehind⟩ := exists_last_of_mem hMem
    obtain ⟨taken, more, hText, hTaken, hMore, -⟩ :=
      (throughLast_line_iff key.closing_ne_lineFeed).mp
        ((congrArg _ hLine).trans (throughLast_append before hBehind))
    exact ⟨_, taken, more, hText ▸ hOpens, hTaken, hMore, rfl⟩
  · rintro ⟨_, inside, rest, hOpens, hInside, -, -⟩
    exact ⟨inside, rest, hOpens, hInside⟩

theorem payloadAtStart?_eq_none_iff {key : Key} {text : List Char} :
    payloadAtStart? key text = none ↔ ¬ Occurs key text := by
  rw [occurs_iff, Option.eq_none_iff_forall_ne_some, not_exists]
  simp only [payloadAtStart?_eq_some_iff, ne_eq]

/-- The first position of a text that is not empty is either its start or lies behind it. -/
theorem takes_cons_iff {key : Key} {c : Char} {cs payload : List Char} :
    Takes key (c :: cs) payload ↔
      HoldsPayload key (c :: cs) payload ∨ ¬ Occurs key (c :: cs) ∧ Takes key cs payload := by
  constructor
  · rintro ⟨before, rest, hText, hPayload, hFirst⟩
    cases before with
    | nil =>
        rw [List.nil_append] at hText
        exact Or.inl (hText ▸ hPayload)
    | cons d before =>
        cases hText
        refine Or.inr ⟨hFirst [] _ rfl (by simp), before, rest, rfl, hPayload, ?_⟩
        intro earlier later hSplit hShorter
        exact hFirst (c :: earlier) later (congrArg _ hSplit) (by simpa using hShorter)
  · rintro (hPayload | ⟨hNone, before, rest, rfl, hPayload, hFirst⟩)
    · exact ⟨[], _, rfl, hPayload, by simp⟩
    · refine ⟨c :: before, rest, rfl, hPayload, ?_⟩
      intro earlier later hSplit hShorter
      cases earlier with
      | nil =>
          rw [List.nil_append] at hSplit
          exact hSplit ▸ hNone
      | cons d earlier =>
          rw [List.cons_append, List.cons.injEq] at hSplit
          exact hFirst earlier later hSplit.2 (by simpa using hShorter)

theorem takes_nil_iff {key : Key} {payload : List Char} :
    Takes key [] payload ↔ HoldsPayload key [] payload := by
  constructor
  · rintro ⟨before, rest, hText, hPayload, -⟩
    obtain ⟨-, rfl⟩ := List.append_eq_nil_iff.mp hText.symm
    exact hPayload
  · intro hPayload
    exact ⟨[], [], rfl, hPayload, by simp⟩

/-- The payload that is found is the one that the text has. -/
theorem payload?_eq_some_iff {key : Key} {text payload : List Char} :
    payload? key text = some payload ↔ Takes key text payload := by
  induction text with
  | nil => rw [payload?, payloadAtStart?_eq_some_iff, takes_nil_iff]
  | cons c cs ih =>
      rw [takes_cons_iff, ← ih, payload?]
      cases hStart : payloadAtStart? key (c :: cs) with
      | some other =>
          have hOccurs : Occurs key (c :: cs) :=
            occurs_iff.mpr ⟨other, payloadAtStart?_eq_some_iff.mp hStart⟩
          rw [← payloadAtStart?_eq_some_iff, hStart]
          simp [hOccurs]
      | none => simp [← payloadAtStart?_eq_some_iff, ← payloadAtStart?_eq_none_iff, hStart]

/-- The first occurrence has no closing bracket on its line, and the last bracket is on another. -/
example : payload? .sizes "sizes=[1\n SIZE\u017f =\n [2] 3] 4\n]".toList =
    some "[2] 3]".toList := by decide

theorem payload?_eq_none_iff {key : Key} {text : List Char} :
    payload? key text = none ↔ ∀ payload, ¬ Takes key text payload := by
  simp only [Option.eq_none_iff_forall_ne_some, ne_eq, payload?_eq_some_iff]

/-- A text has a payload for a key exactly if the key occurs somewhere in it. -/
theorem exists_takes_iff {key : Key} {text : List Char} :
    (∃ payload, Takes key text payload) ↔ ∃ before rest, text = before ++ rest ∧ Occurs key rest := by
  constructor
  · rintro ⟨payload, before, rest, hText, hPayload, -⟩
    exact ⟨before, rest, hText, occurs_iff.mpr ⟨payload, hPayload⟩⟩
  · intro h
    induction text with
    | nil =>
        obtain ⟨before, rest, hText, hOccurs⟩ := h
        obtain ⟨-, rfl⟩ := List.append_eq_nil_iff.mp hText.symm
        obtain ⟨payload, hPayload⟩ := occurs_iff.mp hOccurs
        exact ⟨payload, takes_nil_iff.mpr hPayload⟩
    | cons c cs ih =>
        by_cases hStart : Occurs key (c :: cs)
        · obtain ⟨payload, hPayload⟩ := occurs_iff.mp hStart
          exact ⟨payload, takes_cons_iff.mpr (Or.inl hPayload)⟩
        · obtain ⟨before, rest, hText, hOccurs⟩ := h
          cases before with
          | nil => exact absurd (hText ▸ hOccurs) hStart
          | cons d before =>
              obtain ⟨payload, hTakes⟩ := ih ⟨before, rest, (List.cons.inj hText).2, hOccurs⟩
              exact ⟨payload, takes_cons_iff.mpr (Or.inr ⟨hStart, hTakes⟩)⟩

end ResponsiveImages.Directive
