import Mathlib.Data.List.TakeWhile
import ResponsiveImages.Proofs.Markup.Escaping

/-! Attribute values are decoded in one scan from left to right, in which every ampersand is decided
on its own. A value that holds nothing but references is decoded at once and any other one part by
part, and which of the two was done cannot be told from the result. -/
namespace ResponsiveImages.Markup

/-- Behind an ampersand stands a known reference, which the first semicolon ends, and then the rest.
There is no other ampersand in it. -/
def RefersTo (behind : List Char) (c : Char) (rest : List Char) : Prop :=
  ∃ body, behind = body ++ ';' :: rest ∧ body.all isReferenceChar = true ∧
    reference? body = some c

/-- A value and what is decoded from it. The scan goes on behind a reference, so that nothing which
was decoded is looked at again, and right behind an ampersand that begins none. -/
inductive Decodes : List Char → List Char → Prop
  | done : Decodes [] []
  | plain {c : Char} {rest decoded : List Char} (hPlain : c ≠ '&') (hRest : Decodes rest decoded) :
      Decodes (c :: rest) (c :: decoded)
  | reference {c : Char} {behind rest decoded : List Char} (hRefers : RefersTo behind c rest)
      (hRest : Decodes rest decoded) : Decodes ('&' :: behind) (c :: decoded)
  | stray {behind decoded : List Char} (hStray : ∀ c rest, ¬ RefersTo behind c rest)
      (hRest : Decodes behind decoded) : Decodes ('&' :: behind) ('&' :: decoded)

theorem RefersTo.length_lt {behind rest : List Char} {c : Char} (h : RefersTo behind c rest) :
    rest.length < behind.length := by
  obtain ⟨body, rfl, -, -⟩ := h
  simp only [List.length_append, List.length_cons]
  omega

/-- A reference does not depend on what follows it. -/
theorem RefersTo.append {behind rest : List Char} {c : Char} (h : RefersTo behind c rest)
    (more : List Char) : RefersTo (behind ++ more) c (rest ++ more) := by
  obtain ⟨body, rfl, hBody, hReference⟩ := h
  exact ⟨body, by simp, hBody, hReference⟩

/-- The next ampersand is too late to be part of a reference. -/
theorem RefersTo.of_append {behind right rest : List Char} {c : Char}
    (h : RefersTo (behind ++ '&' :: right) c rest) : ∃ rest, RefersTo behind c rest := by
  obtain ⟨body, hText, hBody, hReference⟩ := h
  rcases List.append_eq_append_iff.mp hText with ⟨between, rfl, hRight⟩ | ⟨between, rfl, hRest⟩
  · cases between with
    | nil => simp at hRight
    | cons d between =>
        obtain ⟨rfl, -⟩ := List.cons.inj hRight
        simp [isReferenceChar] at hBody
  · cases between with
    | nil => simp at hRest
    | cons d between =>
        obtain ⟨rfl, -⟩ := List.cons.inj hRest
        exact ⟨between, body, rfl, hBody, hReference⟩

/-- A text in front of an ampersand is decoded whatever follows. -/
theorem Decodes.append {left decodedLeft right decodedRight : List Char}
    (hLeft : Decodes left decodedLeft) (hRight : Decodes ('&' :: right) decodedRight) :
    Decodes (left ++ '&' :: right) (decodedLeft ++ decodedRight) := by
  induction hLeft with
  | done => exact hRight
  | plain hPlain _ ih => exact .plain hPlain ih
  | reference hRefers _ ih => exact .reference (hRefers.append _) ih
  | stray hStray _ ih =>
      refine .stray (fun c rest hRefers => ?_) ih
      obtain ⟨behind, hBefore⟩ := hRefers.of_append
      exact hStray c behind hBefore

/-- Inside a reference, decoding reads its body up to the semicolon and then what follows it. -/
theorem decodeFrom_some_iff {read cs decoded : List Char} :
    decodeFrom (some read) cs = some decoded ↔ ∃ body c rest more,
      cs = body ++ ';' :: rest ∧ body.all isReferenceChar = true ∧
        reference? (read ++ body) = some c ∧ decodeFrom none rest = some more ∧
        decoded = c :: more := by
  constructor
  · intro h
    induction cs generalizing read with
    | nil => simp [decodeFrom] at h
    | cons d cs ih =>
        rw [decodeFrom] at h
        split at h
        · rename_i hEnd
          obtain ⟨c, hReference, hMore⟩ := Option.bind_eq_some_iff.mp h
          obtain ⟨more, hMore, hDecoded⟩ := Option.map_eq_some_iff.mp hMore
          exact ⟨[], c, cs, more, by rw [hEnd]; rfl, rfl, by rwa [List.append_nil], hMore,
            hDecoded.symm⟩
        · rename_i hInside
          split at h
          · cases h
          · rename_i hNext
            obtain ⟨body, c, rest, more, rfl, hBody, hReference, hMore, hDecoded⟩ := ih h
            refine ⟨d :: body, c, rest, more, rfl, ?_, by simpa using hReference, hMore, hDecoded⟩
            simp [isReferenceChar, hInside, hNext] at hBody ⊢
            exact hBody
  · rintro ⟨body, c, rest, more, rfl, hBody, hReference, hMore, rfl⟩
    rw [decodeFrom_body read _ hBody, decodeFrom, if_pos rfl, hReference, Option.bind_some, hMore]
    rfl

theorem decodeFrom_ampersand_iff {behind decoded : List Char} :
    decodeFrom none ('&' :: behind) = some decoded ↔ ∃ c rest more,
      RefersTo behind c rest ∧ decodeFrom none rest = some more ∧ decoded = c :: more := by
  rw [decodeFrom, if_pos rfl, decodeFrom_some_iff]
  constructor
  · rintro ⟨body, c, rest, more, hText, hBody, hReference, hMore, hDecoded⟩
    exact ⟨c, rest, more, ⟨body, hText, hBody, hReference⟩, hMore, hDecoded⟩
  · rintro ⟨c, rest, more, ⟨body, hText, hBody, hReference⟩, hMore, hDecoded⟩
    exact ⟨body, c, rest, more, hText, hBody, hReference, hMore, hDecoded⟩

/-- If a whole value can be decoded at once, every ampersand in it begins a reference. -/
theorem decodes_of_decode? {value decoded : List Char} (h : decode? value = some decoded) :
    Decodes value decoded := by
  induction hLength : value.length using Nat.strongRecOn generalizing value decoded with
  | ind length ih =>
      rw [decode?] at h
      cases value with
      | nil =>
          cases h
          exact .done
      | cons c rest =>
          rw [List.length_cons] at hLength
          by_cases hAmpersand : c = '&'
          · subst hAmpersand
            obtain ⟨c, behind, more, hRefers, hMore, rfl⟩ := decodeFrom_ampersand_iff.mp h
            have hShorter := hRefers.length_lt
            exact .reference hRefers (ih behind.length (by omega) hMore rfl)
          · rw [decodeFrom, if_neg hAmpersand] at h
            obtain ⟨more, hMore, rfl⟩ := Option.map_eq_some_iff.mp h
            exact .plain hAmpersand (ih rest.length (by omega) hMore rfl)

/-- What is decoded ahead is a reference that stands there. -/
theorem refersTo_of_referenceAhead? {behind : List Char} {ahead : List Char × Nat}
    (h : referenceAhead? behind = some ahead) : ∃ c rest, RefersTo behind c rest := by
  simp only [referenceAhead?] at h
  split at h
  · rename_i hShorter
    obtain ⟨decoded, hDecode, -⟩ := Option.map_eq_some_iff.mp h
    rw [List.cons_append] at hDecode
    obtain ⟨c, after, -, hRefers, -, -⟩ := decodeFrom_ampersand_iff.mp hDecode
    have hText := List.takeWhile_append_dropWhile (p := (· ≠ ';')) (l := behind)
    have hEnd := List.head?_dropWhile_not (· ≠ ';') behind
    cases hRest : behind.dropWhile (· ≠ ';') with
    | nil =>
        have hLength := congrArg List.length hText
        simp only [hRest, List.append_nil] at hLength
        omega
    | cons d rest =>
        rw [hRest] at hText hEnd
        obtain rfl : d = ';' := by simpa using hEnd
        have hLonger := hRefers.append rest
        rw [List.append_assoc, List.singleton_append, hText] at hLonger
        exact ⟨c, after ++ rest, hLonger⟩
  · cases h

/-- A reference that stands ahead is decoded and passed over. -/
theorem RefersTo.referenceAhead?_eq {behind rest : List Char} {c : Char}
    (h : RefersTo behind c rest) :
    ∃ length, referenceAhead? behind = some ([c], length) ∧ behind.drop length = rest := by
  obtain ⟨body, rfl, hBody, hReference⟩ := h
  have hInside : ∀ d ∈ body, decide (d ≠ ';') = true := by
    intro d hd
    have hChar := List.all_eq_true.mp hBody d hd
    simp only [isReferenceChar, Bool.and_eq_true, bne_iff_ne] at hChar
    exact decide_eq_true hChar.1
  have hTake : (body ++ ';' :: rest).takeWhile (· ≠ ';') = body := by
    rw [List.takeWhile_append_of_pos hInside]
    simp
  have hDecode : decode? ('&' :: body ++ [';']) = some [c] :=
    decodeFrom_reference [] hBody hReference
  refine ⟨body.length + 1, ?_, by simp⟩
  simp only [referenceAhead?, hTake, hDecode]
  simp

/-- The characters that were passed over are not looked at. -/
theorem decodeLeniently_eq_drop (passed : Nat) (value : List Char) :
    decodeLeniently passed value = decodeLeniently 0 (value.drop passed) := by
  induction value generalizing passed with
  | nil => simp [decodeLeniently]
  | cons c rest ih =>
      cases passed with
      | zero => rfl
      | succ left => rw [decodeLeniently, ih, List.drop_succ_cons]

/-- Decoding part by part is the scan. -/
theorem Decodes.decodeLeniently_eq {value decoded : List Char} (h : Decodes value decoded) :
    decodeLeniently 0 value = decoded := by
  induction h with
  | done => rfl
  | plain hPlain _ ih => rw [decodeLeniently, if_neg hPlain, ih]
  | reference hRefers _ ih =>
      obtain ⟨length, hAhead, hRest⟩ := hRefers.referenceAhead?_eq
      simp only [decodeLeniently, hAhead, reduceIte]
      rw [decodeLeniently_eq_drop, hRest, ih, List.singleton_append]
  | @stray behind decoded hStray _ ih =>
      have hNone : referenceAhead? behind = none := by
        rw [Option.eq_none_iff_forall_ne_some]
        intro ahead hAhead
        obtain ⟨c, rest, hRefers⟩ := refersTo_of_referenceAhead? hAhead
        exact hStray c rest hRefers
      simp only [decodeLeniently, hNone, reduceIte]
      rw [ih]

/-- The scan comes to the end of every value. -/
theorem exists_decodes (value : List Char) : ∃ decoded, Decodes value decoded := by
  induction hLength : value.length using Nat.strongRecOn generalizing value with
  | ind length ih =>
      cases value with
      | nil => exact ⟨[], .done⟩
      | cons c behind =>
          rw [List.length_cons] at hLength
          obtain ⟨decoded, hBehind⟩ := ih behind.length (by omega) behind rfl
          by_cases hAmpersand : c = '&'
          · subst hAmpersand
            by_cases hRefers : ∃ c rest, RefersTo behind c rest
            · obtain ⟨c, rest, hRefers⟩ := hRefers
              have hShorter := hRefers.length_lt
              obtain ⟨decoded, hRest⟩ := ih rest.length (by omega) rest rfl
              exact ⟨c :: decoded, .reference hRefers hRest⟩
            · exact ⟨'&' :: decoded, .stray (fun c rest h => hRefers ⟨c, rest, h⟩) hBehind⟩
          · exact ⟨c :: decoded, .plain hAmpersand hBehind⟩

theorem decodes_decodeLeniently (value : List Char) : Decodes value (decodeLeniently 0 value) := by
  obtain ⟨decoded, hDecodes⟩ := exists_decodes value
  rwa [hDecodes.decodeLeniently_eq]

theorem decodeLeniently_of_decode? {value decoded : List Char} (h : decode? value = some decoded) :
    decodeLeniently 0 value = decoded :=
  (decodes_of_decode? h).decodeLeniently_eq

/-- The way in which a value is decoded cannot be told from the result. -/
theorem unescape_eq_decodeLeniently (value : List Char) :
    unescape value = decodeLeniently 0 value := by
  unfold unescape
  split
  · rename_i decoded hDecode
    rw [decodeLeniently_of_decode? hDecode]
  · rfl

theorem unescape_eq_iff {value decoded : List Char} :
    unescape value = decoded ↔ Decodes value decoded := by
  rw [unescape_eq_decodeLeniently]
  exact ⟨fun h => h ▸ decodes_decodeLeniently value, Decodes.decodeLeniently_eq⟩

theorem unescape_append (value behind : List Char) :
    unescape (value ++ '&' :: behind) = unescape value ++ unescape ('&' :: behind) :=
  unescape_eq_iff.mpr ((unescape_eq_iff.mp rfl).append (unescape_eq_iff.mp rfl))

/-- Decoding is one scan from left to right, and it does not matter whether a value is decoded at
once or part by part. Every reference in a value is decoded, and every ampersand that begins none
stays, whatever stands in front of it and behind it. What was escaped is decoded again. -/
theorem unescape_scans (value : List Char) :
    (∀ decoded, unescape value = decoded ↔ Decodes value decoded) ∧
      (∀ decoded, decode? value = some decoded → decodeLeniently 0 value = decoded) ∧
      (∀ behind c rest, RefersTo behind c rest →
        unescape (value ++ '&' :: behind) = unescape value ++ c :: unescape rest) ∧
      (∀ behind, (∀ c rest, ¬ RefersTo behind c rest) →
        unescape (value ++ '&' :: behind) = unescape value ++ '&' :: unescape behind) ∧
      unescape (escape (String.ofList value)).toList = value := by
  refine ⟨fun decoded => unescape_eq_iff, fun decoded => decodeLeniently_of_decode?, ?_, ?_, ?_⟩
  · intro behind c rest hRefers
    rw [unescape_append, unescape_eq_iff.mpr (.reference hRefers (unescape_eq_iff.mp rfl))]
  · intro behind hStray
    rw [unescape_append, unescape_eq_iff.mpr (.stray hStray (unescape_eq_iff.mp rfl))]
  · rw [unescape_escape, String.toList_ofList]

/-- A reference behind one that was not ended, an unknown one between others, and a value in which
what is decoded looks like a reference. -/
theorem unescape_scans_mixed :
    let value := "a && b &lt".toList
    let known := "#x26;lt; &bogus;".toList
    let unknown := "bogus;&gt;".toList
    let whole := "&amp;lt;&quot;".toList
    (RefersTo known '&' "lt; &bogus;".toList ∧
        unescape (value ++ '&' :: known) = unescape value ++ '&' :: unescape "lt; &bogus;".toList) ∧
      ((∀ c rest, ¬ RefersTo unknown c rest) ∧
        unescape (value ++ '&' :: unknown) = unescape value ++ '&' :: unescape unknown) ∧
      decode? whole = some "&lt;\"".toList ∧ decodeLeniently 0 whole = "&lt;\"".toList := by
  intro value known unknown whole
  have hKnown : RefersTo known '&' "lt; &bogus;".toList :=
    ⟨"#x26".toList, rfl, by decide, by decide⟩
  have hNone : referenceAhead? unknown = none := by decide +kernel
  have hUnknown : ∀ c rest, ¬ RefersTo unknown c rest := by
    intro c rest hRefers
    obtain ⟨length, hAhead, -⟩ := hRefers.referenceAhead?_eq
    rw [hNone] at hAhead
    cases hAhead
  have hWhole : decode? whole = some "&lt;\"".toList := by decide +kernel
  obtain ⟨-, -, hReference, hStray, -⟩ := unescape_scans value
  obtain ⟨-, hOnce, -⟩ := unescape_scans whole
  exact ⟨⟨hKnown, hReference known '&' _ hKnown⟩, ⟨hUnknown, hStray unknown hUnknown⟩, hWhole,
    hOnce _ hWhole⟩

end ResponsiveImages.Markup
