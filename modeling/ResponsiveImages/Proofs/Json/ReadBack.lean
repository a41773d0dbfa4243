import Mathlib.Data.List.Forall2
import ResponsiveImages.Json.Printer
import ResponsiveImages.Json.Reader
import ResponsiveImages.Proofs.Json.Members

/-! Compact text is read back as the value that it was written for. A number has no end of its own, so
every reading depends on what follows. -/
namespace ResponsiveImages.Json.Reader

open Text (byteLength isAsciiDigit hexValue?)

/-- A number in front of the text does not go on in it. -/
def EndsNumber (rest : List Char) : Prop :=
  ∀ c ∈ rest.head?, isAsciiDigit c = false ∧ c ≠ '.' ∧ c ≠ 'e' ∧ c ≠ 'E'

theorem endsNumber_cons {c : Char} (h : isAsciiDigit c = false ∧ c ≠ '.' ∧ c ≠ 'e' ∧ c ≠ 'E')
    (rest : List Char) : EndsNumber (c :: rest) := by
  intro d hd
  cases hd
  exact h

theorem isAsciiDigit_of_isDigit {c : Char} (h : c.isDigit = true) : isAsciiDigit c = true := h

/-- More digits never make a number smaller. -/
theorem le_ofDigitChars (digits : List Char) (value : Nat) :
    value ≤ Nat.ofDigitChars 10 digits value := by
  induction digits generalizing value with
  | nil => exact Nat.le_refl value
  | cons c digits ih =>
      rw [Nat.ofDigitChars_cons]
      have hNext := ih (10 * value + (c.toNat - '0'.toNat))
      omega

/-- Digits are taken to their end if the number fits. -/
theorem appendDigits_append {digits rest : List Char} {value : Nat}
    (hDigits : ∀ c ∈ digits, c.isDigit = true) (hRest : EndsNumber rest)
    (hFits : Nat.ofDigitChars 10 digits value < Nat.pow 2 64) :
    appendDigits value (digits ++ rest) = (Nat.ofDigitChars 10 digits value, rest) := by
  induction digits generalizing value with
  | nil =>
      cases rest with
      | nil => rfl
      | cons c rest => simp [appendDigits, (hRest c rfl).1]
  | cons c digits ih =>
      obtain ⟨hDigit, hDigits⟩ := List.forall_mem_cons.mp hDigits
      rw [Nat.ofDigitChars_cons, Nat.mul_comm 10 value] at hFits ⊢
      have hNext := Nat.lt_of_le_of_lt (le_ofDigitChars digits _) hFits
      rw [List.cons_append, appendDigits]
      simp only [isAsciiDigit_of_isDigit hDigit, hNext, decide_true, Bool.and_self, if_true]
      exact ih hDigits hFits

/-- The text of a positive number does not begin with a zero. -/
theorem toDigits_eq_cons {number : Nat} (h : 0 < number) :
    ∃ c digits, Nat.toDigits 10 number = c :: digits ∧ c ≠ '0' := by
  induction number using Nat.strongRecOn with
  | ind number ih =>
      by_cases hSmall : number < 10
      · refine ⟨number.digitChar, [], Nat.toDigits_of_lt_base hSmall, ?_⟩
        have hAll : ∀ digit < 10, 0 < digit → digit.digitChar ≠ '0' := by decide
        exact hAll number hSmall h
      · obtain ⟨c, digits, hDigits, hc⟩ := ih (number / 10) (by omega) (by omega)
        rw [Nat.toDigits_of_base_le (by decide) (by omega), hDigits]
        exact ⟨c, _, rfl, hc⟩

theorem afterWhole_of_ends {rest : List Char} (h : EndsNumber rest) (negative : Bool)
    (significand : Nat) :
    afterWhole negative significand rest = .ok (wholeNumber negative significand, rest) := by
  unfold afterWhole
  split
  · exact absurd rfl (h _ rfl).2.1
  · exact absurd rfl (h _ rfl).2.2.1
  · exact absurd rfl (h _ rfl).2.2.2
  · rfl

theorem unsignedNumber_toDigits {number : Nat} (hFits : number < Nat.pow 2 64)
    {rest : List Char} (hRest : EndsNumber rest) (negative : Bool) :
    unsignedNumber negative (Nat.toDigits 10 number ++ rest) =
      .ok (wholeNumber negative number, rest) := by
  rcases Nat.eq_zero_or_pos number with rfl | hPos
  · rw [Nat.toDigits_of_lt_base (by decide)]
    cases rest with
    | nil => exact afterWhole_of_ends hRest negative 0
    | cons c rest =>
        have hDigit := (hRest c rfl).1
        simp only [List.cons_append, List.nil_append, show Nat.digitChar 0 = '0' from rfl,
          unsignedNumber, hDigit, Bool.false_eq_true, if_false]
        exact afterWhole_of_ends hRest negative 0
  · obtain ⟨c, digits, hText, hZero⟩ := toDigits_eq_cons hPos
    have hAll : ∀ d ∈ c :: digits, d.isDigit = true := fun d hd =>
      Nat.isDigit_of_mem_toDigits (by decide) (by decide) (hText ▸ hd)
    obtain ⟨hDigit, hDigits⟩ := List.forall_mem_cons.mp hAll
    have hValue : Nat.ofDigitChars 10 digits (c.toNat - '0'.toNat) = number := by
      have hWhole := Nat.ofDigitChars_toDigits (show 1 < 10 by decide) (Nat.le_refl 10) (n := number)
      rw [hText, Nat.ofDigitChars_cons, Nat.mul_zero, Nat.zero_add] at hWhole
      exact hWhole
    have hTaken := appendDigits_append hDigits hRest (hValue.symm ▸ hFits)
    rw [hValue] at hTaken
    rw [hText, List.cons_append, unsignedNumber]
    · rw [if_pos (isAsciiDigit_of_isDigit hDigit), hTaken]
      cases rest with
      | nil => exact afterWhole_of_ends hRest negative number
      | cons next rest =>
          simp only [(hRest next rfl).1, Bool.false_eq_true, if_false]
          exact afterWhole_of_ends hRest negative number
    · exact hZero

/-- An integer of 64 bits, with a sign or without. -/
def IsWord (value : Int) : Prop :=
  -((Nat.pow 2 63 : Nat) : Int) ≤ value ∧ value < (Nat.pow 2 64 : Nat)

instance (value : Int) : Decidable (IsWord value) :=
  inferInstanceAs (Decidable (_ ∧ _))

theorem numberChars_ofNat (size : Nat) : numberChars (.int (.ofNat size)) = Nat.toDigits 10 size := by
  show (Nat.repr size).toList = _
  rw [Nat.toList_repr]

theorem numberChars_negSucc (size : Nat) :
    numberChars (.int (.negSucc size)) = '-' :: Nat.toDigits 10 (size + 1) := by
  show ("-" ++ Nat.repr (size + 1)).toList = _
  rw [String.toList_append, Nat.toList_repr]
  rfl

/-- The first character tells a number from everything else. -/
def BeginsNumber (c : Char) : Prop :=
  c = '-' ∨ isAsciiDigit c = true

instance (c : Char) : Decidable (BeginsNumber c) :=
  inferInstanceAs (Decidable (_ ∨ _))

theorem BeginsNumber.ne {c d : Char} (h : BeginsNumber c) (hd : ¬ BeginsNumber d) : c ≠ d :=
  fun hSame => hd (hSame ▸ h)

/-- The readers test for it in this form. -/
theorem BeginsNumber.test {c : Char} (h : BeginsNumber c) :
    (decide (c = '-') || isAsciiDigit c) = true := by
  simpa [BeginsNumber] using h

theorem BeginsNumber.isSpace_eq_false {c : Char} (h : BeginsNumber c) : isSpace c = false := by
  simp only [isSpace, Bool.or_eq_false_iff, beq_eq_false_iff_ne]
  exact ⟨⟨⟨h.ne (by decide), h.ne (by decide)⟩, h.ne (by decide)⟩, h.ne (by decide)⟩

theorem exists_digit_toDigits (size : Nat) :
    ∃ c more, Nat.toDigits 10 size = c :: more ∧ isAsciiDigit c = true := by
  obtain ⟨c, more, hText⟩ := List.exists_cons_of_ne_nil (Nat.toDigits_ne_nil (b := 10) (n := size))
  have hMem : c ∈ Nat.toDigits 10 size := hText ▸ List.mem_cons_self
  exact ⟨c, more, hText,
    isAsciiDigit_of_isDigit (Nat.isDigit_of_mem_toDigits (by decide) (by decide) hMem)⟩

theorem exists_beginsNumber (value : Int) :
    ∃ c more, numberChars (.int value) = c :: more ∧ BeginsNumber c := by
  cases value with
  | ofNat size =>
      obtain ⟨c, more, hText, hDigit⟩ := exists_digit_toDigits size
      exact ⟨c, more, (numberChars_ofNat size).trans hText, .inr hDigit⟩
  | negSucc size => exact ⟨'-', _, numberChars_negSucc size, .inl rfl⟩

theorem number_numberChars {value : Int} (h : IsWord value) {rest : List Char}
    (hRest : EndsNumber rest) :
    number (numberChars (.int value) ++ rest) = .ok (.int value, rest) := by
  obtain ⟨hLow, hHigh⟩ := h
  cases value with
  | ofNat size =>
      have hFits : size < Nat.pow 2 64 := Int.ofNat_lt.mp hHigh
      obtain ⟨c, more, hText, hDigit⟩ := exists_digit_toDigits size
      have hSign : c ≠ '-' := by
        rintro rfl
        cases hDigit
      have hRead := unsignedNumber_toDigits hFits hRest false
      rw [numberChars_ofNat, hText, List.cons_append, number, ← List.cons_append, ← hText, hRead]
      · rfl
      · exact fun _ hSame => hSign (List.cons.inj hSame).1
  | negSucc size =>
      have hSize : size + 1 ≤ Nat.pow 2 63 := by
        have hBound := hLow
        rw [Int.negSucc_eq] at hBound
        exact Int.ofNat_le.mp (Int.neg_le_neg_iff.mp hBound)
      have hFits : size + 1 < Nat.pow 2 64 := Nat.lt_of_le_of_lt hSize (by decide)
      rw [numberChars_negSucc, List.cons_append, number, unsignedNumber_toDigits hFits hRest]
      simp only [wholeNumber, Bool.not_true, Bool.false_eq_true, if_false, Nat.zero_lt_succ, hSize,
        decide_true, Bool.and_self, if_true]
      rfl

theorem hexValue?_digitChar {digit : Nat} (h : digit < 16) :
    hexValue? digit.digitChar = some digit := by
  have hAll : ∀ digit < 16, hexValue? (Nat.digitChar digit) = some digit := by decide
  exact hAll digit h

/-- The escape of a control character. -/
theorem unicodeEscape_control {c : Char} (h : c.toNat < 32) (rest : List Char) :
    unicodeEscape ('0' :: '0' :: (c.toNat / 16).digitChar :: (c.toNat % 16).digitChar :: rest) =
      .ok (c, 4) := by
  have hEnough : ¬ byteLength
      ('0' :: '0' :: (c.toNat / 16).digitChar :: (c.toNat % 16).digitChar :: rest) < 4 := by
    have hHigh := (c.toNat / 16).digitChar.utf8Size_pos
    have hLow := (c.toNat % 16).digitChar.utf8Size_pos
    have hZero : ('0' : Char).utf8Size = 1 := rfl
    simp only [Text.byteLength_cons, hZero]
    omega
  have hHex : hexEscape
      ('0' :: '0' :: (c.toNat / 16).digitChar :: (c.toNat % 16).digitChar :: rest) =
        .ok (c.toNat, rest) := by
    have hValue : ((0 * 16 + 0) * 16 + c.toNat / 16) * 16 + c.toNat % 16 = c.toNat := by omega
    have hHigh := hexValue?_digitChar (show c.toNat / 16 < 16 by omega)
    have hLow := hexValue?_digitChar (show c.toNat % 16 < 16 by omega)
    have hZero : hexValue? '0' = some 0 := by decide
    simp only [hexEscape, hEnough, if_false, hHigh, hLow, hZero, hValue]
  have hSingle : (decide (0xDC00 ≤ c.toNat) && decide (c.toNat ≤ 0xDFFF)) = false := by
    simp only [Bool.and_eq_false_iff, decide_eq_false_iff_not]
    omega
  have hPlane : (decide (c.toNat < 0xD800) || decide (0xDBFF < c.toNat)) = true := by
    simp only [Bool.or_eq_true, decide_eq_true_eq]
    omega
  simp only [unicodeEscape, hHex, bind, Except.bind, hSingle, hPlane, Bool.false_eq_true, if_false,
    if_true, Char.ofNat_toNat]

/-- What belongs to an escape that was read is not looked at again. -/
theorem stringBody_passed (passed rest : List Char) :
    stringBody passed.length (passed ++ rest) = stringBody 0 rest := by
  induction passed with
  | nil => rfl
  | cons c passed ih => exact ih

theorem stringBody_escape {c : Char} (escaped : List Char) {text read left : List Char}
    (hEscape : escape (escaped ++ text) = .ok (c, escaped.length))
    (hText : stringBody 0 text = .ok (read, left)) :
    stringBody 0 ('\\' :: (escaped ++ text)) = .ok (c :: read, left) := by
  have hPassed := (stringBody_passed escaped text).trans hText
  rw [stringBody]
  simp [hEscape, hPassed, bind, Except.bind]

theorem stringBody_escapedChar {c : Char} {text read left : List Char}
    (h : stringBody 0 text = .ok (read, left)) :
    stringBody 0 (escapedChar c ++ text) = .ok (c :: read, left) := by
  have hNamed {code : Nat} (hCode : c.toNat = code) : c = Char.ofNat code := by
    rw [← hCode, Char.ofNat_toNat]
  unfold escapedChar
  split
  · rename_i hChar
    exact hChar ▸ stringBody_escape ['"'] rfl h
  split
  · rename_i hChar
    exact hChar ▸ stringBody_escape ['\\'] rfl h
  split
  · rename_i hChar
    exact hChar ▸ stringBody_escape ['n'] rfl h
  split
  · rename_i hChar
    exact hChar ▸ stringBody_escape ['r'] rfl h
  split
  · rename_i hChar
    exact hChar ▸ stringBody_escape ['t'] rfl h
  split
  · rename_i hCode
    exact hNamed hCode ▸ stringBody_escape ['b'] rfl h
  split
  · rename_i hCode
    exact hNamed hCode ▸ stringBody_escape ['f'] rfl h
  split
  · rename_i hControl
    refine stringBody_escape ['u', '0', '0', _, _] ?_ h
    simp [escape, unicodeEscape_control hControl, Except.map]
  · rename_i hQuote hBackslash _ _ _ _ _ hPlain
    rw [List.singleton_append, stringBody]
    simp [hQuote, hBackslash, hPlain, h, bind, Except.bind]

theorem stringBody_flatMap (text rest : List Char) :
    stringBody 0 (text.flatMap escapedChar ++ '"' :: rest) = .ok (text, rest) := by
  induction text with
  | nil => simp [stringBody]
  | cons c text ih =>
      rw [List.flatMap_cons, List.append_assoc]
      exact stringBody_escapedChar ih

/-- A text between quotes is read back, whatever characters are in it. -/
theorem stringRest_flatMap (text : String) (rest : List Char) :
    stringRest (text.toList.flatMap escapedChar ++ '"' :: rest) = .ok (text, rest) := by
  rw [stringRest, stringBody_flatMap]
  exact congrArg (fun text => Except.ok (text, rest)) String.ofList_toList

/-- The reader takes exactly this text for the value, wherever the text stands as an entry: it begins
with neither a blank nor a closing bracket. -/
structure Reads {α : Type} (reader : Reader α) (text : List Char) (value : α) : Prop where
  begins : ∃ c more, text = c :: more ∧ isSpace c = false ∧ c ≠ ']' ∧ c ≠ '\x7d'
  read : ∀ rest, EndsNumber rest → reader (text ++ rest) = .ok (value, rest)

/-- The brackets that end lists and objects. -/
def IsClosing (c : Char) : Prop :=
  c = ']' ∨ c = '\x7d'

theorem skipSpace_cons {c : Char} (h : isSpace c = false) (rest : List Char) :
    skipSpace (c :: rest) = c :: rest :=
  List.dropWhile_cons_of_neg (by simp [h])

section Entries

variable {α : Type} {closing : Char} {unclosed uncommaed : Fault} {entry : Reader α}
  {text rest : List Char} {texts : List (List Char)} {value : α} {values : List α}

theorem IsClosing.isSpace_eq_false (h : IsClosing closing) : isSpace closing = false := by
  rcases h with rfl | rfl <;> decide

theorem IsClosing.ne_comma (h : IsClosing closing) : closing ≠ ',' := by
  rcases h with rfl | rfl <;> decide

theorem IsClosing.endsNumber (h : IsClosing closing) (rest : List Char) :
    EndsNumber (closing :: rest) := by
  rcases h with rfl | rfl <;> exact endsNumber_cons (by decide) rest

theorem Reads.exists_begins (h : Reads entry text value) (hClosing : IsClosing closing) :
    ∃ c more, text = c :: more ∧ isSpace c = false ∧ c ≠ closing := by
  obtain ⟨c, more, hText, hSpace, hList, hObject⟩ := h.begins
  refine ⟨c, more, hText, hSpace, ?_⟩
  rcases hClosing with rfl | rfl
  · exact hList
  · exact hObject

/-- Behind an entry comes a comma or the closing bracket, and both end a number. -/
theorem endsNumber_flatMap (hClosing : IsClosing closing) (texts : List (List Char))
    (rest : List Char) : EndsNumber (texts.flatMap (',' :: ·) ++ closing :: rest) := by
  cases texts with
  | nil => exact hClosing.endsNumber rest
  | cons text texts => exact endsNumber_cons (by decide) _

/-- Entries with a comma in front of each. -/
theorem entriesFrom_flatMap (hClosing : IsClosing closing)
    (h : List.Forall₂ (Reads entry) texts values) {fuel : Nat} (hFuel : texts.length < fuel) :
    entriesFrom closing unclosed uncommaed entry fuel false
      (texts.flatMap (',' :: ·) ++ closing :: rest) = .ok (values, rest) := by
  induction h generalizing fuel with
  | nil =>
      obtain ⟨fuel, rfl⟩ := Nat.exists_eq_add_of_lt hFuel
      simp [entriesFrom, skipSpace_cons hClosing.isSpace_eq_false]
  | @cons text value texts values hText _ ih =>
      obtain ⟨fuel, rfl⟩ : ∃ more, fuel = more + 1 := ⟨fuel - 1, by omega⟩
      obtain ⟨c, more, rfl, hSpace, hOther⟩ := hText.exists_begins hClosing
      have hRead := hText.read _ (endsNumber_flatMap hClosing texts rest)
      have hRest := ih (Nat.lt_of_succ_lt_succ hFuel)
      have hComma : isSpace ',' = false := by decide
      rw [List.cons_append] at hRead
      simp [entriesFrom, skipSpace_cons hComma, skipSpace_cons hSpace, hClosing.ne_comma.symm,
        hOther, hRead, hRest, bind, Except.bind]

/-- Texts with commas between them, and the closing bracket. -/
def enclosed (closing : Char) : List (List Char) → List Char
  | [] => [closing]
  | text :: texts => text ++ texts.flatMap (',' :: ·) ++ [closing]

/-- Commas and the bracket alone make the text as long as there are entries. -/
theorem length_le_enclosed (closing : Char) (texts : List (List Char)) :
    texts.length ≤ (enclosed closing texts).length := by
  have hCommas (texts : List (List Char)) :
      texts.length ≤ (texts.flatMap (',' :: ·)).length := by
    induction texts with
    | nil => exact Nat.le_refl 0
    | cons text texts ih =>
        simp only [List.flatMap_cons, List.length_append, List.length_cons]
        omega
  cases texts with
  | nil => exact Nat.zero_le 1
  | cons text texts =>
      have hRest := hCommas texts
      simp only [enclosed, List.length_append, List.length_cons, List.length_nil]
      omega

theorem entriesFrom_enclosed (hClosing : IsClosing closing)
    (h : List.Forall₂ (Reads entry) texts values) :
    entriesFrom closing unclosed uncommaed entry ((enclosed closing texts ++ rest).length + 1) true
      (enclosed closing texts ++ rest) = .ok (values, rest) := by
  have hFuel : texts.length < (enclosed closing texts ++ rest).length + 1 := by
    have hLength := length_le_enclosed closing texts
    simp only [List.length_append]
    omega
  generalize (enclosed closing texts ++ rest).length = fuel at hFuel ⊢
  cases h with
  | nil => simp [entriesFrom, enclosed, skipSpace_cons hClosing.isSpace_eq_false]
  | @cons text value texts values hText hTexts =>
      obtain ⟨c, more, rfl, hSpace, hOther⟩ := hText.exists_begins hClosing
      have hRead := hText.read _ (endsNumber_flatMap hClosing texts rest)
      have hRest : entriesFrom closing unclosed uncommaed entry fuel false
          (texts.flatMap (',' :: ·) ++ closing :: rest) = .ok (values, rest) :=
        entriesFrom_flatMap hClosing hTexts (Nat.lt_of_succ_lt_succ hFuel)
      rw [List.cons_append] at hRead
      simp [entriesFrom, enclosed, skipSpace_cons hSpace, hOther, hRead, hRest, bind, Except.bind]

end Entries

theorem items_enclosed {α : Type} {item : Reader α} {texts : List (List Char)} {values : List α}
    (h : List.Forall₂ (Reads item) texts values) (rest : List Char) :
    items item (enclosed ']' texts ++ rest) = .ok (values, rest) :=
  entriesFrom_enclosed (.inl rfl) h

/-- A key in quotes, a colon and a value. -/
theorem reads_member {κ α : Type} {key : Reader κ} {value : Reader α} {name text : List Char}
    {readKey : κ} {readValue : α}
    (hKey : ∀ rest, key (name ++ '"' :: rest) = .ok (readKey, rest))
    (hValue : Reads value text readValue) :
    Reads (member key value) ('"' :: (name ++ '"' :: ':' :: text)) (readKey, readValue) := by
  refine ⟨⟨'"', _, rfl, by decide, by decide, by decide⟩, fun rest hRest => ?_⟩
  have hColon : skipSpace (':' :: (text ++ rest)) = ':' :: (text ++ rest) :=
    skipSpace_cons (by decide) _
  simp [member, colon, hKey, hColon, hValue.read rest hRest, bind, Except.bind]

theorem members_enclosed {κ α : Type} {key : Reader κ} {value : Reader α}
    {texts : List (List Char)} {entries : List (κ × α)}
    (h : List.Forall₂ (Reads (member key value)) texts entries) (rest : List Char) :
    members key value (enclosed '\x7d' texts ++ rest) = .ok (entries, rest) :=
  entriesFrom_enclosed (.inr rfl) h

end ResponsiveImages.Json.Reader

namespace ResponsiveImages.Json

open Reader
open Text (isAsciiDigit)

theorem itemChars_eq (items : List Json) : itemChars items = enclosed ']' (items.map chars) := by
  match items with
  | [] => rfl
  | [item] => simp [itemChars, enclosed]
  | item :: next :: rest =>
      rw [itemChars, itemChars_eq (next :: rest)]
      simp [enclosed]

/-- The text of one member. -/
def memberText (member : String × Json) : List Char :=
  stringChars member.1 ++ ':' :: chars member.2

theorem memberChars_eq (members : List (String × Json)) :
    memberChars members = enclosed '\x7d' (members.map memberText) := by
  match members with
  | [] => rfl
  | [(name, value)] => simp [memberChars, memberText, enclosed]
  | (name, value) :: next :: rest =>
      rw [memberChars, memberChars_eq (next :: rest)]
      simp [memberText, enclosed]

/-- A value in which all numbers are integers of 64 bits, every character of a text is an allowed one
and no object has a name twice, with at most that many brackets open at once. -/
inductive IsPlain (allowed : Char → Prop) : Nat → Json → Prop
  | null {depth : Nat} : IsPlain allowed depth .null
  | bool {depth : Nat} (value : Bool) : IsPlain allowed depth (.bool value)
  | int {depth : Nat} {value : Int} (h : IsWord value) :
      IsPlain allowed depth (.number (.int value))
  | string {depth : Nat} {text : String} (h : ∀ c ∈ text.toList, allowed c) :
      IsPlain allowed depth (.string text)
  | array {depth : Nat} {items : List Json} (h : ∀ item ∈ items, IsPlain allowed depth item) :
      IsPlain allowed (depth + 1) (.array items)
  | object {depth : Nat} {members : Members} (hDistinct : members.Distinct)
      (hNames : ∀ name ∈ members.names, ∀ c ∈ name.toList, allowed c)
      (h : ∀ member ∈ members, IsPlain allowed depth member.2) :
      IsPlain allowed (depth + 1) (.object members)

/-- What does not stand in brackets is read at every depth. -/
theorem reads_at_depth {text : List Char} {json : Json}
    (h : ∀ nested?, Reads (valueWith nested?) text json) (depth : Nat) :
    Reads (Reader.value depth) text json := by
  cases depth with
  | zero => exact h none
  | succ depth => exact h (some (Reader.value depth))

theorem reads_null (nested? : Option (Reader Json)) :
    Reads (valueWith nested?) (chars .null) .null :=
  ⟨⟨'n', _, rfl, by decide, by decide, by decide⟩, fun _ _ => rfl⟩

theorem reads_bool (value : Bool) (nested? : Option (Reader Json)) :
    Reads (valueWith nested?) (chars (.bool value)) (.bool value) := by
  cases value with
  | true => exact ⟨⟨'t', _, rfl, by decide, by decide, by decide⟩, fun _ _ => rfl⟩
  | false => exact ⟨⟨'f', _, rfl, by decide, by decide, by decide⟩, fun _ _ => rfl⟩

theorem reads_int {value : Int} (h : IsWord value) (nested? : Option (Reader Json)) :
    Reads (valueWith nested?) (numberChars (.int value)) (.number (.int value)) := by
  obtain ⟨c, more, hText, hBegins⟩ := exists_beginsNumber value
  have hSpace := hBegins.isSpace_eq_false
  refine ⟨⟨c, more, hText, hSpace, hBegins.ne (by decide), hBegins.ne (by decide)⟩,
    fun rest hRest => ?_⟩
  have hRead := number_numberChars h hRest
  rw [hText, List.cons_append] at hRead ⊢
  -- The other branches are for the first characters of other values.
  have hn : c ≠ 'n' := hBegins.ne (by decide)
  have ht : c ≠ 't' := hBegins.ne (by decide)
  have hf : c ≠ 'f' := hBegins.ne (by decide)
  have hQuote : c ≠ '"' := hBegins.ne (by decide)
  have hList : c ≠ '[' := hBegins.ne (by decide)
  have hObject : c ≠ '\x7b' := hBegins.ne (by decide)
  simp [valueWith, skipSpace_cons hSpace, hBegins.test, hRead, bind, Except.bind]

theorem reads_string (text : String) (nested? : Option (Reader Json)) :
    Reads (valueWith nested?) (stringChars text) (.string text) := by
  refine ⟨⟨'"', _, rfl, by decide, by decide, by decide⟩, fun rest _ => ?_⟩
  simp [stringChars, valueWith, skipSpace_cons (show isSpace '"' = false by decide),
    stringRest_flatMap, bind, Except.bind]

theorem reads_array {nested : Reader Json} {texts : List (List Char)} {values : List Json}
    (h : List.Forall₂ (Reads nested) texts values) :
    Reads (valueWith (some nested)) ('[' :: enclosed ']' texts) (.array values) := by
  refine ⟨⟨'[', _, rfl, by decide, by decide, by decide⟩, fun rest _ => ?_⟩
  simp [valueWith, skipSpace_cons (show isSpace '[' = false by decide), items_enclosed h, bind,
    Except.bind]

theorem reads_object {nested : Reader Json} {texts : List (List Char)} {entries : Members}
    (hDistinct : entries.Distinct)
    (h : List.Forall₂ (Reads (member stringRest nested)) texts entries) :
    Reads (valueWith (some nested)) ('\x7b' :: enclosed '\x7d' texts) (.object entries) := by
  refine ⟨⟨'\x7b', _, rfl, by decide, by decide, by decide⟩, fun rest _ => ?_⟩
  simp [valueWith, skipSpace_cons (show isSpace '\x7b' = false by decide), members_enclosed h, bind,
    Except.bind, Members.ofList_eq hDistinct]

theorem reads_memberText {nested : Reader Json} {name : String} {value : Json}
    (h : Reads nested value.chars value) :
    Reads (member stringRest nested) (memberText (name, value)) (name, value) := by
  have hMember := reads_member (stringRest_flatMap name) h
  simpa [memberText, stringChars] using hMember

theorem reads_value {allowed : Char → Prop} {depth : Nat} {json : Json}
    (h : json.IsPlain allowed depth) : Reads (Reader.value depth) json.chars json := by
  induction h with
  | @null depth => exact reads_at_depth reads_null depth
  | @bool depth value => exact reads_at_depth (reads_bool value) depth
  | @int depth value h => exact reads_at_depth (reads_int h) depth
  | @string depth text h => exact reads_at_depth (reads_string text) depth
  | @array depth items h ih =>
      rw [chars, itemChars_eq]
      refine reads_array (List.forall₂_map_left_iff.mpr ?_)
      exact List.forall₂_same.mpr ih
  | @object depth members hDistinct hNames h ih =>
      rw [chars, memberChars_eq]
      refine reads_object hDistinct (List.forall₂_map_left_iff.mpr ?_)
      exact List.forall₂_same.mpr fun member hMember => reads_memberText (ih member hMember)

theorem mem_enclosed {closing c : Char} {texts : List (List Char)} (h : c ∈ enclosed closing texts) :
    c = closing ∨ c = ',' ∨ ∃ text ∈ texts, c ∈ text := by
  cases texts with
  | nil => exact .inl (List.mem_singleton.mp h)
  | cons text texts =>
      simp only [enclosed, List.mem_append, List.mem_flatMap, List.mem_cons, List.not_mem_nil,
        or_false] at h
      rcases h with (hText | ⟨other, hOther, rfl | hMem⟩) | rfl
      · exact .inr (.inr ⟨text, List.mem_cons_self, hText⟩)
      · exact .inr (.inl rfl)
      · exact .inr (.inr ⟨other, List.mem_cons_of_mem text hOther, hMem⟩)
      · exact .inl rfl

/-- A visible character of ASCII other than the equals sign. -/
def IsVisible (c : Char) : Prop :=
  32 < c.toNat ∧ c.toNat < 127 ∧ c ≠ '='

instance (c : Char) : Decidable (IsVisible c) :=
  inferInstanceAs (Decidable (_ ∧ _ ∧ _))

theorem isVisible_of_isDigit {c : Char} (h : c.isDigit = true) : IsVisible c := by
  have hRange : 48 ≤ c.toNat ∧ c.toNat ≤ 57 := Char.isDigit_iff_toNat.mp h
  refine ⟨by omega, by omega, ?_⟩
  rintro rfl
  cases h

theorem isVisible_digitChar {digit : Nat} (h : digit < 16) : IsVisible digit.digitChar := by
  have hAll : ∀ digit < 16, IsVisible (Nat.digitChar digit) := by decide
  exact hAll digit h

section Characters

variable {allowed : Char → Prop} (hVisible : ∀ c, IsVisible c → allowed c)

include hVisible

theorem forall_mem_escapedChar {c : Char} (h : allowed c) : ∀ d ∈ escapedChar c, allowed d := by
  have hPair (d : Char) (hd : IsVisible d) : ∀ e ∈ ['\\', d], allowed e := by
    simpa using ⟨hVisible '\\' (by decide), hVisible d hd⟩
  unfold escapedChar
  repeat' split
  · exact hPair '"' (by decide)
  · exact hPair '\\' (by decide)
  · exact hPair 'n' (by decide)
  · exact hPair 'r' (by decide)
  · exact hPair 't' (by decide)
  · exact hPair 'b' (by decide)
  · exact hPair 'f' (by decide)
  · rename_i hControl
    have hHigh := hVisible _ (isVisible_digitChar (show c.toNat / 16 < 16 by omega))
    have hLow := hVisible _ (isVisible_digitChar (show c.toNat % 16 < 16 by omega))
    simpa using ⟨hVisible '\\' (by decide), hVisible 'u' (by decide), hVisible '0' (by decide),
      hHigh, hLow⟩
  · simpa using h

theorem forall_mem_stringChars {text : String} (h : ∀ c ∈ text.toList, allowed c) :
    ∀ c ∈ stringChars text, allowed c := by
  have hQuote : allowed '"' := hVisible _ (by decide)
  intro c hc
  simp only [stringChars, List.mem_append, List.mem_singleton, List.mem_flatMap] at hc
  rcases hc with (rfl | ⟨d, hd, hc⟩) | rfl
  · exact hQuote
  · exact forall_mem_escapedChar hVisible (h d hd) c hc
  · exact hQuote

theorem forall_mem_numberChars (value : Int) : ∀ c ∈ numberChars (.int value), allowed c := by
  have hDigits (size : Nat) : ∀ c ∈ Nat.toDigits 10 size, allowed c := fun c hc =>
    hVisible c (isVisible_of_isDigit (Nat.isDigit_of_mem_toDigits (by decide) (by decide) hc))
  cases value with
  | ofNat size => exact numberChars_ofNat size ▸ hDigits size
  | negSucc size =>
      rw [numberChars_negSucc]
      exact List.forall_mem_cons.mpr ⟨hVisible '-' (by decide), hDigits (size + 1)⟩

theorem forall_mem_enclosed {opening closing : Char} {texts : List (List Char)}
    (hOpening : IsVisible opening) (hClosing : IsVisible closing)
    (h : ∀ text ∈ texts, ∀ c ∈ text, allowed c) :
    ∀ c ∈ opening :: enclosed closing texts, allowed c := by
  refine List.forall_mem_cons.mpr ⟨hVisible opening hOpening, fun c hc => ?_⟩
  rcases mem_enclosed hc with rfl | rfl | ⟨text, hText, hMem⟩
  · exact hVisible _ hClosing
  · exact hVisible _ (by decide)
  · exact h text hText c hMem

theorem forall_mem_array {items : List Json} (h : ∀ item ∈ items, ∀ c ∈ item.chars, allowed c) :
    ∀ c ∈ (array items).chars, allowed c := by
  rw [chars, itemChars_eq]
  exact forall_mem_enclosed hVisible (by decide) (by decide) (List.forall_mem_map.mpr h)

theorem forall_mem_object {members : Members}
    (hNames : ∀ member ∈ members, ∀ c ∈ member.1.toList, allowed c)
    (hValues : ∀ member ∈ members, ∀ c ∈ member.2.chars, allowed c) :
    ∀ c ∈ (object members).chars, allowed c := by
  rw [chars, memberChars_eq]
  refine forall_mem_enclosed hVisible (by decide) (by decide) (List.forall_mem_map.mpr ?_)
  intro member hMember
  exact List.forall_mem_append.mpr ⟨forall_mem_stringChars hVisible (hNames member hMember),
    List.forall_mem_cons.mpr ⟨hVisible ':' (by decide), hValues member hMember⟩⟩

/-- Compact text has no characters but those of its texts, and visible ones of ASCII other than the
equals sign. -/
theorem forall_mem_chars {depth : Nat} {json : Json} (h : json.IsPlain allowed depth) :
    ∀ c ∈ json.chars, allowed c := by
  have hWord (word : List Char) (hWord : word.all (IsVisible ·) = true) : ∀ c ∈ word, allowed c :=
    fun c hc => hVisible c (of_decide_eq_true (List.all_eq_true.mp hWord c hc))
  induction h with
  | null => exact hWord _ (by decide)
  | bool value => cases value <;> exact hWord _ (by decide)
  | int h => exact forall_mem_numberChars hVisible _
  | string h => exact forall_mem_stringChars hVisible h
  | array h ih => exact forall_mem_array hVisible ih
  | object hDistinct hNames h ih =>
      exact forall_mem_object hVisible
        (fun member hMember => hNames _ (List.mem_map_of_mem hMember)) ih

end Characters

end ResponsiveImages.Json
