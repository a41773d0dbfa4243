import ResponsiveImages.Proofs.Decimal.ReadBack
import ResponsiveImages.Proofs.Json.ReadBack

/-! The compact text of a value determines the value, and where it ends in a longer text. Only a
number has no end of its own: there it depends on the next character. -/
namespace ResponsiveImages

open Decimal (IsNumberChar)

/-- A number of the format is in the form in which it is kept. -/
def Number.IsCanonical : Number → Prop
  | .int _ => True
  | .double x => x.magnitude.IsCanonical

/-- All numbers in a value are in the form in which they are kept. -/
inductive Json.IsCanonical : Json → Prop
  | null : IsCanonical .null
  | bool (value : Bool) : IsCanonical (.bool value)
  | number {value : Number} (h : value.IsCanonical) : IsCanonical (.number value)
  | string (text : String) : IsCanonical (.string text)
  | array {items : List Json} (h : ∀ item ∈ items, IsCanonical item) : IsCanonical (.array items)
  | object {members : Members} (h : ∀ member ∈ members, IsCanonical member.2) :
      IsCanonical (.object members)

/-- All numbers in the members of an object are in the form in which they are kept. -/
def Members.IsCanonical (members : Members) : Prop :=
  ∀ member ∈ members, member.2.IsCanonical

namespace Members

theorem IsCanonical.insert {members : Members} (h : members.IsCanonical) (name : String)
    {value : Json} (hValue : value.IsCanonical) : (members.insert name value).IsCanonical := by
  induction members with
  | nil => exact List.forall_mem_singleton.mpr hValue
  | cons member members ih =>
      obtain ⟨known, old⟩ := member
      obtain ⟨hMember, hMembers⟩ := List.forall_mem_cons.mp h
      unfold Members.insert
      split
      · exact List.forall_mem_cons.mpr ⟨hValue, hMembers⟩
      · exact List.forall_mem_cons.mpr ⟨hMember, ih hMembers⟩

theorem IsCanonical.merge {base layer : Members} (hBase : base.IsCanonical)
    (hLayer : layer.IsCanonical) : (base.merge layer).IsCanonical := by
  induction layer generalizing base with
  | nil => exact hBase
  | cons member layer ih =>
      obtain ⟨hMember, hMembers⟩ := List.forall_mem_cons.mp hLayer
      exact ih (hBase.insert member.1 hMember) hMembers

theorem isCanonical_ofList {members : Members} (h : members.IsCanonical) :
    (ofList members).IsCanonical :=
  IsCanonical.merge (List.forall_mem_nil _) h

end Members

namespace Json

/-- A number in front of the text ends there. -/
def StopsNumber (rest : List Char) : Prop :=
  ∀ c ∈ rest.head?, ¬ IsNumberChar c

theorem stopsNumber_cons {c : Char} (h : ¬ IsNumberChar c) (rest : List Char) :
    StopsNumber (c :: rest) := by
  intro d hd
  cases hd
  exact h

/-- In front of a text that stops numbers, the text of this entry shows where it ends and which of
the entries with the property it is. -/
def IsBounded {α : Type} (chars : α → List Char) (property : α → Prop) (entry : α) : Prop :=
  ∀ other, property other → ∀ rest otherRest, StopsNumber rest → StopsNumber otherRest →
    chars entry ++ rest = chars other ++ otherRest → entry = other ∧ rest = otherRest

theorem toDigits_injective {left right : Nat} (h : Nat.toDigits 10 left = Nat.toDigits 10 right) :
    left = right := by
  have hValues := congrArg (Nat.ofDigitChars 10 · 0) h
  simpa only [Nat.ofDigitChars_ten_toDigits] using hValues

/-- A sign is not a digit. -/
theorem toDigits_ne_cons (number : Nat) (digits : List Char) :
    Nat.toDigits 10 number ≠ '-' :: digits := fun h => by
  have hDigit := Decimal.allDigits_toDigits number '-' (h ▸ List.mem_cons_self)
  cases hDigit

theorem numberChars_int_injective {left right : Int}
    (h : numberChars (.int left) = numberChars (.int right)) : left = right := by
  cases left with
  | ofNat left =>
      rw [Reader.numberChars_ofNat] at h
      cases right with
      | ofNat right =>
          rw [Reader.numberChars_ofNat] at h
          exact congrArg Int.ofNat (toDigits_injective h)
      | negSucc right =>
          rw [Reader.numberChars_negSucc] at h
          exact absurd h (toDigits_ne_cons _ _)
  | negSucc left =>
      rw [Reader.numberChars_negSucc] at h
      cases right with
      | ofNat right =>
          rw [Reader.numberChars_ofNat] at h
          exact absurd h.symm (toDigits_ne_cons _ _)
      | negSucc right =>
          rw [Reader.numberChars_negSucc] at h
          exact congrArg Int.negSucc (Nat.succ.inj (toDigits_injective (List.cons.inj h).2))

theorem mem_numberChars_int {value : Int} :
    ∀ c ∈ numberChars (.int value), c.isDigit = true ∨ c = '-' := by
  intro c hc
  cases value with
  | ofNat size =>
      rw [Reader.numberChars_ofNat] at hc
      exact .inl (Decimal.allDigits_toDigits _ c hc)
  | negSucc size =>
      rw [Reader.numberChars_negSucc] at hc
      rcases List.mem_cons.mp hc with rfl | hc
      · exact .inr rfl
      · exact .inl (Decimal.allDigits_toDigits _ c hc)

/-- A point or an exponent tells the other numbers from the integers. -/
theorem numberChars_int_ne_double (value : Int) (x : Decimal.Double) :
    numberChars (.int value) ≠ numberChars (.double x) := by
  intro h
  have hMarked : '.' ∈ numberChars (.double x) ∨ 'e' ∈ numberChars (.double x) :=
    Decimal.Double.mark_mem_text .data x
  rw [← h] at hMarked
  rcases hMarked with hMark | hMark
  · exact (mem_numberChars_int '.' hMark).elim (by decide) (by decide)
  · exact (mem_numberChars_int 'e' hMark).elim (by decide) (by decide)

theorem isNumberChar_of_mem (value : Number) : ∀ c ∈ numberChars value, IsNumberChar c := by
  intro c hc
  cases value with
  | int value =>
      rcases mem_numberChars_int c hc with hDigit | rfl
      · exact .inl hDigit
      · decide
  | double x => exact Decimal.Double.isNumberChar_of_mem_text c hc

theorem numberChars_injective {left right : Number} (hLeft : left.IsCanonical)
    (hRight : right.IsCanonical) (h : numberChars left = numberChars right) : left = right := by
  cases left with
  | int left =>
      cases right with
      | int right => exact congrArg Number.int (numberChars_int_injective h)
      | double y => exact absurd h (numberChars_int_ne_double left y)
  | double x =>
      cases right with
      | int right => exact absurd h.symm (numberChars_int_ne_double right x)
      | double y =>
          have hText := String.toList_inj.mp h
          exact congrArg Number.double (Decimal.Double.text_injective hLeft hRight hText)

/-- A number is taken to its last character. -/
theorem takeWhile_dropWhile_number {text rest : List Char} (h : ∀ c ∈ text, IsNumberChar c)
    (hRest : StopsNumber rest) :
    (text ++ rest).takeWhile (IsNumberChar ·) = text ∧
      (text ++ rest).dropWhile (IsNumberChar ·) = rest := by
  have hText : ∀ c ∈ text, decide (IsNumberChar c) = true := fun c hc => decide_eq_true (h c hc)
  rw [List.takeWhile_append_of_pos hText, List.dropWhile_append_of_pos hText]
  cases rest with
  | nil => simp
  | cons c rest => simp [hRest c rfl]

theorem isBounded_numberChars {value : Number} (h : value.IsCanonical) :
    IsBounded numberChars Number.IsCanonical value := by
  intro other hOther rest otherRest hRest hOtherRest hText
  obtain ⟨hTaken, hLeft⟩ := takeWhile_dropWhile_number (isNumberChar_of_mem value) hRest
  obtain ⟨hOtherTaken, hOtherLeft⟩ := takeWhile_dropWhile_number (isNumberChar_of_mem other) hOtherRest
  rw [hText] at hTaken hLeft
  have hSame := numberChars_injective h hOther (hTaken.symm.trans hOtherTaken)
  exact ⟨hSame, hLeft.symm.trans hOtherLeft⟩

/-- What is read between quotes depends on the text alone, and it was written for one string. -/
theorem stringChars_append_inj {text other : String} {rest otherRest : List Char}
    (h : stringChars text ++ rest = stringChars other ++ otherRest) :
    text = other ∧ rest = otherRest := by
  have hBody : text.toList.flatMap escapedChar ++ '"' :: rest =
      other.toList.flatMap escapedChar ++ '"' :: otherRest := by
    simpa [stringChars] using h
  have hRead := Reader.stringRest_flatMap text rest
  rw [hBody, Reader.stringRest_flatMap] at hRead
  obtain ⟨hText, hRest⟩ := Prod.mk.inj (Except.ok.inj hRead)
  exact ⟨hText.symm, hRest.symm⟩

section Entries

open Reader (IsClosing enclosed)

variable {α : Type} {chars : α → List Char} {property : α → Prop} {closing : Char}
  {entries others : List α} {rest otherRest : List Char}

theorem stopsNumber_comma (rest : List Char) : StopsNumber (',' :: rest) :=
  stopsNumber_cons (by decide) rest

theorem stopsNumber_closing (hClosing : IsClosing closing) (rest : List Char) :
    StopsNumber (closing :: rest) := by
  rcases hClosing with rfl | rfl <;> exact stopsNumber_cons (by decide) rest

/-- Behind an entry comes a comma or the closing bracket. -/
theorem stopsNumber_flatMap (hClosing : IsClosing closing) (texts : List (List Char))
    (rest : List Char) : StopsNumber (texts.flatMap (',' :: ·) ++ closing :: rest) := by
  cases texts with
  | nil => exact stopsNumber_closing hClosing rest
  | cons text texts => exact stopsNumber_comma _

/-- Entries with a comma in front of each. -/
theorem flatMap_append_inj (hClosing : IsClosing closing)
    (h : ∀ entry ∈ entries, IsBounded chars property entry)
    (hOthers : ∀ other ∈ others, property other)
    (hText : (entries.map chars).flatMap (',' :: ·) ++ closing :: rest =
      (others.map chars).flatMap (',' :: ·) ++ closing :: otherRest) :
    entries = others ∧ rest = otherRest := by
  induction entries generalizing others with
  | nil =>
      cases others with
      | nil => exact ⟨rfl, (List.cons.inj hText).2⟩
      | cons other others => exact absurd (List.cons.inj hText).1 hClosing.ne_comma
  | cons entry entries ih =>
      cases others with
      | nil => exact absurd (List.cons.inj hText).1.symm hClosing.ne_comma
      | cons other others =>
          obtain ⟨hEntry, hEntries⟩ := List.forall_mem_cons.mp h
          obtain ⟨hOther, hMore⟩ := List.forall_mem_cons.mp hOthers
          simp only [List.map_cons, List.flatMap_cons, List.append_assoc, List.cons_append] at hText
          obtain ⟨rfl, hRest⟩ := hEntry other hOther _ _ (stopsNumber_flatMap hClosing _ rest)
            (stopsNumber_flatMap hClosing _ otherRest) (List.cons.inj hText).2
          obtain ⟨rfl, hEnd⟩ := ih hEntries hMore hRest
          exact ⟨rfl, hEnd⟩

theorem enclosed_cons_append (text : List Char) (texts : List (List Char)) :
    enclosed closing (text :: texts) ++ rest =
      text ++ (texts.flatMap (',' :: ·) ++ closing :: rest) := by
  simp [enclosed]

/-- Entries between brackets. No entry begins with the closing one. -/
theorem enclosed_append_inj (hClosing : IsClosing closing)
    (h : ∀ entry ∈ entries, IsBounded chars property entry)
    (hOthers : ∀ other ∈ others, property other)
    (hBegins : ∀ entry, ∃ c more, chars entry = c :: more ∧ c ≠ closing)
    (hText : enclosed closing (entries.map chars) ++ rest =
      enclosed closing (others.map chars) ++ otherRest) : entries = others ∧ rest = otherRest := by
  cases entries with
  | nil =>
      cases others with
      | nil => exact ⟨rfl, (List.cons.inj hText).2⟩
      | cons other others =>
          obtain ⟨c, more, hFirst, hOther⟩ := hBegins other
          rw [List.map_cons, enclosed_cons_append, hFirst] at hText
          exact absurd (List.cons.inj hText).1.symm hOther
  | cons entry entries =>
      obtain ⟨hEntry, hEntries⟩ := List.forall_mem_cons.mp h
      rw [List.map_cons, enclosed_cons_append] at hText
      cases others with
      | nil =>
          obtain ⟨c, more, hFirst, hOther⟩ := hBegins entry
          rw [hFirst] at hText
          exact absurd (List.cons.inj hText).1 hOther
      | cons other others =>
          obtain ⟨hOther, hMore⟩ := List.forall_mem_cons.mp hOthers
          rw [List.map_cons, enclosed_cons_append] at hText
          obtain ⟨rfl, hRest⟩ := hEntry other hOther _ _ (stopsNumber_flatMap hClosing _ rest)
            (stopsNumber_flatMap hClosing _ otherRest) hText
          obtain ⟨rfl, hEnd⟩ := flatMap_append_inj hClosing hEntries hMore hRest
          exact ⟨rfl, hEnd⟩

end Entries

/-- The kinds of values. -/
inductive Kind where
  | null
  | bool
  | number
  | string
  | array
  | object
  deriving DecidableEq

def kind : Json → Kind
  | .null => .null
  | .bool _ => .bool
  | .number _ => .number
  | .string _ => .string
  | .array _ => .array
  | .object _ => .object

/-- The kind of value that begins with a character. -/
def kindOf (first : Char) : Kind :=
  match first with
  | 'n' => .null
  | 't' => .bool
  | 'f' => .bool
  | '"' => .string
  | '[' => .array
  | '\x7b' => .object
  | _ => .number

theorem kindOf_of_beginsNumber {c : Char} (h : Reader.BeginsNumber c) : kindOf c = .number := by
  unfold kindOf
  split
  · exact absurd h (by decide)
  · exact absurd h (by decide)
  · exact absurd h (by decide)
  · exact absurd h (by decide)
  · exact absurd h (by decide)
  · exact absurd h (by decide)
  · rfl

theorem exists_beginsNumber (value : Number) :
    ∃ c more, numberChars value = c :: more ∧ Reader.BeginsNumber c := by
  cases value with
  | int value => exact Reader.exists_beginsNumber value
  | double x =>
      obtain ⟨c, more, hText, hFirst⟩ := Decimal.Double.exists_first_text .data x
      exact ⟨c, more, hText, hFirst.imp id Reader.isAsciiDigit_of_isDigit⟩

/-- The first character of a text shows the kind of the value. -/
theorem exists_kindOf (json : Json) :
    ∃ c more, json.chars = c :: more ∧ kindOf c = json.kind ∧ c ≠ ']' := by
  cases json with
  | null => exact ⟨_, _, rfl, rfl, by decide⟩
  | bool value => cases value <;> exact ⟨_, _, rfl, rfl, by decide⟩
  | number value =>
      obtain ⟨c, more, hText, hBegins⟩ := exists_beginsNumber value
      exact ⟨c, more, hText, kindOf_of_beginsNumber hBegins, hBegins.ne (by decide)⟩
  | string text => exact ⟨_, _, rfl, rfl, by decide⟩
  | array items => exact ⟨_, _, rfl, rfl, by decide⟩
  | object members => exact ⟨_, _, rfl, rfl, by decide⟩

theorem kind_eq {json other : Json} {rest otherRest : List Char}
    (h : json.chars ++ rest = other.chars ++ otherRest) : other.kind = json.kind := by
  obtain ⟨c, more, hText, hKind, -⟩ := exists_kindOf json
  obtain ⟨d, otherMore, hOtherText, hOtherKind, -⟩ := exists_kindOf other
  rw [hText, hOtherText] at h
  rw [← hKind, ← hOtherKind, (List.cons.inj h).1]

theorem exists_item (item : Json) : ∃ c more, item.chars = c :: more ∧ c ≠ ']' := by
  obtain ⟨c, more, hText, -, hClosing⟩ := exists_kindOf item
  exact ⟨c, more, hText, hClosing⟩

theorem exists_member (member : String × Json) :
    ∃ c more, memberText member = c :: more ∧ c ≠ '\x7d' :=
  ⟨'"', _, rfl, by decide⟩

theorem isBounded_member {member : String × Json} (h : IsBounded chars IsCanonical member.2) :
    IsBounded memberText (fun other => other.2.IsCanonical) member := by
  intro other hOther rest otherRest hRest hOtherRest hText
  simp only [memberText, List.append_assoc, List.cons_append] at hText
  obtain ⟨hName, hBehind⟩ := stringChars_append_inj hText
  obtain ⟨hValue, hEnd⟩ := h _ hOther _ _ hRest hOtherRest (List.cons.inj hBehind).2
  exact ⟨Prod.ext hName hValue, hEnd⟩

theorem isBounded_null : IsBounded chars IsCanonical .null := by
  intro other hOther rest otherRest _ _ hText
  cases hOther with
  | null => exact ⟨rfl, List.append_cancel_left hText⟩
  | _ => cases kind_eq hText

theorem isBounded_bool (value : Bool) : IsBounded chars IsCanonical (.bool value) := by
  intro other hOther rest otherRest _ _ hText
  cases hOther with
  | bool other =>
      -- The two words differ in their first letters.
      cases value <;> cases other
      · exact ⟨rfl, List.append_cancel_left hText⟩
      · exact absurd (List.cons.inj hText).1 (by decide)
      · exact absurd (List.cons.inj hText).1 (by decide)
      · exact ⟨rfl, List.append_cancel_left hText⟩
  | _ => cases kind_eq hText

theorem isBounded_number {value : Number} (h : value.IsCanonical) :
    IsBounded chars IsCanonical (.number value) := by
  intro other hOther rest otherRest hRest hOtherRest hText
  cases hOther with
  | number hOther =>
      obtain ⟨rfl, hEnd⟩ := isBounded_numberChars h _ hOther rest otherRest hRest hOtherRest hText
      exact ⟨rfl, hEnd⟩
  | _ => cases kind_eq hText

theorem isBounded_string (text : String) : IsBounded chars IsCanonical (.string text) := by
  intro other hOther rest otherRest _ _ hText
  cases hOther with
  | string other =>
      obtain ⟨rfl, hEnd⟩ := stringChars_append_inj hText
      exact ⟨rfl, hEnd⟩
  | _ => cases kind_eq hText

theorem isBounded_array {items : List Json} (h : ∀ item ∈ items, IsBounded chars IsCanonical item) :
    IsBounded chars IsCanonical (.array items) := by
  intro other hOther rest otherRest _ _ hText
  cases hOther with
  | array hOthers =>
      rw [chars, chars, itemChars_eq, itemChars_eq] at hText
      obtain ⟨rfl, hEnd⟩ := enclosed_append_inj (.inl rfl) h hOthers exists_item
        (List.cons.inj hText).2
      exact ⟨rfl, hEnd⟩
  | _ => cases kind_eq hText

theorem isBounded_object {members : Members}
    (h : ∀ member ∈ members, IsBounded chars IsCanonical member.2) :
    IsBounded chars IsCanonical (.object members) := by
  intro other hOther rest otherRest _ _ hText
  cases hOther with
  | object hOthers =>
      rw [chars, chars, memberChars_eq, memberChars_eq] at hText
      have hMembers : ∀ member ∈ members,
          IsBounded memberText (fun other => other.2.IsCanonical) member := fun member hMember =>
        isBounded_member (h member hMember)
      obtain ⟨rfl, hEnd⟩ := enclosed_append_inj (.inr rfl) hMembers hOthers exists_member
        (List.cons.inj hText).2
      exact ⟨rfl, hEnd⟩
  | _ => cases kind_eq hText

/-- The text of a value shows where it ends and which value it is. -/
theorem isBounded_chars {json : Json} (h : json.IsCanonical) :
    IsBounded chars IsCanonical json := by
  induction h with
  | null => exact isBounded_null
  | bool value => exact isBounded_bool value
  | number h => exact isBounded_number h
  | string text => exact isBounded_string text
  | array h ih => exact isBounded_array ih
  | object h ih => exact isBounded_object ih

end Json

end ResponsiveImages
