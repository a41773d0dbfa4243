import Mathlib.Data.List.TakeWhile
import ResponsiveImages.Markup.TagContent
import ResponsiveImages.Proofs.Results

/-! How the attributes of a tag are written. A value stands in quotes, stands alone or is left out,
and blanks may surround its equals sign. A list of attributes is read exactly if it is written in one
of these ways, and what is read does not depend on where blanks stand. -/
namespace ResponsiveImages.Markup

open Text (byteLength)

/-- A text is taken up to the first character that ends it. -/
theorem takeWhile_dropWhile_append {condition : Char → Bool} {cs rest : List Char}
    (hInside : ∀ c ∈ cs, condition c = true) (hEnd : ∀ c ∈ rest.head?, condition c = false) :
    (cs ++ rest).takeWhile condition = cs ∧ (cs ++ rest).dropWhile condition = rest := by
  rw [List.takeWhile_append_of_pos hInside, List.dropWhile_append_of_pos hInside]
  cases rest with
  | nil => simp
  | cons c rest => simp [hEnd c rfl]

def AllBlank (cs : List Char) : Prop := ∀ c ∈ cs, isMarkupSpace c = true

/-- The text is empty or begins with a blank. -/
def BreaksOff (cs : List Char) : Prop := ∀ c ∈ cs.head?, isMarkupSpace c = true

/-- How a value is written, with the blanks in front of its equals sign and behind it. -/
inductive ValueText where
  | absent
  | quoted (before behind : List Char) (quote : Char) (value : List Char)
  | unquoted (before behind value : List Char)

namespace ValueText

/-- Everything behind the key, quotes included. -/
def text : ValueText → List Char
  | absent => []
  | quoted before behind quote value => before ++ '=' :: (behind ++ quote :: (value ++ [quote]))
  | unquoted before behind value => before ++ '=' :: (behind ++ value)

def value : ValueText → List Char
  | absent => []
  | quoted _ _ _ value => value
  | unquoted _ _ value => value

/-- What the parser takes for the place of the value. An empty value has none. -/
def counted (written : ValueText) : List Char :=
  if written.value.isEmpty then [] else written.text

/-- Quotes with nothing between them. -/
def IsEmptyQuoted (written : ValueText) : Prop :=
  ∃ before behind quote, written = quoted before behind quote []

/-- The value ends where the rest begins. Quotes end by themselves, and a value that is left out has
no equals sign behind its key. -/
def StandsBefore (behindValue : List Char) : ValueText → Prop
  | absent => BreaksOff behindValue ∧ (behindValue.dropWhile isMarkupSpace).head? ≠ some '='
  | quoted before behind quote value =>
    AllBlank before ∧ AllBlank behind ∧ (quote = '"' ∨ quote = '\'') ∧ quote ∉ value
  | unquoted before behind value =>
    AllBlank before ∧ AllBlank behind ∧ (∃ c rest, value = c :: rest ∧ ¬ (c = '"' ∨ c = '\'')) ∧
      (∀ c ∈ value, isMarkupSpace c = false) ∧ BreaksOff behindValue

/-- Only of empty quotes the parser takes less than there is. -/
theorem counted_eq_text_iff {written : ValueText} {behind : List Char}
    (h : written.StandsBefore behind) :
    written.counted = written.text ↔ ¬ written.IsEmptyQuoted := by
  cases written with
  | absent => simp [counted, text, IsEmptyQuoted]
  | quoted before between quote content =>
      cases content <;> simp [counted, value, text, IsEmptyQuoted]
  | unquoted before between content =>
      obtain ⟨-, -, ⟨c, rest, rfl, -⟩, -, -⟩ := h
      simp [counted, value, text, IsEmptyQuoted]

end ValueText

namespace WrittenAttribute

theorem isMarkupSpace_equals : isMarkupSpace '=' = false := by decide

theorem isMarkupSpace_quote {c : Char} (h : c = '"' ∨ c = '\'') : isMarkupSpace c = false := by
  rcases h with rfl | rfl <;> decide

/-- Blanks in front of what is none are passed over. -/
theorem dropWhile_blanks {blanks rest : List Char} {c : Char} (hBlanks : AllBlank blanks)
    (hFirst : isMarkupSpace c = false) :
    (blanks ++ c :: rest).dropWhile isMarkupSpace = c :: rest :=
  (takeWhile_dropWhile_append hBlanks (by simpa using hFirst)).2

/-- What is dropped was taken, up to the first character that ends it. -/
theorem cut_of_dropWhile {condition : Char → Bool} {cs rest : List Char} {c : Char}
    (h : cs.dropWhile condition = c :: rest) :
    condition c = false ∧ cs = cs.takeWhile condition ++ c :: rest := by
  have hFirst := List.head?_dropWhile_not condition cs
  rw [h] at hFirst
  exact ⟨hFirst, by rw [← h, List.takeWhile_append_dropWhile]⟩

theorem exists_blanks {cs rest : List Char} {c : Char}
    (h : cs.dropWhile isMarkupSpace = c :: rest) :
    isMarkupSpace c = false ∧ ∃ blanks, AllBlank blanks ∧ cs = blanks ++ c :: rest := by
  obtain ⟨hFirst, hCut⟩ := cut_of_dropWhile h
  exact ⟨hFirst, cs.takeWhile isMarkupSpace, fun d hd => List.mem_takeWhile_imp hd, hCut⟩

/-- A value is read as it is written. Blanks behind a key without a value are passed over. -/
theorem readValue_text (keyStop : Nat) {written : ValueText} {behindValue : List Char}
    (h : written.StandsBefore behindValue) :
    ∃ blanks rest, AllBlank blanks ∧ behindValue = blanks ++ rest ∧
      readValue keyStop (written.text ++ behindValue) =
        .ok (written.value, keyStop + byteLength written.counted, rest) := by
  cases written with
  | absent =>
      refine ⟨behindValue.takeWhile isMarkupSpace, behindValue.dropWhile isMarkupSpace,
        fun d hd => List.mem_takeWhile_imp hd, List.takeWhile_append_dropWhile.symm, ?_⟩
      simp only [readValue, ValueText.text, ValueText.value, List.nil_append]
      split
      · rename_i behind hEquals
        exact absurd (by rw [hEquals]; rfl) h.2
      · rfl
  | quoted before behind quote content =>
      obtain ⟨hBefore, hBehind, hQuote, hEnd⟩ := h
      have hInside : ∀ c ∈ content, decide (c ≠ quote) = true := fun c hc =>
        decide_eq_true fun hSame => hEnd (hSame ▸ hc)
      obtain ⟨hTake, hDrop⟩ := takeWhile_dropWhile_append hInside
        (by simp : ∀ c ∈ (quote :: behindValue).head?, decide (c ≠ quote) = false)
      have hText : (ValueText.quoted before behind quote content).text ++ behindValue =
          before ++ '=' :: (behind ++ quote :: (content ++ quote :: behindValue)) := by
        simp [ValueText.text]
      refine ⟨[], behindValue, List.forall_mem_nil _, rfl, ?_⟩
      simp only [hText, readValue, dropWhile_blanks hBefore isMarkupSpace_equals,
        dropWhile_blanks hBehind (isMarkupSpace_quote hQuote), if_pos hQuote, hTake, hDrop,
        ValueText.value, Except.ok.injEq, Prod.mk.injEq, true_and, and_true]
      rw [← hText, Text.byteLength_append, Nat.add_sub_cancel]
      cases content <;> simp [ValueText.counted, ValueText.value]
  | unquoted before behind content =>
      obtain ⟨hBefore, hBehind, ⟨c, rest, rfl, hQuote⟩, hInside, hEnd⟩ := h
      have hNone : ∀ d ∈ c :: rest, (!isMarkupSpace d) = true := fun d hd => by
        simp [hInside d hd]
      obtain ⟨hTake, hDrop⟩ := takeWhile_dropWhile_append hNone
        (fun d hd => by simp [hEnd d hd] : ∀ d ∈ behindValue.head?, (!isMarkupSpace d) = false)
      have hText : (ValueText.unquoted before behind (c :: rest)).text ++ behindValue =
          before ++ '=' :: (behind ++ c :: (rest ++ behindValue)) := by
        simp [ValueText.text]
      rw [List.cons_append] at hTake hDrop
      refine ⟨[], behindValue, List.forall_mem_nil _, rfl, ?_⟩
      simp only [hText, readValue, dropWhile_blanks hBefore isMarkupSpace_equals,
        dropWhile_blanks hBehind (hInside c List.mem_cons_self), if_neg hQuote, hTake, hDrop,
        ValueText.value, Except.ok.injEq, Prod.mk.injEq, true_and, and_true]
      rw [← hText, Text.byteLength_append, Nat.add_sub_cancel]
      rfl

/-- What is read as a value is written in one of the ways. -/
theorem exists_valueText {keyStop : Nat} {cs : List Char} {read : List Char × Nat × List Char}
    (hFirst : ∀ c ∈ cs.head?, c = '=' ∨ isMarkupSpace c = true)
    (h : readValue keyStop cs = .ok read) :
    ∃ written : ValueText, ∃ behindValue, cs = written.text ++ behindValue ∧
      written.StandsBefore behindValue := by
  unfold readValue at h
  split at h
  · rename_i behind hEquals
    obtain ⟨-, before, hBefore, rfl⟩ := exists_blanks hEquals
    dsimp only at h
    split at h
    · cases h
    · rename_i c rest hValue
      obtain ⟨hNoBlank, between, hBetween, rfl⟩ := exists_blanks hValue
      split at h
      · rename_i hQuote
        split at h
        · cases h
        · rename_i quote behindValue hEnd
          obtain ⟨hQuoteEnds, hRest⟩ := cut_of_dropWhile hEnd
          obtain rfl : quote = c := by simpa using hQuoteEnds
          refine ⟨.quoted before between quote (rest.takeWhile (· ≠ quote)), behindValue, ?_,
            hBefore, hBetween, hQuote, fun hMem => ?_⟩
          · simpa [ValueText.text] using hRest
          · simpa using List.mem_takeWhile_imp hMem
      · rename_i hQuote
        have hRest := List.takeWhile_append_dropWhile (p := (!isMarkupSpace ·)) (l := c :: rest)
        refine ⟨.unquoted before between ((c :: rest).takeWhile (!isMarkupSpace ·)),
          (c :: rest).dropWhile (!isMarkupSpace ·), ?_, hBefore, hBetween,
          ⟨c, rest.takeWhile (!isMarkupSpace ·), by simp [hNoBlank], hQuote⟩, fun d hd => ?_,
          fun d hd => ?_⟩
        · rw [ValueText.text, List.append_assoc, List.cons_append, List.append_assoc, hRest]
        · simpa using List.mem_takeWhile_imp hd
        · obtain ⟨behind, hBehind⟩ := List.head?_eq_some_iff.mp (Option.mem_def.mp hd)
          simpa using (cut_of_dropWhile hBehind).1
  · rename_i hNone
    have hNoEquals : (cs.dropWhile isMarkupSpace).head? ≠ some '=' := fun hHead => by
      obtain ⟨behind, hBehind⟩ := List.head?_eq_some_iff.mp hHead
      exact hNone behind hBehind
    refine ⟨.absent, cs, rfl, fun c hc => ?_, hNoEquals⟩
    rcases hFirst c hc with rfl | hBlank
    · obtain ⟨rest, rfl⟩ := List.head?_eq_some_iff.mp (Option.mem_def.mp hc)
      exact absurd (by rw [List.dropWhile_cons_of_neg (by decide)]; rfl) hNoEquals
    · exact hBlank

end WrittenAttribute

/-- A key as it is read. Only its first character may be an equals sign. -/
def WrittenAttribute.IsKey (key : List Char) : Prop :=
  ∃ c cs, key = c :: cs ∧ isMarkupSpace c = false ∧ ∀ c ∈ cs, c ≠ '=' ∧ isMarkupSpace c = false

/-- How an attribute is written, with the blanks in front of it. -/
structure AttributeText where
  blanks : List Char
  key : List Char
  value : ValueText

namespace AttributeText

/-- Everything from the key to the end of the value, closing quote included. -/
def content (written : AttributeText) : List Char :=
  written.key ++ written.value.text

def text (written : AttributeText) : List Char :=
  written.blanks ++ written.content

/-- What the parser takes for the place of the attribute. -/
def counted (written : AttributeText) : List Char :=
  written.key ++ written.value.counted

structure StandsBefore (behind : List Char) (written : AttributeText) : Prop where
  blanks : AllBlank written.blanks
  key : WrittenAttribute.IsKey written.key
  value : written.value.StandsBefore behind

/-- The attribute as the parser reads it, when its blanks begin at the place. -/
def read (place : Nat) (written : AttributeText) : WrittenAttribute :=
  let start := place + byteLength written.blanks
  ⟨written.key, written.value.value, start, start + byteLength written.counted⟩

end AttributeText

/-- A text and the attributes in it, one behind the other. -/
inductive IsWrittenAs : List Char → List AttributeText → Prop
  | done {blanks : List Char} (hBlanks : AllBlank blanks) : IsWrittenAs blanks []
  | next {written : AttributeText} {behind : List Char} {more : List AttributeText}
      (hFirst : written.StandsBefore behind) (hMore : IsWrittenAs behind more) :
      IsWrittenAs (written.text ++ behind) (written :: more)

def readAttributes : Nat → List AttributeText → List WrittenAttribute
  | _, [] => []
  | place, written :: more =>
    written.read place :: readAttributes (place + byteLength written.text) more

namespace WrittenAttribute

/-- A key ends where its value begins. -/
theorem head?_text {written : ValueText} {behind : List Char} (h : written.StandsBefore behind) :
    ∀ c ∈ (written.text ++ behind).head?, c = '=' ∨ isMarkupSpace c = true := by
  have hEquals : ∀ {before rest : List Char}, AllBlank before →
      ∀ c ∈ (before ++ '=' :: rest).head?, c = '=' ∨ isMarkupSpace c = true := by
    intro before rest hBefore c hc
    cases before with
    | nil => exact Or.inl (Option.mem_some_iff.mp hc).symm
    | cons d before =>
        obtain rfl := Option.mem_some_iff.mp hc
        exact Or.inr (hBefore d List.mem_cons_self)
  cases written with
  | absent => exact fun c hc => Or.inr (h.1 c hc)
  | quoted before between quote content =>
      rw [ValueText.text, List.append_assoc, List.cons_append]
      exact hEquals h.1
  | unquoted before between content =>
      rw [ValueText.text, List.append_assoc, List.cons_append]
      exact hEquals h.1

/-- The characters behind the first one that belong to a key. -/
theorem cut_behind_key {key behind : List Char} {written : ValueText}
    (hKey : ∀ c ∈ key, c ≠ '=' ∧ isMarkupSpace c = false) (h : written.StandsBefore behind) :
    let inKey := fun c => decide (c ≠ '=') && !isMarkupSpace c
    (key ++ (written.text ++ behind)).takeWhile inKey = key ∧
      (key ++ (written.text ++ behind)).dropWhile inKey = written.text ++ behind := by
  refine takeWhile_dropWhile_append (fun c hc => by simp [hKey c hc]) fun c hc => ?_
  rcases head?_text h c hc with rfl | hBlank
  · simp
  · simp [hBlank]

/-- The first attribute is read as it is written, and then the text behind it. Blanks in front of the
attribute may have been passed over before. -/
theorem readFrom_text {written : AttributeText} {behind passed unread : List Char}
    (h : written.StandsBefore behind) (fuel place : Nat) (hPassed : AllBlank passed)
    (hText : written.text ++ behind = passed ++ unread) :
    ∃ blanks rest, AllBlank blanks ∧ behind = blanks ++ rest ∧
      readFrom (fuel + 1) (place + byteLength passed) unread = (do
        let more ← readFrom fuel (place + byteLength written.text + byteLength blanks) rest
        .ok (written.read place :: more)) := by
  obtain ⟨hBlanks, ⟨c, key, hKey, hNoBlank, hInside⟩, hValue⟩ := h
  have hCut : written.text ++ behind =
      written.blanks ++ c :: (key ++ (written.value.text ++ behind)) := by
    simp [AttributeText.text, AttributeText.content, hKey]
  have hUnread : unread.dropWhile isMarkupSpace =
      c :: (key ++ (written.value.text ++ behind)) := by
    rw [← List.dropWhile_append_of_pos hPassed, ← hText, hCut, dropWhile_blanks hBlanks hNoBlank]
  obtain ⟨hTake, hDrop⟩ := cut_behind_key hInside hValue
  obtain ⟨blanks, rest, hRest, rfl, hRead⟩ := readValue_text
    (place + byteLength written.blanks + byteLength written.key) hValue
  rw [hKey] at hRead
  -- What is unread begins with blanks of the attribute that were not passed over yet.
  have hLength := congrArg byteLength (hText.symm.trans hCut)
  have hBefore := congrArg byteLength (cut_of_dropWhile hUnread).2
  simp only [Text.byteLength_append, Text.byteLength_cons] at hLength hBefore
  have hStart : place + byteLength passed + (byteLength unread -
      byteLength (c :: (key ++ (written.value.text ++ (blanks ++ rest))))) =
      place + byteLength written.blanks := by
    simp only [Text.byteLength_append, Text.byteLength_cons]
    omega
  have hPlace : place + byteLength passed + (byteLength unread - byteLength rest) =
      place + byteLength written.text + byteLength blanks := by
    simp only [AttributeText.text, AttributeText.content, hKey, Text.byteLength_append,
      Text.byteLength_cons]
    omega
  refine ⟨blanks, rest, hRest, rfl, ?_⟩
  simp only [readFrom, hUnread, hTake, hDrop, hStart, hRead, bind, Except.bind, hPlace,
    AttributeText.read, AttributeText.counted, hKey, Text.byteLength_append,
    Nat.add_assoc (place + byteLength written.blanks)]

/-- Attributes are read as they are written. The induction is on the attributes; each of them leaves
it to the next one how many blanks were passed over. -/
theorem readFrom_of_isWrittenAs {cs : List Char} {texts : List AttributeText}
    (h : IsWrittenAs cs texts) {fuel place : Nat} (hFuel : texts.length ≤ fuel)
    {passed unread : List Char} (hPassed : AllBlank passed) (hText : cs = passed ++ unread) :
    readFrom fuel (place + byteLength passed) unread = .ok (readAttributes place texts) := by
  induction h generalizing fuel place passed unread with
  | done hBlanks =>
      subst hText
      have hUnread : unread.dropWhile isMarkupSpace = [] :=
        List.dropWhile_eq_nil_iff.mpr fun c hc => hBlanks c (List.mem_append_right passed hc)
      cases fuel with
      | zero => rfl
      | succ fuel => simp [readFrom, hUnread, readAttributes]
  | next hFirst _ ih =>
      cases fuel with
      | zero => simp at hFuel
      | succ fuel =>
          obtain ⟨blanks, rest, hBlanks, rfl, hRead⟩ :=
            readFrom_text hFirst fuel place hPassed hText
          rw [hRead, ih (Nat.le_of_succ_le_succ hFuel) hBlanks rfl]
          rfl

/-- More blanks in front of attributes belong to the first one. -/
theorem isWrittenAs_blanks {blanks cs : List Char} {texts : List AttributeText}
    (hBlanks : AllBlank blanks) (h : IsWrittenAs cs texts) :
    ∃ texts, IsWrittenAs (blanks ++ cs) texts := by
  cases h with
  | done hRest => exact ⟨[], .done (List.forall_mem_append.mpr ⟨hBlanks, hRest⟩)⟩
  | @next written behind more hFirst hMore =>
      refine ⟨{ written with blanks := blanks ++ written.blanks } :: more, ?_⟩
      have hText : blanks ++ (written.text ++ behind) =
          { written with blanks := blanks ++ written.blanks }.text ++ behind := by
        simp [AttributeText.text, AttributeText.content]
      rw [hText]
      exact .next ⟨List.forall_mem_append.mpr ⟨hBlanks, hFirst.blanks⟩, hFirst.key,
        hFirst.value⟩ hMore

/-- What is read as an attribute is written as one. -/
theorem exists_attributeText {keyStop : Nat} {c : Char} {blanks rest : List Char}
    {read : List Char × Nat × List Char} (hBlanks : AllBlank blanks)
    (hNoBlank : isMarkupSpace c = false)
    (h : readValue keyStop (rest.dropWhile fun c => decide (c ≠ '=') && !isMarkupSpace c) =
      .ok read) :
    ∃ written : AttributeText, ∃ passed, AllBlank passed ∧
      blanks ++ c :: rest = written.text ++ (passed ++ read.2.2) ∧
      written.StandsBefore (passed ++ read.2.2) := by
  generalize hInKey : (fun c => decide (c ≠ '=') && !isMarkupSpace c) = inKey at h
  have hEnd : ∀ d ∈ (rest.dropWhile inKey).head?, d = '=' ∨ isMarkupSpace d = true := by
    intro d hd
    obtain ⟨behind, hBehind⟩ := List.head?_eq_some_iff.mp (Option.mem_def.mp hd)
    have hLast := (cut_of_dropWhile hBehind).1
    rw [← hInKey] at hLast
    by_cases hEquals : d = '='
    · exact Or.inl hEquals
    · exact Or.inr (by simpa [hEquals] using hLast)
  obtain ⟨written, behind, hText, hStands⟩ := exists_valueText hEnd h
  obtain ⟨passed, unread, hPassed, rfl, hAgain⟩ := readValue_text keyStop hStands
  rw [hText, hAgain, Except.ok.injEq] at h
  subst h
  refine ⟨⟨blanks, c :: rest.takeWhile inKey, written⟩, passed, hPassed, ?_, hBlanks, ?_, hStands⟩
  · have hRest := List.takeWhile_append_dropWhile (p := inKey) (l := rest)
    rw [hText] at hRest
    simp [AttributeText.text, AttributeText.content, hRest]
  · refine ⟨c, _, rfl, hNoBlank, fun d hd => ?_⟩
    simpa [← hInKey] using List.mem_takeWhile_imp hd

/-- What is read as attributes is written as attributes. -/
theorem exists_isWrittenAs {fuel place : Nat} {cs : List Char} {read : List WrittenAttribute}
    (hFuel : cs.length ≤ fuel) (h : readFrom fuel place cs = .ok read) :
    ∃ texts, IsWrittenAs cs texts := by
  induction fuel generalizing place cs read with
  | zero =>
      obtain rfl : cs = [] := by simpa using hFuel
      exact ⟨[], .done (List.forall_mem_nil _)⟩
  | succ fuel ih =>
      simp only [readFrom] at h
      split at h
      · rename_i hNone
        exact ⟨[], .done (List.dropWhile_eq_nil_iff.mp hNone)⟩
      · rename_i c rest hSome
        obtain ⟨hNoBlank, blanks, hBlanks, rfl⟩ := exists_blanks hSome
        obtain ⟨⟨value, stop, after⟩, hValue, hMore⟩ := bind_eq_ok.mp h
        obtain ⟨more, hRead, -⟩ := bind_eq_ok.mp hMore
        obtain ⟨written, passed, hPassed, hText, hStands⟩ :=
          exists_attributeText hBlanks hNoBlank hValue
        have hShorter : after.length ≤ fuel := by
          obtain ⟨d, key, hKey, -⟩ := hStands.key
          have hLength := congrArg List.length hText
          simp only [AttributeText.text, AttributeText.content, hKey, List.length_append,
            List.length_cons] at hLength hFuel
          omega
        obtain ⟨texts, hTexts⟩ := ih hShorter hRead
        obtain ⟨texts, hTexts⟩ := isWrittenAs_blanks hPassed hTexts
        rw [hText]
        exact ⟨_, .next hStands hTexts⟩

end WrittenAttribute

namespace IsWrittenAs

theorem isKey {cs : List Char} {texts : List AttributeText} (h : IsWrittenAs cs texts)
    (place : Nat) : ∀ read ∈ readAttributes place texts, WrittenAttribute.IsKey read.key := by
  induction h generalizing place with
  | done => exact List.forall_mem_nil _
  | next hFirst _ ih => exact List.forall_mem_cons.mpr ⟨hFirst.key, ih _⟩

/-- Every attribute has a key. -/
theorem length_le {cs : List Char} {texts : List AttributeText} (h : IsWrittenAs cs texts) :
    texts.length ≤ cs.length := by
  induction h with
  | done => exact Nat.zero_le _
  | next hFirst _ ih =>
      obtain ⟨c, rest, hKey, -⟩ := hFirst.key
      simp only [AttributeText.text, AttributeText.content, hKey, List.length_append,
        List.length_cons]
      omega

/-- Behind the name of a tag stand its attributes. -/
theorem writtenAttributes_eq {name body : List Char} {texts : List AttributeText}
    (h : IsWrittenAs body texts) (hName : tagName (name ++ body) = name) :
    writtenAttributes (name ++ body) = .ok (readAttributes (byteLength name) texts) := by
  have hFuel : texts.length ≤ (name ++ body).length := by
    rw [List.length_append]
    exact Nat.le_add_left_of_le h.length_le
  simp only [writtenAttributes, hName, List.drop_left]
  exact WrittenAttribute.readFrom_of_isWrittenAs h hFuel (List.forall_mem_nil _) rfl

end IsWrittenAs

/-- The attributes of a tag can be read only as they are written. -/
theorem isWrittenAs_of_writtenAttributes {content : List Char} {read : List WrittenAttribute}
    (h : writtenAttributes content = .ok read) :
    ∃ body, content = tagName content ++ body ∧ (∃ texts, IsWrittenAs body texts) ∧
      ∀ texts, IsWrittenAs body texts →
        read = readAttributes (byteLength (tagName content)) texts := by
  have hCut : tagName content ++ content.drop (tagName content).length = content :=
    List.prefix_iff_eq_append.mp (List.takeWhile_prefix _)
  have hFuel : (content.drop (tagName content).length).length ≤ content.length := by
    simp
  refine ⟨content.drop (tagName content).length, hCut.symm,
    WrittenAttribute.exists_isWrittenAs hFuel h, fun texts hTexts => ?_⟩
  have hRead := hTexts.writtenAttributes_eq (congrArg tagName hCut)
  rw [hCut, h] at hRead
  exact Except.ok.inj hRead

end ResponsiveImages.Markup
