import ResponsiveImages.Markup.Printer
import ResponsiveImages.Proofs.Markup.AttributeTexts
import ResponsiveImages.Proofs.Markup.Escaping

/-! Attributes that are written with a name and a quoted value, and read again. A name holds none of
the marks between which it stands, and between the quotes the value may be any text. -/
namespace ResponsiveImages.Markup

def isTagChar (c : Char) : Bool := c.isAlphanum || c == '-'

def isAttributeChar (c : Char) : Bool := isTagChar c || c == '_' || c == '.' || c == '@'

/-- A letter, and then letters, digits and hyphens. -/
def isTagName (name : String) : Bool :=
  name.toList.head?.any Char.isAlpha && name.toList.all isTagChar

def isAttributeName (name : String) : Bool :=
  !name.toList.isEmpty && name.toList.all isAttributeChar

/-- A character of a name is none of the marks between which names stand. -/
structure IsInner (c : Char) : Prop where
  safe : isSafe c = true
  blank : isMarkupSpace c = false
  equals : c ≠ '='
  colon : c ≠ ':'
  slash : c ≠ '/'

theorem IsInner.of_isAttributeChar {c : Char} (h : isAttributeChar c = true) : IsInner c := by
  have hOther : ∀ mark, isAttributeChar mark = false → c ≠ mark := fun mark hMark =>
    ne_of_apply_ne isAttributeChar (by simp [h, hMark])
  refine ⟨?_, ?_, hOther _ (by decide), hOther _ (by decide), hOther _ (by decide)⟩
  · simp only [isSafe, Bool.and_eq_true, bne_iff_ne]
    exact ⟨⟨⟨hOther _ (by decide), hOther _ (by decide)⟩, hOther _ (by decide)⟩,
      hOther _ (by decide)⟩
  · simp only [isMarkupSpace, Bool.or_eq_false_iff, beq_eq_false_iff_ne]
    exact ⟨⟨⟨hOther _ (by decide), hOther _ (by decide)⟩, hOther _ (by decide)⟩,
      hOther _ (by decide)⟩

theorem isInner_of_isTagName {name : String} (h : isTagName name = true) :
    ∀ c ∈ name.toList, IsInner c := by
  intro c hc
  rw [isTagName, Bool.and_eq_true, List.all_eq_true] at h
  exact .of_isAttributeChar (by simp [isAttributeChar, h.2 c hc])

theorem isInner_of_isAttributeName {name : String} (h : isAttributeName name = true) :
    ∀ c ∈ name.toList, IsInner c := by
  intro c hc
  rw [isAttributeName, Bool.and_eq_true, List.all_eq_true] at h
  exact .of_isAttributeChar (h.2 c hc)

def BeginsWithLetter (cs : List Char) : Prop :=
  ∃ c rest, cs = c :: rest ∧ c.isAlpha = true

theorem BeginsWithLetter.append {cs : List Char} (h : BeginsWithLetter cs) (behind : List Char) :
    BeginsWithLetter (cs ++ behind) := by
  obtain ⟨c, rest, rfl, hLetter⟩ := h
  exact ⟨c, rest ++ behind, List.cons_append, hLetter⟩

theorem beginsWithLetter_of_isTagName {name : String} (h : isTagName name = true) :
    BeginsWithLetter name.toList := by
  rw [isTagName, Bool.and_eq_true] at h
  cases hName : name.toList with
  | nil => simp [hName] at h
  | cons c cs => exact ⟨c, cs, rfl, by simpa [hName] using h.1⟩

theorem ne_nil_of_isAttributeName {name : String} (h : isAttributeName name = true) :
    name.toList ≠ [] := by
  rw [isAttributeName, Bool.and_eq_true] at h
  simpa using h.1

/-- The character neither ends a tag nor begins a quoted value. -/
def endsNoTag (c : Char) : Bool := c != '>' && c != '"' && c != '\''

theorem endsNoTag_of_isSafe {c : Char} (h : isSafe c = true) : endsNoTag c = true := by
  simp only [isSafe, Bool.and_eq_true] at h
  simp [endsNoTag, h]

/-- What has no colon in it is no binding. -/
theorem WrittenAttribute.boundName?_of_no_colon {key : List Char} (h : ':' ∉ key) :
    boundName? key = none := by
  unfold boundName?
  split
  · simp at h
  · dsimp only
    rw [if_neg]
    intro hMark
    obtain ⟨rest, rfl⟩ := List.isPrefixOf_iff_prefix.mp hMark
    simp at h

namespace Attribute

/-- What stands in front of the equals sign. -/
def key (attr : Attribute) : List Char :=
  match attr.value with
  | .text _ => attr.name.toList
  | .bound _ => ':' :: attr.name.toList

/-- What stands for itself between the quotes, once it is decoded. -/
def content (style : ImportStyle) (attr : Attribute) : String :=
  match attr.value with
  | .text value => value
  | .bound expression => expression.write style

theorem toList_write (style : ImportStyle) (attr : Attribute) :
    (attr.write style).toList =
      ' ' :: (attr.key ++ '=' :: '"' :: ((escape (attr.content style)).toList ++ ['"'])) := by
  cases hValue : attr.value <;> simp [write, key, content, hValue]

/-- An attribute without the place where it was read. -/
def bare (attr : Attribute) : Attribute := { attr with span := none }

/-- An attribute with script text in place of an import. -/
def resolve (style : ImportStyle) (attr : Attribute) : Attribute :=
  match attr.value with
  | .text _ => attr
  | .bound expression => { attr with value := .bound (.raw (expression.write style)) }

/-- The key of an attribute can be read again: it ends where the equals sign stands, nothing in it
ends a tag or begins a value, and it is taken for a binding exactly if it is one. -/
structure IsLegible (attr : Attribute) : Prop where
  inside : ∃ c cs, attr.key = c :: cs ∧ isMarkupSpace c = false ∧
    ∀ c ∈ cs, c ≠ '=' ∧ isMarkupSpace c = false
  stays : ∀ c ∈ attr.key, endsNoTag c = true
  bound : WrittenAttribute.boundName? attr.key =
    match attr.value with
    | .text _ => none
    | .bound _ => some attr.name.toList

/-- An attribute with a name is legible, whatever its value is. -/
theorem isLegible_of_isAttributeName {attr : Attribute} (hName : isAttributeName attr.name = true) :
    attr.IsLegible := by
  obtain ⟨c, cs, hCons⟩ := List.exists_cons_of_ne_nil (ne_nil_of_isAttributeName hName)
  have hInner := isInner_of_isAttributeName hName
  rw [hCons] at hInner
  obtain ⟨hFirst, hRest⟩ := List.forall_mem_cons.mp hInner
  have hChars : ∀ c ∈ cs, c ≠ '=' ∧ isMarkupSpace c = false := fun c hc =>
    ⟨(hRest c hc).equals, (hRest c hc).blank⟩
  have hStays : ∀ d ∈ c :: cs, endsNoTag d = true := fun d hd =>
    endsNoTag_of_isSafe (hInner d hd).safe
  cases hValue : attr.value with
  | bound expression =>
      have hKey : attr.key = ':' :: c :: cs := by simp [key, hValue, hCons]
      refine ⟨⟨':', c :: cs, hKey, by decide, ?_⟩, ?_, ?_⟩
      · exact List.forall_mem_cons.mpr ⟨⟨hFirst.equals, hFirst.blank⟩, hChars⟩
      · rw [hKey]
        exact List.forall_mem_cons.mpr ⟨by decide, hStays⟩
      · rw [hKey, hValue, hCons]
        rfl
  | text value =>
      have hKey : attr.key = c :: cs := by simp [key, hValue, hCons]
      have hColon : ':' ∉ c :: cs := fun hc => (hInner _ hc).colon rfl
      refine ⟨⟨c, cs, hKey, hFirst.blank, hChars⟩, hKey ▸ hStays, ?_⟩
      rw [hKey, hValue]
      exact WrittenAttribute.boundName?_of_no_colon hColon

/-- An attribute is read back from its key and the text between its quotes. -/
theorem IsLegible.toAttribute_bare {attr : Attribute} (h : attr.IsLegible) (style : ImportStyle)
    (start stop position : Nat) :
    (WrittenAttribute.toAttribute position
        ⟨attr.key, (escape (attr.content style)).toList, start, stop⟩).bare =
      (attr.resolve style).bare := by
  rw [WrittenAttribute.toAttribute, unescape_escape, h.bound, String.ofList_toList]
  cases hAttr : attr.value <;> simp [resolve, bare, content, key, hAttr]

end Attribute

namespace Attribute

/-- How the attribute is written. -/
def writtenText (style : ImportStyle) (attr : Attribute) : AttributeText :=
  ⟨[' '], attr.key, .quoted [] [] '"' (escape (attr.content style)).toList⟩

/-- Attributes are written one behind the other, up to the blanks that end the tag. -/
theorem isWrittenAs_writeAttrs (style : ImportStyle) {attrs : List Attribute} {blanks : List Char}
    (hAttrs : ∀ attr ∈ attrs, attr.IsLegible)
    (hBlanks : ∀ c ∈ blanks, isMarkupSpace c = true) :
    IsWrittenAs (attrs.flatMap (fun attr => (attr.write style).toList) ++ blanks)
      (attrs.map (writtenText style)) := by
  induction attrs with
  | nil => exact .done hBlanks
  | cons attr attrs ih =>
      obtain ⟨hAttr, hRest⟩ := List.forall_mem_cons.mp hAttrs
      have hText : (attr.write style).toList = (attr.writtenText style).text := by
        simp [toList_write, writtenText, AttributeText.text, AttributeText.content, ValueText.text]
      rw [List.flatMap_cons, List.append_assoc, hText]
      refine .next ⟨List.forall_mem_singleton.mpr (by decide), hAttr.inside, ?_⟩ (ih hRest)
      exact ⟨List.forall_mem_nil _, List.forall_mem_nil _, Or.inl rfl,
        quote_not_mem_escape (attr.content style)⟩

/-- Attributes are read in the order in which they were written. -/
theorem readAttributes_writtenText (style : ImportStyle) {attrs : List Attribute}
    (hAttrs : ∀ attr ∈ attrs, attr.IsLegible) (position place : Nat) :
    (readAttributes place (attrs.map (writtenText style))).map
        (fun read => (read.toAttribute position).bare) =
      attrs.map fun attr => (attr.resolve style).bare := by
  induction attrs generalizing place with
  | nil => rfl
  | cons attr attrs ih =>
      obtain ⟨hAttr, hRest⟩ := List.forall_mem_cons.mp hAttrs
      rw [List.map_cons, readAttributes, List.map_cons, List.map_cons, ih hRest]
      exact congrArg (· :: _) (hAttr.toAttribute_bare style _ _ position)

end Attribute

namespace WrittenAttribute

theorem isKey_of_writtenAttributes {content : List Char} {read : List WrittenAttribute}
    (h : writtenAttributes content = .ok read) : ∀ attr ∈ read, IsKey attr.key := by
  obtain ⟨body, -, ⟨texts, hTexts⟩, hOnly⟩ := isWrittenAs_of_writtenAttributes h
  rw [hOnly texts hTexts]
  exact hTexts.isKey _

/-- What a key binds stands at its end, behind a mark. -/
theorem suffix_of_boundName? {key name : List Char} (h : boundName? key = some name) :
    name ≠ [] ∧ ∃ c mark, key = c :: (mark ++ name) := by
  unfold boundName? at h
  split at h
  · rename_i behind
    split at h
    · cases h
    · rename_i hSome
      cases h
      exact ⟨by simpa using hSome, ':', [], rfl⟩
  · dsimp only at h
    split at h
    · rename_i hMark
      split at h
      · cases h
      · rename_i hSome
        cases h
        obtain ⟨behind, rfl⟩ := List.isPrefixOf_iff_prefix.mp hMark
        refine ⟨by simpa using hSome, 'v', ['-', 'b', 'i', 'n', 'd', ':'], ?_⟩
        simp
    · cases h

/-- An attribute that was read can be read again, unless something in its name ends a tag or begins a
value. -/
theorem IsKey.isLegible {written : WrittenAttribute} (h : IsKey written.key) (position : Nat)
    (hName : ∀ c ∈ (written.toAttribute position).name.toList, endsNoTag c = true) :
    (written.toAttribute position).IsLegible := by
  obtain ⟨c, cs, hKey, hFirst, hRest⟩ := h
  unfold toAttribute at hName ⊢
  split at hName <;> rename_i hBound
  · rename_i name
    obtain ⟨hSome, d, mark, hEnd⟩ := suffix_of_boundName? hBound
    rw [hKey, List.cons.injEq] at hEnd
    have hInside : ∀ c ∈ name, c ≠ '=' ∧ isMarkupSpace c = false := fun c hc =>
      hRest c (hEnd.2 ▸ List.mem_append_right mark hc)
    rw [String.toList_ofList] at hName
    have hBehind : (Attribute.mk (String.ofList name)
        (.bound (.raw (String.ofList (unescape written.value))))
        (some ⟨position + written.start, position + written.stop⟩)).key = ':' :: name := by
      simp [Attribute.key]
    refine ⟨⟨':', name, hBehind, by decide, hInside⟩, ?_, ?_⟩
    · rw [hBehind]
      exact List.forall_mem_cons.mpr ⟨by decide, hName⟩
    · obtain ⟨first, behind, rfl⟩ := List.exists_cons_of_ne_nil hSome
      rw [hBehind, String.toList_ofList]
      rfl
  · rw [String.toList_ofList] at hName
    refine ⟨⟨c, cs, by simp [Attribute.key, hKey], hFirst, hRest⟩, ?_, ?_⟩
    · simpa [Attribute.key] using hName
    · simpa [Attribute.key] using hBound

end WrittenAttribute

end ResponsiveImages.Markup
