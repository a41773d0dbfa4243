import ResponsiveImages.Markup.Parser
import ResponsiveImages.Proofs.Markup.Lexing
import ResponsiveImages.Proofs.Markup.WrittenAttributes

/-! Tags that are written from a name and attributes, and read again. No bracket in a value ends a
tag, and no name or value is taken for the slash that closes one. -/
namespace ResponsiveImages.Markup

namespace Lexeme

/-- A part of a tag in which every quote is closed and no bracket ends the tag. -/
def StaysInTag (part : List Char) : Prop :=
  ∀ rest, splitTag none (part ++ rest) =
    (splitTag none rest).map fun parts => (part ++ parts.1, parts.2)

theorem StaysInTag.append {left right : List Char} (hLeft : StaysInTag left)
    (hRight : StaysInTag right) : StaysInTag (left ++ right) := by
  intro rest
  rw [List.append_assoc, hLeft, hRight, Option.map_map]
  simp [Function.comp_def]

theorem staysInTag_nil : StaysInTag [] := by
  intro rest
  simp

theorem staysInTag_of_endsNoTag {part : List Char} (h : ∀ c ∈ part, endsNoTag c = true) :
    StaysInTag part := by
  induction part with
  | nil => exact staysInTag_nil
  | cons c part ih =>
      obtain ⟨hFirst, hRest⟩ := List.forall_mem_cons.mp h
      intro rest
      simp only [endsNoTag, Bool.and_eq_true, bne_iff_ne] at hFirst
      obtain ⟨⟨hBracket, hQuote⟩, hApostrophe⟩ := hFirst
      rw [List.cons_append, splitTag]
      simp only [hBracket, hQuote, hApostrophe, and_false, or_false, reduceIte]
      rw [ih hRest rest, Option.map_map]
      rfl

theorem splitTag_opened {value : List Char} (rest : List Char) (h : '"' ∉ value) :
    splitTag (some '"') (value ++ '"' :: rest) =
      (splitTag none rest).map fun parts => (value ++ '"' :: parts.1, parts.2) := by
  induction value with
  | nil => simp [splitTag]
  | cons c value ih =>
      obtain ⟨hFirst, hRest⟩ := List.ne_and_not_mem_of_not_mem_cons h
      simp [splitTag, hFirst.symm, ih hRest, Function.comp_def]

theorem staysInTag_quoted {value : List Char} (h : '"' ∉ value) :
    StaysInTag ('"' :: (value ++ ['"'])) := by
  intro rest
  have hOpened := splitTag_opened rest h
  simp [splitTag, hOpened, Function.comp_def]

theorem staysInTag_of_isTagName {name : String} (h : isTagName name = true) :
    StaysInTag name.toList :=
  staysInTag_of_endsNoTag fun c hc => endsNoTag_of_isSafe (isInner_of_isTagName h c hc).safe

theorem StaysInTag.splitTag {content : List Char} (h : StaysInTag content) (rest : List Char) :
    splitTag none (content ++ '>' :: rest) = some (content, rest) := by
  rw [h]
  simp [Lexeme.splitTag]

/-- A letter behind a bracket begins a start tag. -/
theorem scan_startTag {c : Char} (cs : List Char) (h : c.isAlpha = true) :
    scan ('<' :: c :: cs) = scanStartTag (c :: cs) := by
  have hOther : ∀ mark, mark.isAlpha = false → c ≠ mark := fun mark hMark =>
    ne_of_apply_ne Char.isAlpha (by simp [h, hMark])
  have hInstruction : c ≠ '?' := hOther _ (by decide)
  have hDeclaration : c ≠ '!' := hOther _ (by decide)
  have hEnd : c ≠ '/' := hOther _ (by decide)
  simp [scan, hInstruction, hDeclaration, hEnd]

/-- A start tag is scanned up to the bracket behind its content. -/
theorem scan_content {content : List Char} (hLetter : BeginsWithLetter content)
    (h : StaysInTag content) (rest : List Char) :
    scan ('<' :: (content ++ '>' :: rest)) =
      .ok (⟨if content.getLast? = some '/' then .selfClosingTag content.dropLast
        else .startTag content, '<' :: (content ++ ['>'])⟩, rest) := by
  obtain ⟨c, cs, rfl, hAlpha⟩ := hLetter
  rw [List.cons_append, scan_startTag _ hAlpha, ← List.cons_append, scanStartTag, h.splitTag]
  dsimp only
  split <;> rfl

/-- A name without blanks is the whole name of an end tag. -/
theorem endTagName_eq {name : List Char} (h : ∀ c ∈ name, isMarkupSpace c = false) :
    endTagName name = name := by
  have hName : name.reverse.dropWhile isMarkupSpace = name.reverse :=
    List.dropWhile_eq_self_iff.mpr fun hLength => by
      rw [h _ (List.mem_reverse.mp (List.getElem_mem hLength))]
      decide
  rw [endTagName, hName]
  split
  · rfl
  · rename_i c cs hReverse
    rw [← hReverse, List.reverse_reverse]

end Lexeme

/-- A tag that is written from its name and attributes, which are all in order, and that ends as its
name demands. -/
structure Tag.IsWritable (tag : Tag) : Prop where
  raw : tag.raw = none
  name : isTagName tag.name = true
  attrs : ∀ attr ∈ tag.attrs, isAttributeName attr.name = true
  endTag : tag.closing = .endTag → isVoidName tag.name = false
  void : tag.closing = .void → isVoidName tag.name = true

/-- A tag that is written from its name and attributes, and that can be read again. -/
structure Tag.IsLegible (tag : Tag) : Prop where
  raw : tag.raw = none
  name : isTagName tag.name = true
  attrs : ∀ attr ∈ tag.attrs, attr.IsLegible
  endTag : tag.closing = .endTag → isVoidName tag.name = false
  void : tag.closing = .void → isVoidName tag.name = true

theorem Tag.IsWritable.isLegible {tag : Tag} (h : tag.IsWritable) : tag.IsLegible where
  raw := h.raw
  name := h.name
  attrs attr hAttr := Attribute.isLegible_of_isAttributeName (h.attrs attr hAttr)
  endTag := h.endTag
  void := h.void

namespace Tag

instance : DecidablePred Tag.IsWritable := fun tag =>
  decidable_of_iff
    (tag.raw = none ∧ isTagName tag.name = true ∧
      (∀ attr ∈ tag.attrs, isAttributeName attr.name = true) ∧
      (tag.closing = .endTag → isVoidName tag.name = false) ∧
      (tag.closing = .void → isVoidName tag.name = true))
    ⟨fun ⟨raw, name, attrs, endTag, void⟩ => ⟨raw, name, attrs, endTag, void⟩,
      fun h => ⟨h.raw, h.name, h.attrs, h.endTag, h.void⟩⟩

/-- The name and the attributes as they are written. -/
def content (style : ImportStyle) (tag : Tag) : List Char :=
  tag.name.toList ++ tag.attrs.flatMap fun attr => (attr.write style).toList

/-- The token of the start tag. A slash at the end has a blank in front of it, which the content
keeps. -/
def startToken (style : ImportStyle) (tag : Tag) : Token :=
  match tag.closing with
  | .selfClosing => .selfClosingTag (tag.content style ++ [' '])
  | .endTag | .void => .startTag (tag.content style)

/-- A tag without its places and without the text that it was read from. -/
def bare (tag : Tag) : Tag :=
  { tag with attrs := tag.attrs.map Attribute.bare, span := none, raw := none }

/-- A tag with script text in place of imports. -/
def resolve (style : ImportStyle) (tag : Tag) : Tag :=
  { tag with attrs := tag.attrs.map (·.resolve style) }

/-- The tag as it is read back from its markup. -/
def readBack (style : ImportStyle) (tag : Tag) : Tag := (tag.resolve style).bare

theorem closedBy_bare (tag : Tag) (raw : String) (stop : Nat) :
    (Tree.closedBy raw stop tag).bare = tag.bare := rfl

theorem toList_writeStart {style : ImportStyle} {tag : Tag} (hRaw : tag.raw = none) :
    (tag.writeStart style).toList =
      '<' :: (tag.content style ++ tag.closing.startEnd.toList) := by
  simp [writeStart, hRaw, content, String.toList_join, List.flatMap_map]

theorem toList_writeEnd {tag : Tag} (hRaw : tag.raw = none) (hClosing : tag.closing = .endTag) :
    tag.writeEnd.toList = '<' :: '/' :: (tag.name.toList ++ ['>']) := by
  simp [writeEnd, hRaw, hClosing]

theorem writeEnd_eq_empty {tag : Tag} (hRaw : tag.raw = none) (hClosing : tag.closing ≠ .endTag) :
    tag.writeEnd = "" := by
  simp [writeEnd, hRaw, hClosing]

variable {tag : Tag} (hTag : tag.IsLegible) (style : ImportStyle)
include hTag

theorem staysInTag_content : Lexeme.StaysInTag (tag.content style) := by
  refine (Lexeme.staysInTag_of_isTagName hTag.name).append ?_
  have hAttrs := hTag.attrs
  generalize tag.attrs = attrs at hAttrs ⊢
  induction attrs with
  | nil => exact Lexeme.staysInTag_nil
  | cons attr attrs ih =>
      obtain ⟨hFirst, hRest⟩ := List.forall_mem_cons.mp hAttrs
      rw [List.flatMap_cons, Attribute.toList_write]
      have hKey : Lexeme.StaysInTag (' ' :: (attr.key ++ ['='])) := by
        refine Lexeme.staysInTag_of_endsNoTag (List.forall_mem_cons.mpr ⟨by decide, ?_⟩)
        exact List.forall_mem_append.mpr ⟨hFirst.stays, by simp [endsNoTag]⟩
      have hValue := Lexeme.staysInTag_quoted (quote_not_mem_escape (attr.content style))
      simpa using (hKey.append hValue).append (ih hRest)

/-- The content ends with a quote or with the name. -/
theorem getLast?_content : (tag.content style).getLast? ≠ some '/' := by
  rcases List.eq_nil_or_concat tag.attrs with hNone | ⟨attrs, attr, hAttrs⟩
  · simp only [content, hNone, List.flatMap_nil, List.append_nil]
    intro hLast
    exact (isInner_of_isTagName hTag.name _ (List.mem_of_getLast? hLast)).slash rfl
  · simp [content, hAttrs, Attribute.toList_write, List.getLast?_append, List.getLast?_cons]

/-- The start tag is scanned as a whole, whatever follows. -/
theorem scan_writeStart (rest : List Char) :
    Lexeme.scan ((tag.writeStart style).toList ++ rest) =
      .ok (⟨tag.startToken style, (tag.writeStart style).toList⟩, rest) := by
  have hLetter : BeginsWithLetter (tag.content style) :=
    (beginsWithLetter_of_isTagName hTag.name).append _
  have hStays := staysInTag_content hTag style
  rw [toList_writeStart hTag.raw, startToken]
  cases hClosing : tag.closing with
  | selfClosing =>
      have hSlash : Lexeme.StaysInTag [' ', '/'] :=
        Lexeme.staysInTag_of_endsNoTag (List.all_eq_true.mp (by decide))
      have hScan := Lexeme.scan_content (hLetter.append [' ', '/']) (hStays.append hSlash) rest
      rw [if_pos (by simp), List.dropLast_append_of_ne_nil (List.cons_ne_nil _ _)] at hScan
      simpa [Closing.startEnd] using hScan
  | endTag | void =>
      have hScan := Lexeme.scan_content hLetter hStays rest
      rw [if_neg (getLast?_content hTag style)] at hScan
      simpa [Closing.startEnd] using hScan

/-- The end tag is scanned as a whole, and its name is that of the tag. -/
theorem scan_writeEnd (hClosing : tag.closing = .endTag) (rest : List Char) :
    Lexeme.scan (tag.writeEnd.toList ++ rest) =
      .ok (⟨.endTag tag.name.toList, tag.writeEnd.toList⟩, rest) := by
  have hSplit := (Lexeme.staysInTag_of_isTagName hTag.name).splitTag rest
  have hName := Lexeme.endTagName_eq fun c hc => (isInner_of_isTagName hTag.name c hc).blank
  simp [toList_writeEnd hTag.raw hClosing, Lexeme.scan, Lexeme.scanEndTag, hSplit, hName]

section

variable {blanks : List Char} (hBlanks : ∀ c ∈ blanks, isMarkupSpace c = true)
include hBlanks

theorem tagName_content : tagName (tag.content style ++ blanks) = tag.name.toList := by
  have hName : ∀ c ∈ tag.name.toList, (!isMarkupSpace c) = true := by
    intro c hc
    simp [(isInner_of_isTagName hTag.name c hc).blank]
  rw [tagName, content, List.append_assoc]
  refine (takeWhile_dropWhile_append hName ?_).1
  -- Behind the name stands a blank, or nothing.
  cases tag.attrs with
  | cons attr attrs => simp [Attribute.toList_write, isMarkupSpace]
  | nil =>
      intro c hc
      simp [hBlanks c (List.mem_of_mem_head? hc)]

/-- The tag that is read is the one that was written, with script text in place of imports. -/
theorem readTag_content (position contentStart : Nat) (span : Span) (raw : String) :
    ∃ read, readTag tag.closing position contentStart span raw (tag.content style ++ blanks) =
        .ok read ∧ read.bare = tag.readBack style := by
  have hName := tagName_content hTag style hBlanks
  have hWritten := Attribute.isWrittenAs_writeAttrs style hTag.attrs hBlanks
  have hAttrs : writtenAttributes (tag.content style ++ blanks) =
      .ok (readAttributes (Text.byteLength tag.name.toList)
        (tag.attrs.map (Attribute.writtenText style))) := by
    rw [content, List.append_assoc] at hName ⊢
    exact hWritten.writtenAttributes_eq hName
  have hSame := Attribute.readAttributes_writtenText style hTag.attrs
  rw [readTag, hAttrs]
  refine ⟨_, rfl, ?_⟩
  simp [readBack, bare, resolve, hName, hSame, Function.comp_def]

end

/-- A start tag opens its element or, if nothing follows, adds it. -/
theorem extend_startToken (tree : Tree) (markLength : Nat) (span : Span) (raw : String) :
    ∃ read : Tag, read.bare = tag.readBack style ∧
      tree.extend (tag.startToken style) markLength span raw =
        .ok (if tag.closing = .endTag then tree.openTag read
          else tree.append (.element read [])) := by
  have hName := tagName_content hTag style (List.forall_mem_nil _)
  obtain ⟨read, hRead, hSame⟩ := readTag_content hTag style (List.forall_mem_nil _)
    span.start (markLength + span.start + 1) span raw
  rw [List.append_nil] at hName hRead
  cases hClosing : tag.closing with
  | endTag =>
      rw [hClosing] at hRead
      refine ⟨read, hSame, ?_⟩
      simp [startToken, hClosing, Tree.extend, hName, hTag.endTag hClosing, hRead, bind,
        Except.bind]
  | void =>
      rw [hClosing] at hRead
      refine ⟨read, hSame, ?_⟩
      simp [startToken, hClosing, Tree.extend, hName, hTag.void hClosing, hRead, bind,
        Except.bind]
  | selfClosing =>
      -- The blank in front of the slash still belongs to the content.
      have hBlank : ∀ c ∈ [' '], isMarkupSpace c = true := List.all_eq_true.mp (by decide)
      obtain ⟨read, hRead, hSame⟩ := readTag_content hTag style hBlank
        span.start (markLength + span.start + 1) span raw
      rw [hClosing] at hRead
      refine ⟨read, hSame, ?_⟩
      simp [startToken, hClosing, Tree.extend, hRead, bind, Except.bind]

end Tag

end ResponsiveImages.Markup
