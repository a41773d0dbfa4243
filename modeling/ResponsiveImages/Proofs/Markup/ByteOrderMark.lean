import ResponsiveImages.Proofs.Markup.RoundTrip

/-! Reading behind a byte order mark. Lexemes are scanned behind the mark, but their texts are cut
as if it were not there, three bytes too early. What is written then lacks the last three bytes of
the source, and a cut may fall inside a character. -/
namespace ResponsiveImages.Markup

open Text (byteLength)

/-- The source with a byte order mark in front of it. -/
def marked (source : String) : String := "\ufeff" ++ source

@[simp] theorem toList_marked (source : String) :
    (marked source).toList = '\ufeff' :: source.toList := by
  simp [marked]

/-- What a mark should be to a template: nothing is refused for it, and nothing is lost but perhaps
the mark itself. -/
def MarkIsHarmless (style : ImportStyle) (source : String) : Prop :=
  parse (marked source) ≠ .error .insideCharacter ∧
    ((∃ nodes, parse (marked source) = .ok nodes) ↔ ∃ nodes, parse source = .ok nodes) ∧
      ∀ nodes, parse (marked source) = .ok nodes →
        writeAll style nodes = marked source ∨ writeAll style nodes = source

theorem readable_nil : Readable [] := by
  simp [Readable, Lexeme.scanAll, Lexeme.scanFrom]

/-- One lexeme of character data decides nothing about what follows it. -/
theorem readable_text_iff {c : Char} (cs : List Char) (hBracket : c ≠ '<') (hAmpersand : c ≠ '&') :
    Readable (c :: cs) ↔ Readable (cs.dropWhile fun c => c ≠ '<' && c ≠ '&') := by
  have hScan : Lexeme.scan (c :: cs) =
      .ok (⟨.text, c :: cs.takeWhile fun c => c ≠ '<' && c ≠ '&'⟩,
        cs.dropWhile fun c => c ≠ '<' && c ≠ '&') := by
    simp [Lexeme.scan, Lexeme.scanText, hBracket, hAmpersand]
  rw [Readable, Lexeme.scanAll_of_ok hScan]
  simp [Readable, Token.isReadable, Token.opens]

/-- A mark that is not dropped is character data in front of everything else. -/
theorem Readable.mark {cs : List Char} (h : Readable cs) : Readable ('\ufeff' :: cs) := by
  rw [readable_text_iff cs (by decide) (by decide)]
  cases cs with
  | nil => exact h
  | cons c rest =>
      rw [List.dropWhile_cons]
      split
      · rename_i hText
        rw [Bool.and_eq_true, decide_eq_true_iff, decide_eq_true_iff] at hText
        exact (readable_text_iff rest hText.1 hText.2).mp h
      · exact h

theorem readable_of_parse {source : String} {nodes : List Node}
    (h : parse source = .ok nodes) : Readable source.toList := by
  have hReadable := ((parse_ok_iff source).mp ⟨nodes, h⟩).2
  by_cases hMark : BeginsWithMark source
  · obtain ⟨rest, hText⟩ := List.head?_eq_some_iff.mp hMark
    rw [hText] at hReadable ⊢
    exact hReadable.mark
  · rwa [behindMark_of_not_beginsWithMark hMark] at hReadable

/-- Whatever the source behind the mark is, its last three bytes are not written. -/
theorem writeAll_parse_marked {source : String} {nodes : List Node} (style : ImportStyle)
    (h : parse (marked source) = .ok nodes) :
    ∃ lost : String, marked source = writeAll style nodes ++ lost ∧
      byteLength lost.toList = 3 := by
  simpa [behindMark] using writeAll_lost style h

/-- The text has no other characters than byte order marks. -/
def OnlyMarks (cs : List Char) : Prop := ∀ c ∈ cs, c = '\ufeff'

theorem OnlyMarks.cons_eq_append {cs : List Char} (h : OnlyMarks cs) :
    '\ufeff' :: cs = cs ++ ['\ufeff'] := by
  rw [List.eq_replicate_of_mem h, ← List.replicate_succ, List.replicate_succ']

/-- No other text can be put behind a mark and still begin the same. -/
theorem onlyMarks_of_cons_eq_append {cs lost : List Char} (h : '\ufeff' :: cs = cs ++ lost) :
    OnlyMarks cs := by
  induction cs with
  | nil => exact List.forall_mem_nil _
  | cons c rest ih =>
      obtain ⟨rfl, hRest⟩ := List.cons.inj h
      exact List.forall_mem_cons.mpr ⟨rfl, ih hRest⟩

theorem OnlyMarks.readable {cs : List Char} (h : OnlyMarks cs) : Readable cs := by
  induction cs with
  | nil => exact readable_nil
  | cons c rest ih =>
      obtain ⟨rfl, hRest⟩ := List.forall_mem_cons.mp h
      exact (ih hRest).mark

theorem OnlyMarks.behindMark {cs : List Char} (h : OnlyMarks cs) :
    OnlyMarks (behindMark cs).1 ∧ ∃ mark, cs = (Markup.behindMark cs).1 ++ mark := by
  cases cs with
  | nil => exact ⟨h, [], rfl⟩
  | cons c rest =>
      obtain ⟨rfl, hRest⟩ := List.forall_mem_cons.mp h
      exact ⟨hRest, ['\ufeff'], OnlyMarks.cons_eq_append hRest⟩

theorem OnlyMarks.parse {source : String} (h : OnlyMarks source.toList) :
    ∃ nodes, parse source = .ok nodes := by
  obtain ⟨hBehind, mark, hText⟩ := h.behindMark
  refine (parse_ok_iff source).mpr ⟨?_, hBehind.readable⟩
  have hCuts := endAtBoundaries_scanAll (Markup.behindMark source.toList).1 mark
  rwa [← hText] at hCuts

theorem OnlyMarks.markIsHarmless (style : ImportStyle) {source : String}
    (h : OnlyMarks source.toList) : MarkIsHarmless style source := by
  have hMarked : OnlyMarks (marked source).toList := by
    rw [toList_marked]
    exact List.forall_mem_cons.mpr ⟨rfl, h⟩
  obtain ⟨read, hRead⟩ := hMarked.parse
  refine ⟨by simp [hRead], ⟨fun _ => h.parse, fun _ => ⟨read, hRead⟩⟩, ?_⟩
  intro nodes hNodes
  obtain ⟨lost, hSource, hLost⟩ := writeAll_parse_marked style hNodes
  -- A mark in front of marks might as well stand behind them, and what is lost is that one.
  have hText : (writeAll style nodes).toList ++ lost.toList = source.toList ++ ['\ufeff'] := by
    rw [← String.toList_append, ← hSource, toList_marked, h.cons_eq_append]
  have hBytes := congrArg byteLength hText
  have hMark : byteLength ['\ufeff'] = 3 := by decide
  rw [Text.byteLength_append, Text.byteLength_append, hLost, hMark] at hBytes
  exact Or.inr (String.toList_inj.mp (Text.append_inj_of_byteLength hText (by omega)).1)

/-- A mark is harmless in two cases only: nothing but marks follows it, or what follows it cannot be
read and is refused without a cut inside a character. Everywhere else either a cut falls inside a
character or the last three bytes are lost. -/
theorem markIsHarmless_iff (style : ImportStyle) (source : String) :
    (MarkIsHarmless style source ↔
      OnlyMarks source.toList ∨
        (¬ Readable source.toList ∧
          EndAtBoundaries (marked source).toList
            (examined (Lexeme.scanAll source.toList).1))) ∧
    ∀ nodes, parse (marked source) = .ok nodes →
      ∃ lost : String, marked source = writeAll style nodes ++ lost ∧
        byteLength lost.toList = 3 := by
  have hWhole := parse_insideCharacter_iff (marked source)
  have hParse := parse_ok_iff (marked source)
  simp only [toList_marked, behindMark] at hWhole hParse
  refine ⟨⟨?_, ?_⟩, fun nodes => writeAll_parse_marked style⟩
  · rintro ⟨hInside, -, hWritten⟩
    have hCuts := Classical.not_not.mp (mt hWhole.mpr hInside)
    by_cases hReadable : Readable source.toList
    · obtain ⟨nodes, hNodes⟩ := hParse.mpr ⟨hCuts, hReadable⟩
      obtain ⟨lost, hSource, hLost⟩ := writeAll_parse_marked style hNodes
      left
      rcases hWritten nodes hNodes with hAll | hBehind
      · have hBytes := congrArg (fun text => byteLength text.toList) hSource
        simp only [hAll, String.toList_append, Text.byteLength_append, hLost] at hBytes
        omega
      · have hText := congrArg String.toList hSource
        rw [hBehind, toList_marked, String.toList_append] at hText
        exact onlyMarks_of_cons_eq_append hText
    · exact Or.inr ⟨hReadable, by rwa [toList_marked]⟩
  · rintro (hMarks | ⟨hUnreadable, hCuts⟩)
    · exact hMarks.markIsHarmless style
    · rw [toList_marked] at hCuts
      have hNone : ¬ ∃ nodes, parse (marked source) = .ok nodes :=
        fun hNodes => hUnreadable (hParse.mp hNodes).2
      refine ⟨fun hInside => hWhole.mp hInside hCuts, ⟨fun hNodes => absurd hNodes hNone, ?_⟩,
        fun nodes hNodes => absurd ⟨nodes, hNodes⟩ hNone⟩
      rintro ⟨nodes, hNodes⟩
      exact absurd (readable_of_parse hNodes) hUnreadable

/-- Of a single tag behind a mark only its bracket is written. -/
theorem not_markIsHarmless_break : ¬ MarkIsHarmless .hoisted "<br>" := by
  rintro ⟨-, -, hWritten⟩
  obtain ⟨nodes, hNodes⟩ := isOk_iff.mp (by decide +kernel : (parse (marked "<br>")).isOk = true)
  have hText : (parse (marked "<br>")).toOption.map (writeAll .hoisted) = some "\ufeff<" := by
    decide +kernel
  rw [hNodes] at hText
  have hLost : writeAll .hoisted nodes = "\ufeff<" := Option.some.inj hText
  have hNeither : ¬ ("\ufeff<" = marked "<br>" ∨ "\ufeff<" = "<br>") := by decide
  exact hNeither (hLost ▸ hWritten nodes hNodes)

end ResponsiveImages.Markup
