import ResponsiveImages.Markup.Printer
import ResponsiveImages.Markup.Reference

/-! Attribute values as they are written between quotes. No character of them ends the value, and
every value can be read back. -/
namespace ResponsiveImages.Markup

/-- The characters that could end a value or a tag are not written. -/
def isSafe (c : Char) : Bool := c != '<' && c != '>' && c != '"' && c != '\''

theorem isSafe_escapedChar (c : Char) : ∀ written ∈ escapedChar c, isSafe written = true := by
  rw [← List.all_eq_true]
  unfold escapedChar
  split
  case h_6 hLess hGreater hAmpersand hQuote hApostrophe =>
    simpa [isSafe, and_assoc] using ⟨hLess, hGreater, hQuote, hApostrophe⟩
  all_goals decide

theorem isSafe_escape {value : String} : ∀ c ∈ (escape value).toList, isSafe c = true := by
  intro c hc
  rw [escape, String.toList_ofList] at hc
  obtain ⟨original, -, hWritten⟩ := List.mem_flatMap.mp hc
  exact isSafe_escapedChar original c hWritten

theorem quote_not_mem_escape (value : String) : '"' ∉ (escape value).toList := fun hQuote =>
  absurd (isSafe_escape _ hQuote) (by decide)

/-- The characters between the ends of a reference. -/
def isReferenceChar (c : Char) : Bool := c != ';' && c != '&'

/-- What stands between an ampersand and a semicolon is the body of a reference. -/
theorem decodeFrom_body (read : List Char) {body : List Char} (rest : List Char)
    (hBody : body.all isReferenceChar = true) :
    decodeFrom (some read) (body ++ rest) = decodeFrom (some (read ++ body)) rest := by
  induction body generalizing read with
  | nil => simp
  | cons c body ih =>
      simp only [List.all_cons, isReferenceChar, Bool.and_eq_true, bne_iff_ne] at hBody
      obtain ⟨⟨hSemicolon, hAmpersand⟩, hRest⟩ := hBody
      rw [List.cons_append, decodeFrom]
      simp only [hSemicolon, hAmpersand, reduceIte]
      rw [ih _ hRest, List.append_assoc, List.singleton_append]

theorem decodeFrom_reference {name : List Char} {decoded : Char} (rest : List Char)
    (hName : name.all isReferenceChar = true) (hDecoded : reference? name = some decoded) :
    decodeFrom none ('&' :: (name ++ ';' :: rest)) =
      (decodeFrom none rest).map (decoded :: ·) := by
  rw [decodeFrom, if_pos rfl, decodeFrom_body [] _ hName, List.nil_append, decodeFrom, if_pos rfl,
    hDecoded, Option.bind_some]

/-- Each character is read back from what is written for it, whatever follows. -/
theorem decodeFrom_escapedChar (c : Char) (rest : List Char) :
    decodeFrom none (escapedChar c ++ rest) = (decodeFrom none rest).map (c :: ·) := by
  unfold escapedChar
  split
  · exact @decodeFrom_reference ['l', 't'] '<' rest (by decide) (by decide)
  · exact @decodeFrom_reference ['g', 't'] '>' rest (by decide) (by decide)
  · exact @decodeFrom_reference ['a', 'm', 'p'] '&' rest (by decide) (by decide)
  · exact @decodeFrom_reference ['q', 'u', 'o', 't'] '"' rest (by decide) (by decide)
  · exact @decodeFrom_reference ['#', '3', '9'] '\'' rest (by decide) (by decide)
  case h_6 _ _ hAmpersand _ _ => rw [List.singleton_append, decodeFrom, if_neg hAmpersand]

theorem decode?_escape (value : List Char) : decode? (value.flatMap escapedChar) = some value := by
  induction value with
  | nil => rfl
  | cons c value ih =>
      rw [decode?] at ih ⊢
      rw [List.flatMap_cons, decodeFrom_escapedChar, ih]
      rfl

/-- Whatever a value is, it is read back from what is written for it. -/
theorem unescape_escape (value : String) : unescape (escape value).toList = value.toList := by
  rw [unescape, escape, String.toList_ofList, decode?_escape]

end ResponsiveImages.Markup
