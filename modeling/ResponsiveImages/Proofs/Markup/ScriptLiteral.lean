import ResponsiveImages.Markup.Script
import ResponsiveImages.Text.Character

/-! Literals of the script language, as they are read there. A literal that is written for a text is
read as that text, and ends at its own last quote whatever follows. -/
namespace ResponsiveImages.Markup

/-- What a backslash and the character behind it stand for. Escapes by code and continued lines,
which begin with one of the characters without an answer, are not read. -/
def escapedBy? (c : Char) : Option Char :=
  match c with
  | 'b' => some '\x08'
  | 't' => some '\t'
  | 'n' => some '\n'
  | 'v' => some '\x0b'
  | 'f' => some '\x0c'
  | 'r' => some '\r'
  | 'x' | 'u' | '\n' | '\r' | '\u2028' | '\u2029' => none
  | c => if Text.isAsciiDigit c then none else some c

/-- The text of a literal behind its opening quote, and what follows the closing one. A line cannot
end inside a literal; the separators of lines and paragraphs may stand in it. -/
def readLiteralBody : List Char → Option (List Char × List Char)
  | [] => none
  | c :: rest =>
    if c = '\'' then some ([], rest)
    else if c = '\n' ∨ c = '\r' then none
    else if c = '\\' then
      match rest with
      | [] => none
      | escaped :: behind =>
        match escapedBy? escaped with
        | none => none
        | some decoded => (readLiteralBody behind).map fun parts => (decoded :: parts.1, parts.2)
    else (readLiteralBody rest).map fun parts => (c :: parts.1, parts.2)

/-- The text of a literal in single quotes, and what follows it. -/
def readLiteral : List Char → Option (List Char × List Char)
  | '\'' :: rest => readLiteralBody rest
  | _ => none

theorem readLiteralBody_quote (rest : List Char) :
    readLiteralBody ('\'' :: rest) = some ([], rest) := by
  rw [readLiteralBody.eq_def]
  rfl

theorem readLiteralBody_escaped {escaped decoded : Char} (rest : List Char)
    (h : escapedBy? escaped = some decoded) :
    readLiteralBody ('\\' :: escaped :: rest) =
      (readLiteralBody rest).map fun parts => (decoded :: parts.1, parts.2) := by
  rw [readLiteralBody, if_neg (by decide), if_neg (by decide), if_pos rfl]
  simp only [h]

theorem readLiteralBody_plain {c : Char} (rest : List Char) (hQuote : c ≠ '\'')
    (hBackslash : c ≠ '\\') (hFeed : c ≠ '\n') (hReturn : c ≠ '\r') :
    readLiteralBody (c :: rest) =
      (readLiteralBody rest).map fun parts => (c :: parts.1, parts.2) := by
  rw [readLiteralBody.eq_def]
  simp only [hQuote, hBackslash, hFeed, hReturn, or_self, reduceIte]

/-- Each character is read back from what is written for it, whatever follows. -/
theorem readLiteralBody_literalChar (c : Char) (rest : List Char) :
    readLiteralBody (literalChar c ++ rest) =
      (readLiteralBody rest).map fun parts => (c :: parts.1, parts.2) := by
  unfold literalChar
  split
  case h_5 hBackslash hQuote hFeed hReturn =>
    exact readLiteralBody_plain rest hQuote hBackslash hFeed hReturn
  all_goals exact readLiteralBody_escaped rest (by decide)

theorem readLiteralBody_flatMap (text rest : List Char) :
    readLiteralBody (text.flatMap literalChar ++ '\'' :: rest) = some (text, rest) := by
  induction text with
  | nil => rw [List.flatMap_nil, List.nil_append, readLiteralBody_quote]
  | cons c text ih =>
      rw [List.flatMap_cons, List.append_assoc, readLiteralBody_literalChar, ih]
      rfl

/-- The literal of a text is read as that text, and nothing behind it belongs to it. -/
theorem readLiteral_literal (text : String) (rest : List Char) :
    readLiteral ((literal text).toList ++ rest) = some (text.toList, rest) := by
  rw [literal, String.toList_ofList]
  simpa [readLiteral] using readLiteralBody_flatMap text.toList rest

theorem literalChar_ne_lineFeed (c : Char) : '\n' ∉ literalChar c := by
  unfold literalChar
  split
  case h_5 hBackslash hQuote hFeed hReturn => simpa using Ne.symm hFeed
  all_goals decide

/-- The literal of a text stands on one line. -/
theorem lineFeed_not_mem_literal (text : String) : '\n' ∉ (literal text).toList := by
  rw [literal, String.toList_ofList]
  simp [literalChar_ne_lineFeed]

end ResponsiveImages.Markup
