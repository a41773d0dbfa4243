/-!
Texts measured in the bytes of their UTF-8 encoding. Every position in this library is a byte
offset, so this is the measure of all spans.
-/
namespace ResponsiveImages.Text

/-- The number of bytes that the characters take in UTF-8. -/
def byteLength : List Char → Nat
  | [] => 0
  | c :: cs => c.utf8Size + byteLength cs

@[simp] theorem byteLength_nil : byteLength [] = 0 := rfl

@[simp] theorem byteLength_cons (c : Char) (cs : List Char) :
    byteLength (c :: cs) = c.utf8Size + byteLength cs := rfl

@[simp] theorem byteLength_append (left right : List Char) :
    byteLength (left ++ right) = byteLength left + byteLength right := by
  induction left with
  | nil => simp
  | cons c cs ih => simp [ih, Nat.add_assoc]

/-- The first `count` bytes and what follows them. There is no answer when the cut falls inside a
character or behind the end. -/
def splitBytes : Nat → List Char → Option (List Char × List Char)
  | 0, cs => some ([], cs)
  | _ + 1, [] => none
  | count + 1, c :: cs =>
    if c.utf8Size ≤ count + 1 then
      (splitBytes (count + 1 - c.utf8Size) cs).map fun parts => (c :: parts.1, parts.2)
    else none

@[simp] theorem splitBytes_zero (cs : List Char) : splitBytes 0 cs = some ([], cs) := by
  cases cs <;> rfl

/-- A cut at the length of a first part gives that part back. -/
theorem splitBytes_append (left right : List Char) :
    splitBytes (byteLength left) (left ++ right) = some (left, right) := by
  induction left with
  | nil => simp
  | cons c cs ih =>
      have hPos := c.utf8Size_pos
      obtain ⟨size, hSize⟩ : ∃ size, c.utf8Size + byteLength cs = size + 1 :=
        ⟨c.utf8Size + byteLength cs - 1, by omega⟩
      have hRest : size + 1 - c.utf8Size = byteLength cs := by omega
      have hFits : c.utf8Size ≤ size + 1 := by omega
      simp [hSize, splitBytes, hRest, hFits, ih]

theorem splitBytes_eq_some_iff {count : Nat} {cs left right : List Char} :
    splitBytes count cs = some (left, right) ↔ cs = left ++ right ∧ byteLength left = count := by
  constructor
  · intro h
    induction cs generalizing count left with
    | nil =>
        cases count with
        | zero =>
            cases h
            exact ⟨rfl, rfl⟩
        | succ count => simp [splitBytes] at h
    | cons c cs ih =>
        cases count with
        | zero =>
            cases h
            exact ⟨rfl, rfl⟩
        | succ count =>
            simp only [splitBytes] at h
            split at h
            · obtain ⟨parts, hParts, hEq⟩ := Option.map_eq_some_iff.mp h
              cases hEq
              obtain ⟨hText, hLength⟩ := ih hParts
              exact ⟨by rw [hText]; rfl, by rw [byteLength_cons, hLength]; omega⟩
            · cases h
  · rintro ⟨rfl, rfl⟩
    exact splitBytes_append left right

@[simp] theorem byteLength_eq_zero {cs : List Char} : byteLength cs = 0 ↔ cs = [] := by
  cases cs with
  | nil => simp
  | cons c cs =>
      have hPos := c.utf8Size_pos
      simp only [byteLength_cons, reduceCtorEq, iff_false]
      omega

/-- Of two cuts of a text the later one also cuts what follows the earlier one. -/
theorem append_eq_append_of_le {left right first second : List Char}
    (h : left ++ right = first ++ second) (hLe : byteLength left ≤ byteLength first) :
    ∃ between, first = left ++ between ∧ right = between ++ second := by
  rcases List.append_eq_append_iff.mp h with ⟨between, hFirst, hRight⟩ | ⟨between, hLeft, hSecond⟩
  · exact ⟨between, hFirst, hRight⟩
  · rw [hLeft, byteLength_append] at hLe
    have hNone : between = [] := byteLength_eq_zero.mp (by omega)
    subst hNone
    exact ⟨[], by simp [hLeft], by simp [hSecond]⟩

/-- Two cuts of a text at one place give the same parts. -/
theorem append_inj_of_byteLength {left right first second : List Char}
    (h : left ++ right = first ++ second) (hLength : byteLength left = byteLength first) :
    left = first ∧ right = second := by
  have hCut := splitBytes_append left right
  rw [h, hLength, splitBytes_append] at hCut
  cases hCut
  exact ⟨rfl, rfl⟩

end ResponsiveImages.Text
