import Mathlib.Data.List.Basic
import ResponsiveImages.Proofs.Directive.Values

/-! Directive values that give every option on a line of its own. Keys and payloads of such a text
are found on their lines only, no payload has a flag among its words, and so the text says what it
lists. -/
namespace ResponsiveImages.Directive

open Text (isBlank lower words)

/-- What a line can give. -/
inductive Item where
  | flag (flag : Flag)
  | value (key : Key)
  deriving DecidableEq, Repr

def Item.name : Item → String
  | flag word => word.name
  | value key => key.name

/-- The word is the name, where every letter may be in either case. -/
def IsCasing (name : String) (word : List Char) : Prop :=
  word.map Char.toLower = name.toList.map Char.toLower

instance (name : String) (word : List Char) : Decidable (IsCasing name word) :=
  inferInstanceAs (Decidable (_ = _))

/-- A line that gives an item: the name of a flag that is set, or a key, an equals sign between
spaces, and the compact text of the data for its value. -/
inductive IsLine (options : Options) : Item → List Char → Prop
  | flag {flag : Flag} {word : List Char} (hFlag : options.flag? flag = some true)
      (hWord : IsCasing flag.name word) : IsLine options (.flag flag) word
  | value {key : Key} {value : key.Value} {json : Json} {word : List Char}
      (hValue : options.value? key = some value) (hShows : key.Shows value json)
      (hWord : IsCasing key.name word) (before after : Nat) :
      IsLine options (.value key)
        (word ++ List.replicate before ' ' ++ '=' :: (List.replicate after ' ' ++ json.chars))

/-- A text that gives items, each on a line of its own. The last line may lack its line feed. -/
inductive Lists (options : Options) : List Item → List Char → Prop
  | nil : Lists options [] []
  | last {item : Item} {line : List Char} (hLine : IsLine options item line) :
      Lists options [item] line
  | cons {item : Item} {items : List Item} {line text : List Char}
      (hLine : IsLine options item line) (hRest : Lists options items text) :
      Lists options (item :: items) (line ++ '\n' :: text)

variable {options : Options} {items : List Item} {item : Item} {key : Key} {text : List Char}

theorem Item.isAlpha_name (item : Item) :
    ∀ c ∈ item.name.toList.map Char.toLower, c.isAlpha = true := by
  rw [← List.all_eq_true]
  cases item with
  | flag flag => cases flag <;> decide
  | value key => cases key <;> decide

/-- No name ends with another one. -/
theorem Item.eq_of_isSuffix (item other : Item)
    (h : item.name.toList.map Char.toLower <:+ other.name.toList.map Char.toLower) :
    item = other := by
  revert h
  cases item with
  | flag flag =>
      cases other with
      | flag other => cases flag <;> cases other <;> decide
      | value other => cases flag <;> cases other <;> decide
  | value key =>
      cases other with
      | flag other => cases key <;> cases other <;> decide
      | value other => cases key <;> cases other <;> decide

theorem IsCasing.isAlpha {word : List Char} (h : IsCasing item.name word) :
    ∀ c ∈ word, c.isAlpha = true := fun _ hc =>
  Text.isAlpha_of_toLower (item.isAlpha_name _ (h ▸ List.mem_map_of_mem hc))

theorem isUnbroken_of_isAlpha {c : Char} (h : c.isAlpha = true) : IsUnbroken c := by
  have hRange := Text.toNat_of_isAlpha h
  refine isUnbroken_of_isVisible c ⟨by omega, by omega, ?_⟩
  rintro rfl
  cases h

theorem IsCasing.isUnbroken {word : List Char} (h : IsCasing item.name word) :
    ∀ c ∈ word, IsUnbroken c := fun c hc =>
  isUnbroken_of_isAlpha (h.isAlpha c hc)

theorem IsCasing.ne_nil {word : List Char} (h : IsCasing item.name word) : word ≠ [] := by
  rintro rfl
  have hSome : item.name.toList.map Char.toLower ≠ [] := by
    cases item with
    | flag flag => cases flag <;> decide
    | value key => cases key <;> decide
  exact hSome h.symm

/-- A word in any ASCII case is found as that name. -/
theorem IsCasing.spells {name : String} {word : List Char} (h : IsCasing name word) :
    Spells name.toList word := by
  have hSame :
      List.Forall₂ (fun letter c : Char => letter.toLower = c.toLower) name.toList word := by
    rw [← List.forall₂_map_right_iff (f := Char.toLower), ← List.forall₂_map_left_iff,
      List.forall₂_eq_eq_eq]
    exact h.symm
  exact hSame.imp fun letter c hSame => by simp [isCaseOf, hSame]

/-- The other characters that count as letters of a name are not letters of ASCII. -/
theorem map_toLower_of_spells {letters word : List Char} (h : Spells letters word)
    (hAlpha : ∀ c ∈ word, c.isAlpha = true) :
    word.map Char.toLower = letters.map Char.toLower := by
  induction h with
  | nil => rfl
  | @cons letter c letters word hCase _ ih =>
      obtain ⟨hc, hWord⟩ := List.forall_mem_cons.mp hAlpha
      have hs : c ≠ '\u017f' := by
        rintro rfl
        cases hc
      have hk : c ≠ '\u212a' := by
        rintro rfl
        cases hc
      have hLower : c.toLower = letter.toLower := by simpa [isCaseOf, hs, hk] using hCase
      rw [List.map_cons, List.map_cons, hLower, ih hWord]

/-- The line for an item, and what stands in front of it and behind it. -/
structure HasLine (options : Options) (text : List Char) (item : Item)
    (before line after : List Char) : Prop where
  split : text = before ++ line ++ after
  isLine : IsLine options item line
  starts : ∀ c ∈ before.getLast?, c = '\n'
  ends : ∀ c ∈ after.head?, c = '\n'

theorem HasLine.behind {before line after : List Char}
    (h : HasLine options text item before line after) (first : List Char) :
    HasLine options (first ++ '\n' :: text) item (first ++ '\n' :: before) line after := by
  refine ⟨by simp [h.split], h.isLine, fun c hc => ?_, h.ends⟩
  cases before with
  | nil => simpa using hc.symm
  | cons d before =>
      refine h.starts c ?_
      simpa [List.getLast?_append] using hc

theorem IsLine.hasLine {line : List Char} (h : IsLine options item line) :
    HasLine options line item [] line [] :=
  ⟨by simp, h, by simp, by simp⟩

theorem IsLine.hasLine_front {line : List Char} (h : IsLine options item line)
    (text : List Char) : HasLine options (line ++ '\n' :: text) item [] line ('\n' :: text) :=
  ⟨by simp, h, by simp, by simp⟩

/-- Every item has its line. -/
theorem Lists.exists_hasLine (h : Lists options items text) (hMem : item ∈ items) :
    ∃ before line after, HasLine options text item before line after := by
  induction h with
  | nil => cases hMem
  | last hLine =>
      rw [List.mem_singleton.mp hMem]
      exact ⟨_, _, _, hLine.hasLine⟩
  | @cons first items line text hLine _ ih =>
      rcases List.mem_cons.mp hMem with rfl | hMem
      · exact ⟨_, _, _, hLine.hasLine_front text⟩
      · obtain ⟨before, other, after, hOther⟩ := ih hMem
        exact ⟨_, _, _, hOther.behind line⟩

/-- Every character belongs to a line, unless it is a line feed. -/
theorem Lists.exists_hasLine_of_char (h : Lists options items text) {left right : List Char}
    {c : Char} (hText : text = left ++ c :: right) (hc : c ≠ '\n') :
    ∃ item before first second after, left = before ++ first ∧ right = second ++ after ∧
      HasLine options text item before (first ++ c :: second) after := by
  induction h generalizing left with
  | nil => simp at hText
  | last hLine =>
      subst hText
      exact ⟨_, [], left, right, [], rfl, by simp, hLine.hasLine⟩
  | @cons item items line text hLine _ ih =>
      rcases List.append_eq_append_iff.mp hText with ⟨more, rfl, hRest⟩ | ⟨more, rfl, hRest⟩
      · cases more with
        | nil => exact absurd (List.cons.inj hRest).1.symm hc
        | cons d more =>
            obtain ⟨rfl, hBehind⟩ := List.cons.inj hRest
            obtain ⟨other, before, first, second, after, rfl, rfl, hOther⟩ := ih hBehind
            exact ⟨other, line ++ '\n' :: before, first, second, after, by simp, rfl,
              hOther.behind line⟩
      · cases more with
        | nil => exact absurd (List.cons.inj hRest).1 hc
        | cons d more =>
            obtain ⟨rfl, rfl⟩ := List.cons.inj hRest
            exact ⟨item, [], left, more, '\n' :: text, rfl, rfl, hLine.hasLine_front text⟩

/-- Only the line for a key has an equals sign. Its key stands in front of it, and the payload
behind. -/
theorem IsLine.eq_of_equals {first second : List Char}
    (h : IsLine options item (first ++ '=' :: second)) (hOptions : options.IsExpressible) :
    ∃ (key : Key) (value : key.Value) (json : Json) (word : List Char) (before after : Nat),
      item = .value key ∧ options.value? key = some value ∧ key.Shows value json ∧
      IsCasing key.name word ∧ first = word ++ List.replicate before ' ' ∧
      second = List.replicate after ' ' ++ json.chars := by
  generalize hLine : first ++ '=' :: second = line at h
  cases h with
  | @flag named _ hFlag hWord =>
      have hMem : '=' ∈ line := by simp [← hLine]
      have hName : IsCasing (Item.flag named).name line := hWord
      exact absurd rfl (hName.isUnbroken _ hMem).2
  | @value key value json word hValue hShows hWord before after =>
      have hName : IsCasing (Item.value key).name word := hWord
      have hPayload := hShows.isPayloadOf (hOptions.values key value hValue)
      have hFirst : '=' ∉ word ++ List.replicate before ' ' := by
        intro hMem
        rcases List.mem_append.mp hMem with hMem | hMem
        · exact (hName.isUnbroken _ hMem).2 rfl
        · exact absurd (List.eq_of_mem_replicate hMem) (by decide)
      have hSecond : '=' ∉ List.replicate after ' ' ++ json.chars := by
        intro hMem
        rcases List.mem_append.mp hMem with hMem | hMem
        · exact absurd (List.eq_of_mem_replicate hMem) (by decide)
        · exact (hPayload.unbroken _ hMem).2 rfl
      obtain ⟨hLeft, -, hRight⟩ :=
        (List.append_cons_inj_of_notMem hFirst hSecond).mp hLine.symm
      exact ⟨key, value, json, word, before, after, rfl, hValue, hShows, hWord, hLeft.symm,
        hRight.symm⟩

/-- Letters are no blanks, in whatever case they are. -/
theorem isBlank_of_spells {letters word : List Char} (h : Spells letters word)
    (hAlpha : ∀ c ∈ letters.map Char.toLower, c.isAlpha = true) :
    ∀ c ∈ word, isBlank c = false := by
  induction h with
  | nil => simp
  | @cons letter c letters word hCase _ ih =>
      obtain ⟨hLetter, hLetters⟩ := List.forall_mem_cons.mp hAlpha
      refine List.forall_mem_cons.mpr ⟨?_, ih hLetters⟩
      simp only [isCaseOf, Bool.or_eq_true, Bool.and_eq_true, beq_iff_eq] at hCase
      rcases hCase with (hLower | ⟨-, rfl⟩) | ⟨-, rfl⟩
      · exact (isUnbroken_of_isAlpha (Text.isAlpha_of_toLower (hLower ▸ hLetter))).1
      · decide
      · decide

/-- A word without blanks that ends where a line does begins on that line. -/
theorem isSuffix_of_append_eq {before word start line : List Char}
    (h : before ++ word = start ++ line) (hStart : ∀ c ∈ start.getLast?, c = '\n')
    (hWord : ∀ c ∈ word, isBlank c = false) : word <:+ line := by
  rcases List.append_eq_append_iff.mp h with ⟨more, rfl, rfl⟩ | ⟨more, -, rfl⟩
  · rcases List.eq_nil_or_concat more with rfl | ⟨more, c, rfl⟩
    · exact List.suffix_refl line
    · have hFeed : c = '\n' := hStart c (by simp)
      have hBlank := hWord c (by simp)
      rw [hFeed] at hBlank
      exact absurd hBlank (by decide)
  · exact ⟨more, rfl⟩

/-- A key is not found at the end of another one. -/
theorem eq_of_spells_of_isSuffix {other : Key} {word name : List Char}
    (hSpells : Spells key.name.toList word) (hName : IsCasing other.name name)
    (hSuffix : word <:+ name) : key = other := by
  have hCasing : IsCasing (Item.value other).name name := hName
  have hAlpha : ∀ c ∈ word, c.isAlpha = true := fun c hc => hCasing.isAlpha c (hSuffix.subset hc)
  have hLower : key.name.toList.map Char.toLower <:+ other.name.toList.map Char.toLower := by
    rw [← map_toLower_of_spells hSpells hAlpha, ← hName]
    exact hSuffix.map Char.toLower
  exact Item.value.inj (Item.eq_of_isSuffix (.value key) (.value other) hLower)

/-- A key that opens a payload anywhere is the key of a line, and its payload is the one of that
line. -/
theorem Lists.of_opens (h : Lists options items text) (hOptions : options.IsExpressible)
    {before rest behind : List Char} (hText : text = before ++ rest)
    (hOpens : Opens key rest behind) :
    ∃ value json after, options.value? key = some value ∧ key.Shows value json ∧
      key.opening :: behind = json.chars ++ after ∧ ∀ c ∈ after.head?, c = '\n' := by
  obtain ⟨word, front, back, rfl, hSpells, hFront, hBack⟩ := hOpens
  have hPlace : text = (before ++ word ++ front) ++ '=' :: (back ++ key.opening :: behind) := by
    simp [hText]
  obtain ⟨item, start, first, second, after, hLeft, hRight, hLine⟩ :=
    h.exists_hasLine_of_char hPlace (by decide)
  obtain ⟨other, value, json, name, left, right, rfl, hValue, hShows, hCasing, rfl, rfl⟩ :=
    hLine.isLine.eq_of_equals hOptions
  have hName : IsCasing (Item.value other).name name := hCasing
  have hSpelled := isBlank_of_spells hSpells (Item.isAlpha_name (.value key))
  have hWords : before ++ word = start ++ name := by
    have hWord : word ≠ [] := by
      rintro rfl
      cases key <;> cases hSpells
    refine Text.eq_of_append_blanks (hLeft.trans (List.append_assoc _ _ _).symm) hFront
      (Text.isBlank_of_mem_replicate left) ?_ ?_
    · rw [List.getLast?_append_of_ne_nil _ hWord]
      exact fun c hc => hSpelled c (List.mem_of_getLast? hc)
    · rw [List.getLast?_append_of_ne_nil _ hName.ne_nil]
      exact fun c hc => (hName.isUnbroken c (List.mem_of_getLast? hc)).1
  obtain rfl : key = other :=
    eq_of_spells_of_isSuffix hSpells hCasing (isSuffix_of_append_eq hWords hLine.starts hSpelled)
  have hBehind : key.opening :: behind = json.chars ++ after := by
    obtain ⟨inside, hBracketed⟩ := (hShows.isPayloadOf (hOptions.values key value hValue)).bracketed
    have hFirst : ∀ c ∈ (json.chars ++ after).head?, isBlank c = false := by
      simpa [hBracketed] using key.isBlank_opening
    rw [List.append_assoc] at hRight
    have hStrip := congrArg (List.dropWhile isBlank) hRight
    rwa [Text.dropWhile_blanks hBack (by simpa using key.isBlank_opening),
      Text.dropWhile_blanks (Text.isBlank_of_mem_replicate right) hFirst] at hStrip
  exact ⟨value, json, after, hValue, hShows, hBehind, hLine.ends⟩

/-- A payload that is taken is the compact text of the data for the value of the key. -/
theorem Lists.of_takes (h : Lists options items text) (hOptions : options.IsExpressible)
    {payload : List Char} (hTakes : Takes key text payload) :
    ∃ value json, options.value? key = some value ∧ key.Shows value json ∧
      payload = json.chars := by
  obtain ⟨before, rest, hText, ⟨inside, behind, hOpens, hInside, hBehind, rfl⟩, -⟩ := hTakes
  obtain ⟨value, json, after, hValue, hShows, hPayload, hEnds⟩ := h.of_opens hOptions hText hOpens
  have hJson := hShows.isPayloadOf (hOptions.values key value hValue)
  obtain ⟨body, hBody, hFeed⟩ := hJson.exists_inside
  have hLine : inside ++ key.closing :: behind = body ++ key.closing :: after := by
    simpa [hBody] using hPayload
  -- Both ends are the last closing bracket of the line.
  have hLast := (throughLast_line_iff key.closing_ne_lineFeed).mpr
    ⟨inside, behind, rfl, hInside, hBehind, rfl⟩
  have hRest : key.closing ∉ after.takeWhile (· ≠ '\n') := by
    cases after with
    | nil => exact List.not_mem_nil
    | cons c after => simp [hEnds c rfl]
  have hOther := (throughLast_line_iff key.closing_ne_lineFeed).mpr
    ⟨body, after, hLine, hFeed, hRest, rfl⟩
  refine ⟨value, json, hValue, hShows, ?_⟩
  rw [hBody, Option.some.inj (hLast.symm.trans hOther)]

/-- The line for a key is an occurrence of it. -/
theorem Lists.exists_occurs (h : Lists options items text) (hOptions : options.IsExpressible)
    (hMem : .value key ∈ items) : ∃ before rest, text = before ++ rest ∧ Occurs key rest := by
  obtain ⟨before, line, after, hLine⟩ := h.exists_hasLine hMem
  refine ⟨before, line ++ after, by simp [hLine.split], ?_⟩
  cases hLine.isLine with
  | @value _ value json word hValue hShows hWord left right =>
      have hJson := hShows.isPayloadOf (hOptions.values key value hValue)
      obtain ⟨inside, hBody, hFeed⟩ := hJson.exists_inside
      have hText : word ++ List.replicate left ' ' ++
          '=' :: (List.replicate right ' ' ++ json.chars) ++ after =
            word ++ List.replicate left ' ' ++ '=' :: (List.replicate right ' ' ++
              key.opening :: (inside ++ key.closing :: after)) := by
        simp [hBody]
      exact ⟨inside, after, ⟨word, _, _, hText, hWord.spells, Text.isBlank_of_mem_replicate left,
        Text.isBlank_of_mem_replicate right⟩, hFeed⟩

/-- Every key gives the value that the options have for it, or none. -/
theorem Lists.gives (h : Lists options items text) (hOptions : options.IsExpressible)
    (hAll : ∀ key value, options.value? key = some value → .value key ∈ items) (key : Key) :
    Gives key text (options.value? key) := by
  cases hValue : options.value? key with
  | none =>
      refine .absent fun payload hTakes => ?_
      obtain ⟨value, json, hSome, -⟩ := h.of_takes hOptions hTakes
      rw [hValue] at hSome
      cases hSome
  | some value =>
      have hOccurs := h.exists_occurs hOptions (hAll key value hValue)
      obtain ⟨payload, hTakes⟩ := exists_takes_iff.mpr hOccurs
      obtain ⟨other, json, hOther, hShows, rfl⟩ := h.of_takes hOptions hTakes
      obtain rfl : value = other := Option.some.inj (hValue.symm.trans hOther)
      exact .payload hTakes (hShows.isPayloadOf (hOptions.values key value hValue)).read

theorem IsCasing.lower_eq {word : List Char} (h : IsCasing item.name word) :
    lower word = lower item.name.toList := by
  have hName : IsCasing item.name item.name.toList := rfl
  rw [Text.lower_of_isAlpha h.isAlpha, Text.lower_of_isAlpha hName.isAlpha, h]

theorem IsCasing.words_lower {word : List Char} (h : IsCasing item.name word) :
    words (lower word) = [lower item.name.toList] := by
  rw [← h.lower_eq]
  refine Text.words_of_no_blank ?_ (Text.isBlank_lower fun c hc => (h.isUnbroken c hc).1)
  rw [Text.lower_of_isAlpha h.isAlpha]
  simpa using h.ne_nil

/-- In lower case, too, names consist of letters, and different items have different names. -/
theorem Item.isAlpha_lower (item : Item) : ∀ c ∈ lower item.name.toList, c.isAlpha = true := by
  have hName : IsCasing item.name item.name.toList := rfl
  rw [Text.lower_of_isAlpha hName.isAlpha]
  exact item.isAlpha_name

theorem Item.lower_injective (item other : Item)
    (h : lower item.name.toList = lower other.name.toList) : item = other := by
  have hName (item : Item) : IsCasing item.name item.name.toList := rfl
  rw [Text.lower_of_isAlpha (hName item).isAlpha, Text.lower_of_isAlpha (hName other).isAlpha] at h
  exact Item.eq_of_isSuffix item other (h ▸ List.suffix_refl _)

/-- A flag is a word of no line but its own: neither of that of another flag, nor as a key or as a
payload. -/
theorem IsLine.flag_of_mem_words {line : List Char} (h : IsLine options item line)
    (hOptions : options.IsExpressible) {flag : Flag}
    (hMem : lower flag.name.toList ∈ words (lower line)) : options.flag? flag = some true := by
  have hLetters := Item.isAlpha_lower (.flag flag)
  cases h with
  | @flag named _ hFlag hWord =>
      have hName : IsCasing (Item.flag named).name line := hWord
      rw [hName.words_lower, List.mem_singleton] at hMem
      have hSame := Item.lower_injective (.flag flag) (.flag named) hMem
      rw [Item.flag.inj hSame]
      exact hFlag
  | @value key value json word hValue hShows hWord before after =>
      have hName : IsCasing (Item.value key).name word := hWord
      have hJson := hShows.isPayloadOf (hOptions.values key value hValue)
      have hLine : lower (word ++ List.replicate before ' ' ++
            '=' :: (List.replicate after ' ' ++ json.chars)) =
          (lower word ++ List.replicate before ' ') ++
            '=' :: (List.replicate after ' ' ++ lower json.chars) := by
        have hEquals : Text.lowerChar '=' = ['='] := rfl
        simp [Text.lower_replicate_space, hEquals]
      rw [hLine] at hMem
      rcases Text.mem_words_append_cons hMem with hEquals | hKey | hPayload
      · exact absurd (hLetters _ hEquals) (by decide)
      · rw [Text.words_append_blanks (Text.isBlank_of_mem_replicate before), hName.words_lower,
          List.mem_singleton] at hKey
        cases Item.lower_injective (.flag flag) (.value key) hKey
      · obtain ⟨inside, hBody⟩ := hJson.bracketed
        have hBracket : lower json.chars = key.opening :: lower (inside ++ [key.closing]) := by
          rw [hBody, Text.lower_cons]
          cases key <;> rfl
        have hSome : lower json.chars ≠ [] := by simp [hBracket]
        rw [Text.words_blanks_append (Text.isBlank_of_mem_replicate after),
          Text.words_of_no_blank hSome (Text.isBlank_lower fun c hc => (hJson.unbroken c hc).1),
          List.mem_singleton] at hPayload
        have hLetter : key.opening.isAlpha = true :=
          hLetters _ (by simp [Item.name, hPayload, hBracket])
        cases key <;> cases hLetter

/-- The words of a line have nothing to do with those behind it. -/
theorem words_lower_line (line text : List Char) :
    words (lower (line ++ '\n' :: text)) = words (lower line) ++ words (lower text) := by
  have hFeed : lower ('\n' :: text) = '\n' :: lower text := rfl
  rw [Text.lower_append, hFeed, Text.words_append_blank (by decide)]

theorem Lists.exists_line_of_mem_words (h : Lists options items text) {word : List Char}
    (hMem : word ∈ words (lower text)) :
    ∃ item line, IsLine options item line ∧ word ∈ words (lower line) := by
  induction h with
  | nil => simp at hMem
  | last hLine => exact ⟨_, _, hLine, hMem⟩
  | @cons item items line text hLine _ ih =>
      rw [words_lower_line, List.mem_append] at hMem
      rcases hMem with hMem | hMem
      · exact ⟨item, line, hLine, hMem⟩
      · exact ih hMem

theorem Lists.mem_words_of_flag (h : Lists options items text) {flag : Flag}
    (hMem : .flag flag ∈ items) : lower flag.name.toList ∈ words (lower text) := by
  have hOwn {line : List Char} (hLine : IsLine options (.flag flag) line) :
      lower flag.name.toList ∈ words (lower line) := by
    cases hLine with
    | flag hFlag hWord =>
        have hName : IsCasing (Item.flag flag).name line := hWord
        rw [hName.words_lower]
        exact List.mem_singleton_self _
  induction h with
  | nil => cases hMem
  | last hLine =>
      rw [← List.mem_singleton.mp hMem] at hLine
      exact hOwn hLine
  | @cons item items line text hLine _ ih =>
      rw [words_lower_line, List.mem_append]
      rcases List.mem_cons.mp hMem with rfl | hMem
      · exact .inl (hOwn hLine)
      · exact .inr (ih hMem)

/-- Options that a directive can express are what it says if each of them stands on a line of its
own: flags and keys in any case and any order, and the compact text of each value behind its key and
an equals sign, with any spaces around the sign. -/
theorem parse_listed (options : Options) (items : List Item) (value : String)
    (hOptions : options.IsExpressible) (hLists : Lists options items value.toList)
    (hFlags : ∀ flag, options.flag? flag = some true → .flag flag ∈ items)
    (hValues : ∀ key given, options.value? key = some given → .value key ∈ items) :
    parse value = .ok options := by
  have hSet (flag : Flag) : options.flag? flag = some true ↔
      Text.IsWordIn (lower flag.name.toList) (lower value.toList) := by
    rw [← Text.mem_words_iff]
    constructor
    · intro hFlag
      exact hLists.mem_words_of_flag (hFlags flag hFlag)
    · intro hMem
      obtain ⟨item, line, hLine, hWord⟩ := hLists.exists_line_of_mem_words hMem
      exact hLine.flag_of_mem_words hOptions hWord
  refine parse_eq_ok_iff.mpr ⟨hSet, fun flag => ?_, hLists.gives hOptions hValues, ?_⟩
  · rw [← hSet]
    cases hFlag : options.flag? flag with
    | none => simp
    | some set =>
        cases set with
        | true => simp
        | false => exact absurd hFlag (hOptions.flags flag)
  · exact fun quality hQuality => hOptions.values .quality quality hQuality

/-- Texts with brackets and quotes, members in no particular order, the bounds of the numbers, and a
final line feed. -/
theorem parse_listed_nested :
    let list : Json := .array [.number (.int (-9223372036854775808)), .string "]\x7d\x22",
      .object [("\\", .number (.int 18446744073709551615))]]
    let options : Options :=
      ⟨none, some true, some true, none, some ["[2x", "\x22"], some ⟨some 70, none, some 0, none⟩,
        some [("b]", .null), ("a", list)], none⟩
    let value := "NOLAZY\nimagesrcsetLOADERoptions= \x7b\x22b]\x22:null,\x22a\x22:" ++
      "[-9223372036854775808,\x22]\x7d\\\x22\x22,\x7b\x22\\\\\x22:18446744073709551615\x7d]\x7d\n" ++
      "Quality  =\x7b\x22webp\x22:0,\x22jpeg\x22:70\x7d\nonlyuseIMG\n" ++
      "sizes = [\x22[2x\x22,\x22\\\x22\x22]\n"
    ∃ items, options.IsExpressible ∧ Lists options items value.toList ∧
      (∀ flag, options.flag? flag = some true → .flag flag ∈ items) ∧
      (∀ key given, options.value? key = some given → .value key ∈ items) ∧
      parse value = .ok options := by
  intro list options value
  have hInner : (Json.object [("\\", .number (.int 18446744073709551615))]).IsPlain IsUnbroken 125 :=
    .object (by decide) (show AreUnbroken ["\\"] by decide)
      (List.forall_mem_singleton.mpr (.int (by decide)))
  have hText : (Json.string "]\x7d\x22").IsPlain IsUnbroken 125 :=
    .string (List.all_iff_forall_prop.mp (by decide))
  have hList : list.IsPlain IsUnbroken 126 :=
    .array (List.forall_mem_cons.mpr ⟨.int (by decide), List.forall_mem_cons.mpr
      ⟨hText, List.forall_mem_singleton.mpr hInner⟩⟩)
  have hBag : (Json.object [("b]", .null), ("a", list)]).IsPlain IsUnbroken 127 :=
    .object (by decide) (show AreUnbroken ["b]", "a"] by decide) (List.forall_mem_cons.mpr ⟨.null,
      List.forall_mem_singleton.mpr hList⟩)
  have hOptions : options.IsExpressible := by
    refine ⟨fun flag => by cases flag <;> decide, fun key value hValue => ?_⟩
    cases key with
    | quality =>
        cases hValue
        exact Quality.validate_eq_ok_iff.mp rfl
    | imageFormats => cases hValue
    | sizes =>
        cases hValue
        show AreUnbroken ["[2x", "\x22"]
        decide
    | imageSrcsetLoaderOptions =>
        cases hValue
        exact hBag
    | imageResizeLoaderOptions => cases hValue
  have hLines : value.toList =
      "NOLAZY".toList ++ '\n' ::
      ("imagesrcsetLOADERoptions".toList ++ List.replicate 0 ' ' ++ '=' :: (List.replicate 1 ' ' ++
        (Json.object [("b]", .null), ("a", list)]).chars) ++ '\n' ::
      ("Quality".toList ++ List.replicate 2 ' ' ++ '=' :: (List.replicate 0 ' ' ++
        (Json.object [("webp", .number (.int 0)), ("jpeg", .number (.int 70))]).chars) ++ '\n' ::
      ("onlyuseIMG".toList ++ '\n' ::
      ("sizes".toList ++ List.replicate 1 ' ' ++ '=' :: (List.replicate 1 ' ' ++
        (Json.array [.string "[2x", .string "\x22"]).chars) ++ '\n' :: [])))) := by
    decide +kernel
  let items : List Item := [.flag .noLazy, .value .imageSrcsetLoaderOptions, .value .quality,
    .flag .onlyUseImg, .value .sizes]
  have hQuality : Key.quality.Shows (⟨some 70, none, some 0, none⟩ : Quality)
      (.object [("webp", .number (.int 0)), ("jpeg", .number (.int 70))]) :=
    ⟨[(.webp, 0), (.jpeg, 70)], by decide, rfl⟩
  have hMembers : Key.imageSrcsetLoaderOptions.Shows ([("b]", .null), ("a", list)] : Members)
      (.object [("b]", .null), ("a", list)]) := rfl
  have hSizes : Key.sizes.Shows (["[2x", "\x22"] : List String)
      (.array [.string "[2x", .string "\x22"]) := rfl
  have hLists : Lists options items value.toList := by
    rw [hLines]
    refine .cons (.flag rfl (by decide)) ?_
    refine .cons (.value rfl hMembers (by decide) 0 1) ?_
    refine .cons (.value rfl hQuality (by decide) 2 0) ?_
    refine .cons (.flag rfl (by decide)) ?_
    exact .cons (.value rfl hSizes (by decide) 1 1) .nil
  have hFlags (flag : Flag) (hFlag : options.flag? flag = some true) : .flag flag ∈ items := by
    cases flag with
    | compressOnly => cases hFlag
    | onlyUseImg => decide
    | noLazy => decide
  have hValues (key : Key) (value : key.Value) (hValue : options.value? key = some value) :
      .value key ∈ items := by
    cases key with
    | quality => decide
    | imageFormats => cases hValue
    | sizes => decide
    | imageSrcsetLoaderOptions => decide
    | imageResizeLoaderOptions => cases hValue
  exact ⟨items, hOptions, hLists, hFlags, hValues,
    parse_listed options items value hOptions hLists hFlags hValues⟩

end ResponsiveImages.Directive
