import ResponsiveImages.Markup.Parser
import ResponsiveImages.Proofs.Markup.Lexing
import ResponsiveImages.Proofs.Results

/-! The steps of the parser. It cuts the text of each lexeme from the source by its length, so that
with a byte order mark in front the text it cuts is another one than the lexeme was scanned from.
What it does is described for both cases at once. -/
namespace ResponsiveImages.Markup

open Text (byteLength splitBytes splitBytes_eq_some_iff)

/-- What kind of element a token opens, and the content of its start tag. -/
def Token.opens : Token → Option (Closing × List Char)
  | .selfClosingTag content => some (.selfClosing, content)
  | .startTag content =>
    some (if isVoidName (String.ofList (tagName content)) then .void else .endTag, content)
  | _ => none

/-- The attributes of the tag can be read, if it is a tag that has some. -/
def Token.isReadable (token : Token) : Bool :=
  match token.opens with
  | some (_, content) => (writtenAttributes content).isOk
  | none => true

/-- Attributes alone decide whether a lexeme can be added to a tree. The tree and the place of the
lexeme do not matter. -/
theorem Tree.extend_cases (tree : Tree) (token : Token) (markLength : Nat) (span : Span)
    (raw : String) :
    (token.isReadable = true ∧ ∃ final, tree.extend token markLength span raw = .ok final) ∨
      (token.isReadable = false ∧ ∃ position length fault,
        tree.extend token markLength span raw = .error (.attributes position length fault)) := by
  cases token with
  | text | verbatim | endTag name => exact Or.inl ⟨rfl, _, rfl⟩
  | selfClosingTag content =>
      cases hWritten : writtenAttributes content <;>
        simp [extend, readTag, Token.isReadable, Token.opens, hWritten, bind, Except.bind,
          Except.isOk, Except.toBool]
  | startTag content =>
      cases hWritten : writtenAttributes content <;>
        cases hVoid : isVoidName (String.ofList (tagName content)) <;>
        simp [extend, readTag, Token.isReadable, Token.opens, hWritten, hVoid, bind, Except.bind,
          Except.isOk, Except.toBool]

/-- The tree after lexemes that stand in the source one behind the other, the first one at the
position. -/
def Tree.readAll (markLength : Nat) (tree : Tree) (position : Nat) :
    List Lexeme → Except ParseError Tree
  | [] => .ok tree
  | lexeme :: lexemes => do
    let stop := position + byteLength lexeme.source
    let tree ← tree.extend lexeme.token markLength ⟨position, stop⟩
      (String.ofList lexeme.source)
    tree.readAll markLength stop lexemes

/-- Lexemes are read one part behind the other. -/
theorem Tree.readAll_append {tree next : Tree} {markLength position : Nat} {left : List Lexeme}
    (right : List Lexeme) (h : tree.readAll markLength position left = .ok next) :
    tree.readAll markLength position (left ++ right) =
      next.readAll markLength (position + byteLength (left.flatMap Lexeme.source)) right := by
  induction left generalizing tree position with
  | nil =>
      cases h
      rfl
  | cons lexeme left ih =>
      obtain ⟨middle, hMiddle, hNext⟩ := bind_eq_ok.mp h
      simp only [List.cons_append, readAll, hMiddle, bind, Except.bind, ih hNext,
        List.flatMap_cons, Text.byteLength_append, Nat.add_assoc]

/-- Lexemes that stand in the text one behind the other are cut from it as they are. -/
theorem Tree.extendAll_of_readAll {tree final : Tree} {markLength position : Nat}
    {lexemes : List Lexeme} (rest : List Char)
    (h : tree.readAll markLength position lexemes = .ok final) :
    tree.extendAll markLength ⟨position, lexemes.flatMap Lexeme.source ++ rest⟩ lexemes =
      .ok (final, position + byteLength (lexemes.flatMap Lexeme.source)) := by
  induction lexemes generalizing tree position with
  | nil =>
      cases h
      rfl
  | cons lexeme lexemes ih =>
      obtain ⟨next, hNext, hFinal⟩ := bind_eq_ok.mp h
      simp only [extendAll, List.flatMap_cons, List.append_assoc, Text.splitBytes_append, hNext,
        bind, Except.bind, ih hFinal, Text.byteLength_append, Nat.add_assoc]

/-- If no cut falls inside a character, the parser reads lexemes with the same lengths, but with the
texts that were cut. -/
theorem Tree.extendAll_ok {tree final : Tree} {markLength position stop : Nat}
    {cs : List Char} {lexemes : List Lexeme}
    (h : tree.extendAll markLength ⟨position, cs⟩ lexemes = .ok (final, stop)) :
    ∃ cut rest, cs = cut.flatMap Lexeme.source ++ rest ∧
      cut.map (byteLength ·.source) = lexemes.map (byteLength ·.source) ∧
      tree.readAll markLength position cut = .ok final := by
  induction lexemes generalizing tree position cs with
  | nil =>
      cases h
      exact ⟨[], cs, rfl, rfl, rfl⟩
  | cons lexeme lexemes ih =>
      simp only [extendAll] at h
      split at h
      · cases h
      · rename_i raw unread hCut
        obtain ⟨hText, hLength⟩ := splitBytes_eq_some_iff.mp hCut
        obtain ⟨next, hNext, hFinal⟩ := bind_eq_ok.mp h
        obtain ⟨cut, rest, hUnread, hCuts, hRead⟩ := ih hFinal
        refine ⟨⟨lexeme.token, raw⟩ :: cut, rest, ?_, ?_, ?_⟩
        · rw [hText, hUnread, List.flatMap_cons, List.append_assoc]
        · simp only [List.map_cons, hLength, hCuts]
        · simp only [readAll, hLength]
          exact bind_eq_ok.mpr ⟨next, hNext, hRead⟩

/-- The texts of the lexemes can be cut from the text, and each one ends between two characters. -/
def EndAtBoundaries (cs : List Char) (lexemes : List Lexeme) : Prop :=
  ∀ read, read <+: lexemes → ∃ left right, cs = left ++ right ∧
    byteLength left = byteLength (read.flatMap Lexeme.source)

/-- The lexemes that the parser looks at: all up to the first one with attributes that cannot be
read. -/
def examined : List Lexeme → List Lexeme
  | [] => []
  | lexeme :: lexemes => lexeme :: if lexeme.token.isReadable then examined lexemes else []

theorem endAtBoundaries_nil (cs : List Char) : EndAtBoundaries cs [] := by
  intro read hRead
  rw [List.prefix_nil.mp hRead]
  exact ⟨[], cs, rfl, rfl⟩

theorem endAtBoundaries_cons (cs : List Char) (lexeme : Lexeme) (lexemes : List Lexeme) :
    EndAtBoundaries cs (lexeme :: lexemes) ↔ ∃ raw rest,
      splitBytes (byteLength lexeme.source) cs = some (raw, rest) ∧
        EndAtBoundaries rest lexemes := by
  constructor
  · intro h
    obtain ⟨raw, rest, hText, hRaw⟩ := h [lexeme] (by simp)
    have hRaw : byteLength raw = byteLength lexeme.source := by simpa using hRaw
    refine ⟨raw, rest, splitBytes_eq_some_iff.mpr ⟨hText, hRaw⟩, ?_⟩
    intro read hRead
    obtain ⟨left, right, hCut, hLeft⟩ := h (lexeme :: read) (by simpa using hRead)
    rw [List.flatMap_cons, Text.byteLength_append, ← hRaw] at hLeft
    obtain ⟨between, hBetween, hRest⟩ :=
      Text.append_eq_append_of_le (hText.symm.trans hCut) (by omega)
    rw [hBetween, Text.byteLength_append] at hLeft
    exact ⟨between, right, hRest, by omega⟩
  · rintro ⟨raw, rest, hCut, hRest⟩ read hRead
    obtain ⟨hText, hRaw⟩ := splitBytes_eq_some_iff.mp hCut
    rcases List.prefix_cons_iff.mp hRead with rfl | ⟨behind, rfl, hBehind⟩
    · exact ⟨[], cs, rfl, rfl⟩
    · obtain ⟨left, right, hUnread, hLeft⟩ := hRest behind hBehind
      exact ⟨raw ++ left, right, by rw [hText, hUnread, List.append_assoc], by simp [hRaw, hLeft]⟩

/-- The parser cuts inside a character exactly if some lexeme that it looks at does not end at a
boundary. -/
theorem Tree.extendAll_insideCharacter_iff (markLength : Nat) (tree : Tree) (position : Nat)
    (cs : List Char) (lexemes : List Lexeme) :
    tree.extendAll markLength ⟨position, cs⟩ lexemes = .error .insideCharacter ↔
      ¬ EndAtBoundaries cs (examined lexemes) := by
  induction lexemes generalizing tree position cs with
  | nil => simp [extendAll, examined, endAtBoundaries_nil]
  | cons lexeme lexemes ih =>
      rw [examined, endAtBoundaries_cons]
      simp only [extendAll]
      split
      · rename_i hCut
        simp [hCut]
      · rename_i raw rest hCut
        rcases tree.extend_cases lexeme.token markLength
          ⟨position, position + byteLength lexeme.source⟩ (String.ofList raw) with
          ⟨hReadable, next, hExtend⟩ | ⟨hReadable, place, length, fault, hExtend⟩
        · simpa [hExtend, hReadable, hCut, bind, Except.bind] using ih next _ rest
        · -- The run ends here, and the cuts behind this lexeme are never made.
          simp [hExtend, hReadable, hCut, bind, Except.bind, endAtBoundaries_nil]

theorem Tree.extendAll_ok_iff (markLength : Nat) (tree : Tree) (cursor : Cursor)
    (lexemes : List Lexeme) :
    (∃ run, tree.extendAll markLength cursor lexemes = .ok run) ↔
      tree.extendAll markLength cursor lexemes ≠ .error .insideCharacter ∧
        ∀ lexeme ∈ lexemes, lexeme.token.isReadable = true := by
  induction lexemes generalizing tree cursor with
  | nil => simp [extendAll]
  | cons lexeme lexemes ih =>
      simp only [extendAll, List.forall_mem_cons]
      split
      · simp
      · rename_i raw rest hCut
        rcases tree.extend_cases lexeme.token markLength
          ⟨cursor.position, cursor.position + byteLength lexeme.source⟩ (String.ofList raw) with
          ⟨hReadable, next, hExtend⟩ | ⟨hReadable, place, length, fault, hExtend⟩
        · simpa [hExtend, hReadable, bind, Except.bind] using ih next _
        · simp [hExtend, hReadable, bind, Except.bind]

theorem examined_isPrefixOf (lexemes : List Lexeme) : examined lexemes <+: lexemes := by
  induction lexemes with
  | nil => exact List.nil_prefix
  | cons lexeme lexemes ih =>
      simp only [examined, List.cons_prefix_cons, true_and]
      split
      · exact ih
      · exact List.nil_prefix

/-- The lexemes of a text end at boundaries of every longer text. -/
theorem endAtBoundaries_scanAll (cs behind : List Char) :
    EndAtBoundaries (cs ++ behind) (examined (Lexeme.scanAll cs).1) := by
  intro read hRead
  obtain ⟨later, hLater⟩ := hRead.trans (examined_isPrefixOf _)
  obtain ⟨unread, hSource, -⟩ := Lexeme.scanAll_source cs
  refine ⟨read.flatMap Lexeme.source, later.flatMap Lexeme.source ++ unread ++ behind, ?_, rfl⟩
  rw [← List.append_assoc, ← List.append_assoc, ← List.flatMap_append, hLater, hSource]

/-- The text has no fault in its lexemes, and none in the attributes of its tags. -/
def Readable (cs : List Char) : Prop :=
  (Lexeme.scanAll cs).2 = none ∧
    ∀ lexeme ∈ (Lexeme.scanAll cs).1, lexeme.token.isReadable = true

/-- Every step of a parser run that ends well. -/
theorem parse_eq_ok_iff {source : String} {nodes : List Node} :
    parse source = .ok nodes ↔ ∃ tree position,
      Tree.empty.extendAll (behindMark source.toList).2 ⟨0, source.toList⟩
        (Lexeme.scanAll (behindMark source.toList).1).1 = .ok (tree, position) ∧
      (Lexeme.scanAll (behindMark source.toList).1).2 = none ∧ nodes = tree.finish := by
  unfold parse
  dsimp only
  rw [bind_eq_ok]
  constructor
  · rintro ⟨⟨tree, position⟩, hTree, hNodes⟩
    cases hError : (Lexeme.scanAll (behindMark source.toList).1).2 with
    | some error => simp [hError] at hNodes
    | none =>
        simp only [hError, Except.ok.injEq] at hNodes
        exact ⟨tree, position, hTree, rfl, hNodes.symm⟩
  · rintro ⟨tree, position, hTree, hError, rfl⟩
    exact ⟨(tree, position), hTree, by simp [hError]⟩

theorem parse_insideCharacter_iff (source : String) :
    parse source = .error .insideCharacter ↔ ¬ EndAtBoundaries source.toList
      (examined (Lexeme.scanAll (behindMark source.toList).1).1) := by
  rw [← Tree.extendAll_insideCharacter_iff (behindMark source.toList).2 Tree.empty 0]
  unfold parse
  dsimp only
  cases Tree.empty.extendAll (behindMark source.toList).2 ⟨0, source.toList⟩
    (Lexeme.scanAll (behindMark source.toList).1).1 with
  | error error => simp [bind, Except.bind]
  | ok run =>
      cases (Lexeme.scanAll (behindMark source.toList).1).2 <;> simp [bind, Except.bind]

/-- A source can be parsed exactly if the text behind its mark can be read and no cut falls inside a
character. -/
theorem parse_ok_iff (source : String) :
    (∃ nodes, parse source = .ok nodes) ↔
      EndAtBoundaries source.toList (examined (Lexeme.scanAll (behindMark source.toList).1).1) ∧
        Readable (behindMark source.toList).1 := by
  have hWhole := Tree.extendAll_insideCharacter_iff (behindMark source.toList).2 Tree.empty 0
    source.toList (Lexeme.scanAll (behindMark source.toList).1).1
  have hRun := Tree.extendAll_ok_iff (behindMark source.toList).2 Tree.empty ⟨0, source.toList⟩
    (Lexeme.scanAll (behindMark source.toList).1).1
  rw [Ne, hWhole, Classical.not_not] at hRun
  simp only [parse_eq_ok_iff, Readable]
  constructor
  · rintro ⟨nodes, tree, position, hTree, hError, -⟩
    obtain ⟨hCuts, hReadable⟩ := hRun.mp ⟨_, hTree⟩
    exact ⟨hCuts, hError, hReadable⟩
  · rintro ⟨hCuts, hError, hReadable⟩
    obtain ⟨⟨tree, position⟩, hTree⟩ := hRun.mpr ⟨hCuts, hReadable⟩
    exact ⟨_, tree, position, hTree, hError, rfl⟩

/-- The source begins with a byte order mark. -/
def BeginsWithMark (source : String) : Prop :=
  source.toList.head? = some '\ufeff'

instance : DecidablePred BeginsWithMark :=
  fun source => inferInstanceAs (Decidable (source.toList.head? = some '\ufeff'))

theorem behindMark_eq (cs : List Char) :
    ∃ mark, cs = mark ++ (behindMark cs).1 ∧ byteLength mark = (behindMark cs).2 := by
  unfold behindMark
  split
  · exact ⟨['\ufeff'], rfl, (by decide : byteLength ['\ufeff'] = 3)⟩
  · exact ⟨[], rfl, rfl⟩

theorem behindMark_of_not_beginsWithMark {source : String} (h : ¬ BeginsWithMark source) :
    behindMark source.toList = (source.toList, 0) := by
  unfold behindMark
  split
  · rename_i hText
    exact absurd (by simp [BeginsWithMark, hText]) h
  · rfl

end ResponsiveImages.Markup
