import ResponsiveImages.Markup.Printer

/-! Changes to an element, one after the other. As long as an element has the text of its tags, its
attributes are those for which the text was given. A change of the attributes is therefore never
hidden when the element is written, not even behind changes that take it back. -/
namespace ResponsiveImages.Markup

/-- A change to an element. -/
inductive Edit where
  | push (attr : Attribute)
  | setValueAt (index : Nat) (value : Value)
  | keep (condition : Attribute → Bool)
  /-- The text of the tags is given anew. -/
  | setRaw (raw : RawTags)
  /-- The text of the tags is changed, if there is one. -/
  | editRaw (change : RawTags → RawTags)
  | editChildren (change : List Node → List Node)
  | setClosing (closing : Closing)
  | setSpan (span : Option Span)

/-- Whether the text of the tags is given anew. -/
def Edit.givesText : Edit → Bool
  | setRaw _ => true
  | _ => false

namespace Tag

/-- Behind the last attribute there is no value to set. -/
theorem setValueAt_of_length_le {tag : Tag} {index : Nat} (h : tag.attrs.length ≤ index)
    (value : Value) : tag.setValueAt index value = tag :=
  if_neg (Nat.not_lt_of_le h)

theorem keep_of_forall {tag : Tag} {condition : Attribute → Bool}
    (h : ∀ attr ∈ tag.attrs, condition attr = true) : tag.keep condition = tag :=
  if_pos (congrArg List.length (List.filter_eq_self.mpr h))

/-- A value is set and the text is dropped, or nothing changes. -/
theorem setValueAt_cases (tag : Tag) (index : Nat) (value : Value) :
    tag.setValueAt index value = tag ∨ (tag.setValueAt index value).raw = none := by
  unfold setValueAt
  split
  · exact .inr rfl
  · exact .inl rfl

theorem keep_cases (tag : Tag) (condition : Attribute → Bool) :
    tag.keep condition = tag ∨ (tag.keep condition).raw = none := by
  unfold keep
  dsimp only
  split
  · exact .inl rfl
  · exact .inr rfl

end Tag

namespace Element

def edit (element : Element) : Edit → Element
  | .push attr => { element with tag := element.tag.push attr }
  | .setValueAt index value => { element with tag := element.tag.setValueAt index value }
  | .keep condition => { element with tag := element.tag.keep condition }
  | .setRaw raw => { element with tag := element.tag.setRaw raw }
  | .editRaw change => { element with tag := element.tag.editRaw change }
  | .editChildren change => { element with children := change element.children }
  | .setClosing closing => { element with tag := { element.tag with closing := closing } }
  | .setSpan span => { element with tag := { element.tag with span := span } }

/-- The element after several changes, one after the other. -/
def editAll (element : Element) (edits : List Edit) : Element :=
  edits.foldl edit element

theorem editAll_cons (element : Element) (change : Edit) (edits : List Edit) :
    element.editAll (change :: edits) = (element.edit change).editAll edits := rfl

theorem editAll_append (element : Element) (early late : List Edit) :
    element.editAll (early ++ late) = (element.editAll early).editAll late :=
  List.foldl_append

/-- A change that does not give the text anew drops it or leaves the attributes as they are. It
does not bring a text about. -/
theorem edit_cases (element : Element) {change : Edit} (h : change.givesText = false) :
    (element.edit change).tag.raw = none ∨
    (element.edit change).tag.attrs = element.tag.attrs ∧
      (element.edit change).tag.raw.isSome = element.tag.raw.isSome := by
  cases change with
  | push attr => exact .inl rfl
  | setValueAt index value =>
      refine (element.tag.setValueAt_cases index value).symm.imp_right fun hSame => ?_
      exact ⟨congrArg Tag.attrs hSame, congrArg (·.raw.isSome) hSame⟩
  | keep condition =>
      refine (element.tag.keep_cases condition).symm.imp_right fun hSame => ?_
      exact ⟨congrArg Tag.attrs hSame, congrArg (·.raw.isSome) hSame⟩
  | setRaw raw => cases h
  | editRaw change => exact .inr ⟨rfl, Option.isSome_map⟩
  | editChildren change => exact .inr ⟨rfl, rfl⟩
  | setClosing closing => exact .inr ⟨rfl, rfl⟩
  | setSpan span => exact .inr ⟨rfl, rfl⟩

/-- A text that is there in the end and was not given in between was there from the start, and the
attributes are still the same. The induction is on the changes. If one of them drops the text, no
later one brings it back. -/
theorem attrs_editAll {element : Element} {edits : List Edit}
    (h : ∀ change ∈ edits, change.givesText = false)
    (hText : (element.editAll edits).tag.raw.isSome = true) :
    element.tag.raw.isSome = true ∧ (element.editAll edits).tag.attrs = element.tag.attrs := by
  induction edits generalizing element with
  | nil => exact ⟨hText, rfl⟩
  | cons change edits ih =>
      obtain ⟨hChange, hEdits⟩ := List.forall_mem_cons.mp h
      obtain ⟨hNext, hAttrs⟩ := ih hEdits hText
      rcases element.edit_cases hChange with hDropped | ⟨hSame, hRaw⟩
      · rw [hDropped] at hNext
        cases hNext
      · exact ⟨hRaw ▸ hNext, hAttrs.trans hSame⟩

/-- The attributes are those for which the text of the tags was given. -/
structure HasAttrsOfText (element : Element) (edits : List Edit) : Prop where
  /-- If no change gave the text, the attributes are those from the start. -/
  start : (∀ change ∈ edits, change.givesText = false) →
    (element.editAll edits).tag.attrs = element.tag.attrs
  /-- If there was such a change, the attributes are those at the last one. -/
  last : ∀ early raw late, edits = early ++ .setRaw raw :: late →
    (∀ change ∈ late, change.givesText = false) →
    (element.editAll edits).tag.attrs = (element.editAll early).tag.attrs

/-- Whatever is done to an element, as long as its tags have a text, its attributes are those for
which the text was given. A value that is set behind the last attribute and a condition that all
attributes satisfy leave the element as it is. -/
theorem hasAttrsOfText_editAll (element : Element) :
    (∀ edits, (element.editAll edits).tag.raw.isSome = true → element.HasAttrsOfText edits) ∧
    (∀ index value, element.tag.attrs.length ≤ index →
      element.edit (.setValueAt index value) = element) ∧
    (∀ condition, (∀ attr ∈ element.tag.attrs, condition attr = true) →
      element.edit (.keep condition) = element) := by
  refine ⟨fun edits hText => ⟨fun hEdits => ?start, fun early raw late hSplit hLate => ?last⟩,
    fun index value h => ?set, fun condition h => ?keep⟩
  case start => exact (attrs_editAll hEdits hText).2
  case last =>
    subst hSplit
    rw [editAll_append, editAll_cons] at hText ⊢
    exact (attrs_editAll hLate hText).2
  case set => rw [edit, Tag.setValueAt_of_length_le h]
  case keep => rw [edit, Tag.keep_of_forall h]

/-- An image whose text is given again after its attributes were changed, and then stays through all
changes that leave these as they are. -/
theorem hasAttrsOfText_editAll_image :
    let image : Element := ⟨⟨"img", [⟨"src", .text "a.png", none⟩, ⟨"alt", .text "", none⟩],
      .selfClosing, none, some ⟨"<img src='a.png' alt />", none⟩⟩, []⟩
    let early : List Edit := [.setValueAt 0 (.text "b.png"), .keep (·.name != "alt")]
    let late : List Edit := [.setValueAt 9 (.text "c.png"), .keep fun _ => true,
      .editRaw fun raw => { raw with stop := some "</img>" }, .setClosing .endTag,
      .editChildren (.text "caption" :: ·), .setSpan (some ⟨0, 23⟩)]
    let edits := early ++ .setRaw ⟨"<img src='b.png'>", none⟩ :: late
    (∀ change ∈ late, change.givesText = false) ∧
    (image.editAll edits).tag.raw.isSome = true ∧
    (image.editAll edits).tag.attrs = (image.editAll early).tag.attrs ∧
    (image.editAll late).tag.raw.isSome = true ∧
    (image.editAll late).tag.attrs = image.tag.attrs ∧
    image.edit (.setValueAt 9 (.text "c.png")) = image ∧
    image.edit (.keep fun _ => true) = image := by
  intro image early late edits
  have hLate : ∀ change ∈ late, change.givesText = false := by simp [late, Edit.givesText]
  have hGiven : (image.editAll edits).tag.raw.isSome = true := by decide
  have hKept : (image.editAll late).tag.raw.isSome = true := by decide
  obtain ⟨hRuns, hSet, hKeep⟩ := hasAttrsOfText_editAll image
  exact ⟨hLate, hGiven, (hRuns edits hGiven).last early _ late rfl hLate,
    hKept, (hRuns late hKept).start hLate, hSet 9 _ (by decide), hKeep _ fun _ _ => rfl⟩

/-- An attribute that is taken out and added again does not bring the text back. -/
example :
    let image : Element := ⟨⟨"img", [⟨"alt", .text "", none⟩], .void, none,
      some ⟨"<img alt>", none⟩⟩, []⟩
    let edited := image.editAll [.keep (·.name != "alt"), .push ⟨"alt", .text "", none⟩]
    edited.tag.attrs = image.tag.attrs ∧ edited.tag.raw = none := by
  decide

/-- If the attributes are others than at an earlier time, and the text of the tags was not given
since, the start tag is written from its parts. -/
theorem writeStart_of_attrs_ne {element : Element} {early late : List Edit}
    (hLate : ∀ change ∈ late, change.givesText = false)
    (hAttrs : (element.editAll (early ++ late)).tag.attrs ≠ (element.editAll early).tag.attrs)
    (style : ImportStyle) :
    let tag := (element.editAll (early ++ late)).tag
    tag.writeStart style =
      "<" ++ tag.name ++ String.join (tag.attrs.map (·.write style)) ++ tag.closing.startEnd := by
  rw [editAll_append] at hAttrs ⊢
  cases hRaw : ((element.editAll early).editAll late).tag.raw with
  | none => simp only [Tag.writeStart, hRaw]
  | some raw => exact absurd (attrs_editAll hLate (Option.isSome_of_eq_some hRaw)).2 hAttrs

end Element

end ResponsiveImages.Markup
