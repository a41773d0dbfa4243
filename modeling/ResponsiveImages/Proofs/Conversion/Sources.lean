import Mathlib.Data.List.Forall2
import Mathlib.Data.List.Nodup
import Mathlib.Data.List.Perm.Subperm
import ResponsiveImages.Proofs.Conversion.OneShotWalk
import ResponsiveImages.Proofs.Conversion.References

/-! The sources of a picture. There is one for each media type among the formats, and it is made for
the first entry that has this media type. -/
namespace ResponsiveImages

open Markup (Attribute Element Node Tag)

namespace Pending

variable (pending : Pending)

/-- The entry stands at that place, and no entry in front of it has its media type. -/
def IsFirst (formats : List SourceFormat) (place : Nat) (entry : SourceFormat) : Prop :=
  formats[place]? = some entry ∧
    ∀ earlier ∈ formats.take place, pending.mediaType? earlier ≠ pending.mediaType? entry

/-- Behind some entries the next one is the first of its media type unless this type occurs among
them. -/
theorem isFirst_length_iff {before entries : List SourceFormat} {entry other : SourceFormat} :
    pending.IsFirst (before ++ entry :: entries) before.length other ↔
      other = entry ∧ pending.mediaType? entry ∉ before.map pending.mediaType? := by
  have hPlace : (before ++ entry :: entries)[before.length]? = some entry := by simp
  rw [IsFirst, hPlace, List.take_left, Option.some.injEq]
  constructor
  · rintro ⟨rfl, hBefore⟩
    simpa using hBefore
  · rintro ⟨rfl, hNew⟩
    exact ⟨rfl, by simpa using hNew⟩

/-- One entry is taken from those that are still to come. -/
theorem isFirst_behind_iff {before entries : List SourceFormat} {entry other : SourceFormat}
    {place : Nat} :
    before.length ≤ place ∧ pending.IsFirst (before ++ entry :: entries) place other ↔
      (place = before.length ∧ other = entry ∧
        pending.mediaType? entry ∉ before.map pending.mediaType?) ∨
      ((before ++ [entry]).length ≤ place ∧
        pending.IsFirst ((before ++ [entry]) ++ entries) place other) := by
  rw [List.append_assoc, List.singleton_append, List.length_append, List.length_singleton]
  constructor
  · rintro ⟨hPlace, hFirst⟩
    rcases Nat.lt_or_eq_of_le hPlace with hBehind | rfl
    · exact .inr ⟨hBehind, hFirst⟩
    · exact .inl ⟨rfl, pending.isFirst_length_iff.mp hFirst⟩
  · rintro (⟨rfl, hHere⟩ | ⟨hBehind, hFirst⟩)
    · exact ⟨Nat.le_refl _, pending.isFirst_length_iff.mpr hHere⟩
    · exact ⟨Nat.le_of_succ_le hBehind, hFirst⟩

/-- The entries that get a source are the first ones of their media types, in the order of the list.
The induction is on the entries that are still to come. -/
theorem exists_firsts (before formats : List SourceFormat) (seen : List (Option String))
    (hSeen : ∀ mediaType, mediaType ∈ seen ↔ mediaType ∈ before.map pending.mediaType?) :
    ∃ firsts : List (Nat × SourceFormat),
      firsts.map Prod.snd = pending.distinctFrom seen formats ∧
      firsts.Pairwise (fun first later => first.1 < later.1) ∧
      ∀ place entry, (place, entry) ∈ firsts ↔
        before.length ≤ place ∧ pending.IsFirst (before ++ formats) place entry := by
  induction formats generalizing before seen with
  | nil =>
      refine ⟨[], by simp [distinctFrom], .nil, fun place entry => ?_⟩
      simp only [List.not_mem_nil, List.append_nil, false_iff, not_and]
      intro hPlace hFirst
      rw [IsFirst, List.getElem?_eq_none hPlace] at hFirst
      cases hFirst.1
  | cons entry entries ih =>
      have hBehind (mediaType : Option String) :
          mediaType ∈ (before ++ [entry]).map pending.mediaType? ↔
            mediaType = pending.mediaType? entry ∨ mediaType ∈ seen := by
        rw [hSeen, List.map_append, List.mem_append, or_comm]
        simp
      cases hKnown : seen.contains (pending.mediaType? entry) with
      | true =>
          have hOld : pending.mediaType? entry ∈ seen := List.contains_iff_mem.mp hKnown
          obtain ⟨firsts, hMap, hOrder, hMem⟩ := ih (before ++ [entry]) seen fun mediaType => by
            rw [hBehind, iff_or_self]
            rintro rfl
            exact hOld
          refine ⟨firsts, by rw [hMap, distinctFrom_cons_of_seen entries hKnown], hOrder, ?_⟩
          intro place other
          rw [hMem, isFirst_behind_iff, ← hSeen]
          exact (or_iff_right fun hHere => hHere.2.2 hOld).symm
      | false =>
          have hNew : pending.mediaType? entry ∉ seen := fun hOld =>
            Bool.false_ne_true (hKnown.symm.trans (List.contains_iff_mem.mpr hOld))
          obtain ⟨firsts, hMap, hOrder, hMem⟩ :=
            ih (before ++ [entry]) (pending.mediaType? entry :: seen) fun mediaType => by
              rw [hBehind, List.mem_cons]
          refine ⟨(before.length, entry) :: firsts,
            by rw [List.map_cons, hMap, distinctFrom_cons_of_new entries hKnown], ?_, ?_⟩
          · refine List.pairwise_cons.mpr ⟨fun later hLater => ?_, hOrder⟩
            have hPlace := ((hMem later.1 later.2).mp hLater).1
            exact Nat.lt_of_lt_of_le (by simp) hPlace
          · intro place other
            rw [List.mem_cons, Prod.mk.injEq, hMem, isFirst_behind_iff, ← hSeen]
            simp only [hNew, not_false_iff, and_true]

/-- No media type gets two sources, and one that has a source already gets no other. -/
theorem nodup_distinctFrom (seen : List (Option String)) (formats : List SourceFormat) :
    ((pending.distinctFrom seen formats).map pending.mediaType?).Nodup ∧
      ∀ entry ∈ pending.distinctFrom seen formats, pending.mediaType? entry ∉ seen := by
  induction formats generalizing seen with
  | nil => simp [distinctFrom]
  | cons entry entries ih =>
      cases hKnown : seen.contains (pending.mediaType? entry) with
      | true =>
          rw [distinctFrom_cons_of_seen entries hKnown]
          exact ih seen
      | false =>
          obtain ⟨hNodup, hOther⟩ := ih (pending.mediaType? entry :: seen)
          rw [distinctFrom_cons_of_new entries hKnown]
          refine ⟨List.nodup_cons.mpr ⟨fun hMem => ?_, hNodup⟩,
            List.forall_mem_cons.mpr ⟨by simpa using hKnown, fun later hLater hSeen => ?_⟩⟩
          · obtain ⟨later, hLater, hSame⟩ := List.mem_map.mp hMem
            exact hOther later hLater (hSame ▸ List.mem_cons_self)
          · exact hOther later hLater (List.mem_cons_of_mem _ hSeen)

/-- Every media type of the list gets a source, unless it has one already. -/
theorem mem_distinctFrom {seen : List (Option String)} {formats : List SourceFormat}
    {entry : SourceFormat} (h : entry ∈ formats) (hNew : pending.mediaType? entry ∉ seen) :
    pending.mediaType? entry ∈ (pending.distinctFrom seen formats).map pending.mediaType? := by
  induction formats generalizing seen with
  | nil => cases h
  | cons first entries ih =>
      cases hKnown : seen.contains (pending.mediaType? first) with
      | true =>
          rw [distinctFrom_cons_of_seen entries hKnown]
          rcases List.mem_cons.mp h with rfl | hLater
          · exact absurd (List.contains_iff_mem.mp hKnown) hNew
          · exact ih hLater hNew
      | false =>
          rw [distinctFrom_cons_of_new entries hKnown, List.map_cons, List.mem_cons]
          by_cases hSame : pending.mediaType? entry = pending.mediaType? first
          · exact .inl hSame
          · rcases List.mem_cons.mp h with rfl | hLater
            · exact absurd rfl hSame
            · exact .inr (ih hLater fun hMem => (List.mem_cons.mp hMem).elim hSame hNew)

/-- The media types that a picture can have sources of: those of the formats and of the image. -/
def possibleTypes : List (Option String) :=
  pending.mediaType? .native :: Format.all.map fun format => some format.mediaType

theorem mem_possibleTypes (entry : SourceFormat) :
    pending.mediaType? entry ∈ pending.possibleTypes := by
  cases entry with
  | native => exact List.mem_cons_self
  | named format =>
      exact List.mem_cons_of_mem _ (List.mem_map.mpr ⟨format, format.mem_all, rfl⟩)

theorem length_distinctFrom_le (seen : List (Option String)) (formats : List SourceFormat) :
    (pending.distinctFrom seen formats).length ≤ 5 := by
  have hSubset : (pending.distinctFrom seen formats).map pending.mediaType? ⊆
      pending.possibleTypes := by
    intro mediaType hMem
    obtain ⟨entry, -, rfl⟩ := List.mem_map.mp hMem
    exact pending.mem_possibleTypes entry
  have hLength := ((pending.nodup_distinctFrom seen formats).1.subperm hSubset).length_le
  rwa [List.length_map] at hLength

/-- The source for an entry, with the import of its source set. -/
def sourceFor (entry : SourceFormat) (target : ImportRef) : Tag where
  name := "source"
  attrs :=
    ((pending.mediaType? entry).map fun mediaType =>
      (⟨"type", .text mediaType, pending.directiveSpan⟩ : Attribute)).toList
    ++ [⟨"srcset", .bound (.moduleDefault target), pending.sourceSpan⟩]
    ++ pending.media.toList ++ pending.sizes.toList
  closing := .selfClosing
  span := pending.elementSpan
  raw := none

theorem source_eq (entry : SourceFormat) (target : ImportRef) :
    pending.source (pending.mediaType? entry) target = pending.sourceFor entry target := by
  rw [sourceFor]
  cases pending.mediaType? entry <;> rfl

/-- What is captured from the image has the names that it was looked up by. -/
structure Captured : Prop where
  media : ∀ attr ∈ pending.media, attr.name = "media"
  sizes : ∀ attr ∈ pending.sizes, attr.name = "sizes"

/-- The media type of an entry is what its source says in its type attribute. -/
theorem text?_sourceFor (h : pending.Captured) (entry : SourceFormat) (target : ImportRef) :
    (pending.sourceFor entry target).text? "type" = pending.mediaType? entry := by
  have hMedia : pending.media.toList.find? (·.name == "type") = none := by
    refine List.find?_eq_none.mpr fun attr hAttr => ?_
    rw [h.media attr (Option.mem_toList.mp hAttr)]
    decide
  have hSizes : pending.sizes.toList.find? (·.name == "type") = none := by
    refine List.find?_eq_none.mpr fun attr hAttr => ?_
    rw [h.sizes attr (Option.mem_toList.mp hAttr)]
    decide
  cases hType : pending.mediaType? entry with
  | none => simp [Tag.text?, Tag.attr?, sourceFor, hType, List.find?_append, hMedia, hSizes]
  | some mediaType => simp [Tag.text?, Tag.attr?, sourceFor, hType, Markup.Value.text?]

/-- The source is made for the entry, with the import that was requested for it. -/
def IsSourceFor (later : Imports) (entry : SourceFormat) (source : Tag) : Prop :=
  ∃ target, source = pending.sourceFor entry target ∧
    target.path = pending.request entry.format? ∧ later.Holds target

/-- The sources are those for the entries that get one, in their order. -/
theorem sourcesFrom_isSourceFor (seen : List (Option String)) (imports : Imports)
    (formats : List SourceFormat) :
    List.Forall₂ (pending.IsSourceFor (pending.sourcesFrom seen imports formats).2)
      (pending.distinctFrom seen formats) (pending.sourcesFrom seen imports formats).1 := by
  induction formats generalizing seen imports with
  | nil => exact .nil
  | cons entry entries ih =>
      cases hKnown : seen.contains (pending.mediaType? entry) with
      | true =>
          simp only [sourcesFrom, hKnown, reduceIte, distinctFrom_cons_of_seen entries hKnown]
          exact ih seen imports
      | false =>
          simp only [sourcesFrom, hKnown, Bool.false_eq_true, reduceIte,
            distinctFrom_cons_of_new entries hKnown, source_eq]
          refine .cons ⟨_, rfl, Imports.path_request imports _, ?_⟩ (ih _ _)
          rw [sourcesFrom_imports]
          exact (Imports.holds_request imports _).extend (Imports.extends_requestAll _ _)

/-- The types that the sources say are those of the entries that they were made for. -/
theorem types_of_isSourceFor (h : pending.Captured) {later : Imports}
    {entries : List SourceFormat} {sources : List Tag}
    (hSources : List.Forall₂ (pending.IsSourceFor later) entries sources) :
    sources.map (·.text? "type") = entries.map pending.mediaType? := by
  induction hSources with
  | nil => rfl
  | cons hSource _ ih =>
      obtain ⟨target, rfl, -⟩ := hSource
      rw [List.map_cons, List.map_cons, ih, pending.text?_sourceFor h]

/-- The loop over the formats with no list of types beside it: whether a type was seen before is
read off the sources that are written already. -/
def sourcesReading (written : List Tag) (imports : Imports) :
    List SourceFormat → List Tag × Imports
  | [] => (written, imports)
  | entry :: entries =>
    if written.any (·.text? "type" == pending.mediaType? entry) then
      sourcesReading written imports entries
    else
      let (target, imports) := imports.request (pending.request entry.format?)
      sourcesReading (written ++ [pending.sourceFor entry target]) imports entries

/-- It does not matter which of the two is asked. -/
theorem sourcesReading_eq (h : pending.Captured) (written : List Tag) (imports : Imports)
    (formats : List SourceFormat) :
    let sources := pending.sourcesFrom (written.map (·.text? "type")).reverse imports formats
    pending.sourcesReading written imports formats = (written ++ sources.1, sources.2) := by
  induction formats generalizing written imports with
  | nil => simp [sourcesReading, sourcesFrom]
  | cons entry entries ih =>
      have hAsked : (written.map (·.text? "type")).reverse.contains (pending.mediaType? entry) =
          written.any (·.text? "type" == pending.mediaType? entry) := by
        rw [Bool.eq_iff_iff, List.contains_iff_mem]
        simp
      simp only [sourcesReading, sourcesFrom, hAsked, source_eq]
      split
      · exact ih written imports
      · rw [ih]
        simp [pending.text?_sourceFor h]

/-- What the second phase adds to a picture and to the imports. There is one source for each first
entry of a media type, in the order of these entries, and the types that they say are different. -/
structure Supplies (imports : Imports) (sources : List Tag) (later : Imports) : Prop where
  exists_firsts : ∃ firsts : List (Nat × SourceFormat),
    firsts.Pairwise (fun first later => first.1 < later.1) ∧
    (∀ place entry, (place, entry) ∈ firsts ↔ pending.IsFirst pending.formats place entry) ∧
    List.Forall₂ (fun first => pending.IsSourceFor later first.2) firsts sources ∧
    later = imports.requestAll (firsts.map fun first => pending.request first.2.format?)
  reading : pending.sourcesReading [] imports pending.formats = (sources, later)
  types_nodup : (sources.map (·.text? "type")).Nodup
  types_count : ∀ entry ∈ pending.formats,
    (sources.map (·.text? "type")).count (pending.mediaType? entry) = 1
  length_le : sources.length ≤ 5

theorem sources_supplies (h : pending.Captured) (imports : Imports) :
    pending.Supplies imports (pending.sources imports).1 (pending.sources imports).2 := by
  have hSources := pending.sourcesFrom_isSourceFor [] imports pending.formats
  have hTypes := pending.types_of_isSourceFor h hSources
  have hNodup := (pending.nodup_distinctFrom [] pending.formats).1
  obtain ⟨firsts, hMap, hOrder, hMem⟩ := pending.exists_firsts [] pending.formats [] (by simp)
  refine ⟨⟨firsts, hOrder, fun place entry => ?_, ?_, ?_⟩, pending.sourcesReading_eq h [] imports _,
    ?_, fun entry hEntry => ?_, ?_⟩
  · simpa using hMem place entry
  · rw [← hMap, List.forall₂_map_left_iff] at hSources
    exact hSources
  · rw [sources, sourcesFrom_imports, ← hMap, List.map_map]
    rfl
  · rwa [sources, hTypes]
  · rw [sources, hTypes]
    exact List.count_eq_one_of_mem hNodup (pending.mem_distinctFrom hEntry List.not_mem_nil)
  · rw [sources, ← hSources.length_eq]
    exact pending.length_distinctFrom_le [] pending.formats

/-- The second phase looks at no child of the picture. -/
theorem complete_append (picture : Element) (imports : Imports) (nodes : List Node) :
    pending.complete ⟨picture.tag, picture.children ++ nodes⟩ imports =
      let completed := pending.complete picture imports
      (completed.1, ⟨completed.2.1.tag, completed.2.1.children ++ nodes⟩, completed.2.2) := by
  unfold complete
  split <;> simp

end Pending

namespace Converter

theorem captured_pending (converter : Converter) (plan : Plan) (image : Tag) :
    (converter.pending plan image).Captured where
  media attr hAttr := by simpa using List.find?_some (Option.mem_def.mp hAttr)
  sizes attr hAttr := by simpa using List.find?_some (Option.mem_def.mp hAttr)

/-- What the second phase does with a picture that the first phase began, for the formats of some
settings and with the rule of the converter. On an element that is called picture, in whatever case,
it adds the sources in front of the children; any other element it leaves alone. Nodes that others
put behind the children in between do not matter to it. -/
theorem complete_sources (converter : Converter) (element skeleton : Element) (pending : Pending)
    (imports staged : Imports)
    (hStage : converter.stage element imports = .ok (.picture skeleton pending, staged)) :
    (∃ settings, pending.formats = settings.imageFormats ∧
      pending.request = converter.srcset pending.path settings) ∧
    (∀ (picture : Element) (later : Imports), picture.tag.isNamed "picture" = true →
      ∃ sources last,
        pending.complete picture later =
          (.replaced sources.length,
            ⟨picture.tag, sources.map (Node.element · []) ++ picture.children⟩, last) ∧
        pending.Supplies later sources last) ∧
    (∀ (picture : Element) (later : Imports), picture.tag.isNamed "picture" = false →
      pending.complete picture later = (.unchanged, picture, later)) ∧
    ∀ nodes : List Node,
      let run := converter.transform element imports
      ∃ outcome, run.result = .ok outcome ∧
        pending.complete ⟨skeleton.tag, skeleton.children ++ nodes⟩ staged =
          (outcome, ⟨run.left.tag, run.left.children ++ nodes⟩, run.imports) := by
  obtain ⟨plan, image, hPending⟩ : ∃ plan image, pending = converter.pending plan image := by
    rcases stage_ok hStage with ⟨-, hStep, -⟩ | ⟨-, plan, image, -, -, hStep | hStep⟩
    · cases hStep
    · cases hStep
      exact ⟨plan, image, rfl⟩
    · cases hStep
  have hCaptured : pending.Captured := hPending ▸ captured_pending converter plan image
  refine ⟨⟨plan.settings, by simp only [hPending, Converter.pending],
      by simp only [hPending, Converter.pending]⟩,
    fun picture later hNamed => ?_, fun picture later hNamed => ?_, fun nodes => ?_⟩
  · exact ⟨_, _, by simp only [Pending.complete, hNamed, reduceIte],
      pending.sources_supplies hCaptured later⟩
  · simp only [Pending.complete, hNamed, Bool.false_eq_true, reduceIte]
  · simp only [transform, hStage, pending.complete_append]
    exact ⟨_, rfl, rfl⟩

/-- Two entries are the format of the image, and two more repeat a media type. The element that is
completed is not the one that was begun, and has other children. -/
theorem complete_sources_repeated :
    let formats : List SourceFormat :=
      [.native, .named .webp, .named .png, .native, .named .webp, .named .avif]
    let converter := Converter.ofConfig
      { Config.empty with options := { Options.none with imageFormats := some formats } }
    let tag : Tag :=
      { Tag.named "img" with
        attrs := [⟨"src", .text "./a.PNG", none⟩, ⟨"media", .text "print", none⟩,
          ⟨"modernize", .text "", none⟩] }
    let picture : Element := ⟨Tag.named "PICTURE", [.text " "]⟩
    let other : Element := ⟨Tag.named "div", []⟩
    ∃ skeleton pending staged sources last,
      converter.stage ⟨tag, []⟩ .empty = .ok (.picture skeleton pending, staged) ∧
      sources.length = 3 ∧
      pending.complete picture ⟨["./b.png"]⟩ =
        (.replaced sources.length,
          ⟨picture.tag, sources.map (Node.element · []) ++ picture.children⟩, last) ∧
      pending.Supplies ⟨["./b.png"]⟩ sources last ∧
      pending.complete other staged = (.unchanged, other, staged) := by
  intro formats converter tag picture other
  have hRun : (converter.stage ⟨tag, []⟩ .empty).toOption.map (fun staged =>
      match staged.1 with
      | .picture _ pending => some (pending.complete picture ⟨["./b.png"]⟩).1
      | _ => none) = some (some (.replaced 3)) := by decide +kernel
  obtain ⟨⟨step, staged⟩, hStage, hCompleted⟩ := map_toOption_eq_some_iff.mp hRun
  cases step with
  | unchanged | inPlace => simp at hCompleted
  | picture skeleton pending =>
      obtain ⟨-, hPicture, hOther, -⟩ := complete_sources converter _ _ _ _ _ hStage
      obtain ⟨sources, last, hComplete, hSupplies⟩ := hPicture picture ⟨["./b.png"]⟩ (by decide)
      have hLength : sources.length = 3 := by simpa [hComplete] using hCompleted
      exact ⟨skeleton, pending, staged, sources, last, hStage, hLength, hComplete, hSupplies,
        hOther other staged (by decide)⟩

end Converter

end ResponsiveImages
