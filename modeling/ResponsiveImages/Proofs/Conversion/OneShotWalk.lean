import Mathlib.Algebra.GroupWithZero.Nat
import ResponsiveImages.Conversion.Walk
import ResponsiveImages.Proofs.Results

/-! The walk in two phases compared with a walk that converts each element at once. Between its two
phases an element is a picture around a converted image. Nothing is found in there, so that the
second phase could as well come at once. -/
namespace ResponsiveImages

open Markup (Element Node Span Tag)

/-- One element that a walk came by: its tag, and what became of it before anything in it was
converted. -/
structure Encounter where
  tag : Tag
  outcome : Outcome
  left : Element

/-- A walk that remembers all encounters, in the order of the text. -/
abbrev Walk (β : Type) := Run WalkError (List Encounter) β

/-- An encounter, and then the walk through the children that it left. -/
def Walk.below (inner : Walk (List Node)) (encounter : Encounter) (events : List Event) :
    Walk Node :=
  ⟨inner.result.map (encounter :: ·), .element encounter.left.tag inner.left, inner.imports,
    events ++ inner.events⟩

/-- A picture that is as the first phase left it gets its sources in front of its image. -/
theorem Pending.complete_skeleton (pending : Pending) (image : Tag) (imports : Imports) :
    let added := pending.sources imports
    pending.complete (Converter.skeleton image) imports =
      (.replaced added.1.length,
        ⟨(Converter.skeleton image).tag,
          added.1.map (Node.element · []) ++ [.element image []]⟩, added.2) := by
  have hNamed : (Converter.skeleton image).tag.isNamed "picture" = true :=
    Text.equalIgnoringCase_refl "picture"
  simp only [complete, hNamed, reduceIte]
  rfl

namespace Converter

/-- Only an element that became a picture has other children now. -/
theorem transform_children {converter : Converter} {element : Element} {imports : Imports}
    {outcome : Outcome} (h : (converter.transform element imports).result = .ok outcome)
    (hKept : outcome = .unchanged ∨ outcome = .inPlace) :
    (converter.transform element imports).left.children = element.children := by
  cases hStage : converter.stage element imports with
  | error error => simp [transform, hStage]
  | ok staged =>
      obtain ⟨step, later⟩ := staged
      rcases stage_ok hStage with ⟨-, rfl, rfl⟩ | ⟨-, plan, image, -, -, rfl | rfl⟩
      · simp [transform, hStage]
      · rcases hKept with rfl | rfl <;> simp [transform, hStage, Pending.complete_skeleton] at h
      · simp [transform, hStage]

mutual

/-- A walk through one node. The element itself is converted first, and its children are walked
through only if they are still the same. -/
def walk (converter : Converter) (imports : Imports) (node : Node) : Walk Node :=
  match node with
  | .text content => ⟨.ok [], .text content, imports, []⟩
  | .verbatim content => ⟨.ok [], .verbatim content, imports, []⟩
  | .element tag children =>
    let run := converter.transform ⟨tag, children⟩ imports
    match _hOutcome : run.result with
    | .error cause =>
      let error :=
        match tag.span with
        | some span => .located tag.name span.start cause
        | none => .bare cause
      ⟨.error error, run.left.toNode, run.imports, run.events⟩
    | .ok .unchanged =>
      (converter.walkAll run.imports run.left.children).below ⟨tag, .unchanged, run.left⟩
        run.events
    | .ok .inPlace =>
      (converter.walkAll run.imports run.left.children).below ⟨tag, .inPlace, run.left⟩
        run.events
    | .ok (.replaced sources) =>
      ⟨.ok [⟨tag, .replaced sources, run.left⟩], run.left.toNode, run.imports, run.events⟩
termination_by sizeOf node
decreasing_by
  · rw [transform_children _hOutcome (Or.inl rfl)]
    decreasing_tactic
  · rw [transform_children _hOutcome (Or.inr rfl)]
    decreasing_tactic

/-- A walk through several nodes. It ends with the first element that is refused. -/
def walkAll (converter : Converter) (imports : Imports) (nodes : List Node) :
    Walk (List Node) :=
  match nodes with
  | [] => ⟨.ok [], [], imports, []⟩
  | node :: nodes =>
    let first := converter.walk imports node
    match first.result with
    | .error error => ⟨.error error, first.left :: nodes, first.imports, first.events⟩
    | .ok encounters =>
      let rest := converter.walkAll first.imports nodes
      ⟨rest.result.map (encounters ++ ·), first.left :: rest.left, rest.imports,
        first.events ++ rest.events⟩
termination_by sizeOf nodes

end

end Converter

namespace Encounter

def isInPlace (encounter : Encounter) : Bool := encounter.outcome == .inPlace

/-- The element became a picture, with any number of sources. -/
def isReplaced (encounter : Encounter) : Bool :=
  match encounter.outcome with
  | .replaced _ => true
  | _ => false

/-- The sources in the picture that the element became. -/
def sources (encounter : Encounter) : Nat :=
  if encounter.isReplaced then
    encounter.left.children.countP fun
      | .element tag _ => tag.isNamed "source"
      | _ => false
  else 0

end Encounter

/-- The summary counts what became of all elements that were encountered, and its total is the
number of those that are candidates. -/
structure Tallies (converter : Converter) (summary : Summary) (encounters : List Encounter) :
    Prop where
  images : summary.images = encounters.countP Encounter.isInPlace
  pictures : summary.pictures = encounters.countP Encounter.isReplaced
  sources : summary.sources = (encounters.map Encounter.sources).sum
  total : summary.total = encounters.countP fun encounter => converter.isCandidate encounter.tag

namespace Tallies

variable {converter : Converter}

theorem nil : Tallies converter .zero [] := ⟨rfl, rfl, rfl, rfl⟩

theorem append {first second : Summary} {early late : List Encounter}
    (hFirst : Tallies converter first early) (hSecond : Tallies converter second late) :
    Tallies converter (first.add second) (early ++ late) where
  images := by simp [Summary.add, hFirst.images, hSecond.images]
  pictures := by simp [Summary.add, hFirst.pictures, hSecond.pictures]
  sources := by simp [Summary.add, hFirst.sources, hSecond.sources]
  total := by
    rw [Summary.total_add, List.countP_append, hFirst.total, hSecond.total]

theorem single (converter : Converter) (encounter : Encounter)
    (hCandidate : converter.isCandidate encounter.tag = (encounter.outcome != .unchanged))
    (hSources : ∀ sources, encounter.outcome = .replaced sources → encounter.sources = sources) :
    Tallies converter (Summary.ofOutcome encounter.outcome) [encounter] := by
  have hTotal : (Summary.ofOutcome encounter.outcome).total =
      [encounter].countP fun encounter => converter.isCandidate encounter.tag := by
    rw [Summary.total_ofOutcome, List.countP_singleton, hCandidate]
    simp
  obtain ⟨tag, outcome, left⟩ := encounter
  cases outcome with
  | unchanged => exact ⟨rfl, rfl, rfl, hTotal⟩
  | inPlace => exact ⟨rfl, rfl, rfl, hTotal⟩
  | replaced sources =>
      refine ⟨rfl, rfl, ?_, hTotal⟩
      simp [hSources sources rfl, Summary.ofOutcome]

end Tallies

/-- A visit does the same as a walk. It fails with the same error, or else its summary counts what
the walk remembers. -/
structure Refines {β : Type} (converter : Converter) (visit : Visit β) (walk : Walk β) :
    Prop where
  left : visit.left = walk.left
  imports : visit.imports = walk.imports
  events : visit.events = walk.events
  failed : ∀ error, visit.result = .error error ↔ walk.result = .error error
  counted : ∀ {summary}, visit.result = .ok summary →
    ∃ encounters, walk.result = .ok encounters ∧ Tallies converter summary encounters

namespace Refines

variable {converter : Converter}

theorem nothing {β : Type} (left : β) (imports : Imports) :
    Refines converter (Visit.nothing left imports) ⟨.ok [], left, imports, []⟩ where
  left := rfl
  imports := rfl
  events := rfl
  failed := by simp [Visit.nothing]
  counted h := by
    cases h
    exact ⟨[], rfl, .nil⟩

/-- One encounter in front of the walk through the children. -/
theorem below {visit : Visit (List Node)} {inner : Walk (List Node)} {encounter : Encounter}
    (hInner : Refines converter visit inner)
    (hTally : Tallies converter (Summary.ofOutcome encounter.outcome) [encounter])
    (events : List Event) :
    Refines converter
      ((visit.map (.element encounter.left.tag)).after (Summary.ofOutcome encounter.outcome) events)
      (inner.below encounter events) where
  left := by simp [Visit.after, Visit.map, Walk.below, hInner.left]
  imports := hInner.imports
  events := by simp [Visit.after, Visit.map, Walk.below, hInner.events]
  failed error := by
    simp only [Visit.after, Visit.map, Walk.below, map_eq_error]
    exact hInner.failed error
  counted h := by
    obtain ⟨summary, hVisit, rfl⟩ := map_eq_ok.mp h
    obtain ⟨encounters, hWalk, hEncounters⟩ := hInner.counted hVisit
    exact ⟨encounter :: encounters, by simp [Walk.below, hWalk, Except.map],
      hTally.append hEncounters⟩

/-- A walk through more nodes behind one that ended well. -/
theorem behind {first : Visit Node} {early : Walk Node} {rest : Visit (List Node)}
    {late : Walk (List Node)} {summary : Summary} {encounters : List Encounter}
    (hFirst : Refines converter first early) (hTally : Tallies converter summary encounters)
    (hRest : Refines converter rest late) :
    Refines converter ((rest.map (first.left :: ·)).after summary first.events)
      ⟨late.result.map (encounters ++ ·), early.left :: late.left, late.imports,
        early.events ++ late.events⟩ where
  left := by simp [Visit.after, Visit.map, hFirst.left, hRest.left]
  imports := hRest.imports
  events := by simp [Visit.after, Visit.map, hFirst.events, hRest.events]
  failed error := by
    simp only [Visit.after, Visit.map, map_eq_error]
    exact hRest.failed error
  counted h := by
    obtain ⟨behind, hVisit, rfl⟩ := map_eq_ok.mp h
    obtain ⟨later, hWalk, hLater⟩ := hRest.counted hVisit
    exact ⟨encounters ++ later, by simp [hWalk, Except.map], hTally.append hLater⟩

end Refines

namespace Converter

/-- The choices of a walk at an element. -/
theorem walk_element (converter : Converter) (imports : Imports) (tag : Tag)
    (children : List Node) :
    converter.walk imports (.element tag children) =
      let run := converter.transform ⟨tag, children⟩ imports
      match run.result with
      | .error cause =>
        ⟨.error (WalkError.ofTag tag cause), run.left.toNode, run.imports, run.events⟩
      | .ok .unchanged =>
        (converter.walkAll run.imports run.left.children).below ⟨tag, .unchanged, run.left⟩
          run.events
      | .ok .inPlace =>
        (converter.walkAll run.imports run.left.children).below ⟨tag, .inPlace, run.left⟩
          run.events
      | .ok (.replaced sources) =>
        ⟨.ok [⟨tag, .replaced sources, run.left⟩], run.left.toNode, run.imports, run.events⟩ := by
  rw [walk]
  dsimp only
  split <;> rename_i hOutcome
  · cases hSpan : tag.span <;> simp [hOutcome, WalkError.ofTag, hSpan]
  · simp only [hOutcome]
  · simp only [hOutcome]
  · simp only [hOutcome]

theorem walkAll_nil (converter : Converter) (imports : Imports) :
    converter.walkAll imports [] = ⟨.ok [], [], imports, []⟩ := by
  rw [walkAll]

theorem walkAll_cons (converter : Converter) (imports : Imports) (node : Node)
    (nodes : List Node) :
    converter.walkAll imports (node :: nodes) =
      let first := converter.walk imports node
      match first.result with
      | .error error => ⟨.error error, first.left :: nodes, first.imports, first.events⟩
      | .ok encounters =>
        let rest := converter.walkAll first.imports nodes
        ⟨rest.result.map (encounters ++ ·), first.left :: rest.left, rest.imports,
          first.events ++ rest.events⟩ := by
  rw [walkAll]

/-- The sources of a picture that was just made are all of its children but the image. -/
theorem sources_picture {converter : Converter} {plan : Plan} {tag image : Tag}
    {imports later : Imports} (pending : Pending) (hImage : tag.isNamed "img" = true)
    (hConvert : converter.convert plan tag imports = (image, later)) :
    let added := pending.sources later
    (Encounter.mk tag (.replaced added.1.length) ⟨(skeleton image).tag,
      added.1.map (Node.element · []) ++ [.element image []]⟩).sources = added.1.length := by
  have hName : image.isNamed "source" = false := by
    have hSame : image.name = tag.name := by
      rw [← convert_name converter plan tag imports, hConvert]
    exact Tag.isNamed_eq_false (by rwa [Tag.isNamed, hSame]) (by decide)
  have hSources : ∀ source ∈ (pending.sources later).1, source.isNamed "source" = true :=
    fun source hSource => Pending.isNamed_of_mem_sourcesFrom hSource
  simp only [Encounter.sources, Encounter.isReplaced, reduceIte, List.countP_append,
    List.countP_map, List.countP_singleton, hName]
  simpa using List.countP_eq_length.mpr hSources

/-- A picture gets its sources in the same way at once as after a visit to its image. -/
theorem visit_picture_refines {converter : Converter} {imports later : Imports} {tag image : Tag}
    {children : List Node} {plan : Plan} (hCandidate : converter.isCandidate tag = true)
    (hConvert : converter.convert plan tag imports = (image, later))
    (hImage : converter.isCandidate image = false)
    (hStage : converter.stage ⟨tag, children⟩ imports =
      .ok (.picture (skeleton image) (converter.pending plan image), later)) :
    Refines converter (converter.visit imports (.element tag children))
      (converter.walk imports (.element tag children)) := by
  have hNamed := ((converter.isCandidate_iff tag).mp hCandidate).1
  have hSources := sources_picture (converter.pending plan image) hNamed hConvert
  have hTally := Tallies.single converter
    ⟨tag, .replaced ((converter.pending plan image).sources later).1.length, _⟩ hCandidate
    fun sources hOutcome => hSources.trans (Outcome.replaced.inj hOutcome)
  -- What the visit finds between the phases is the image alone, which is no candidate any more.
  have hInside : (converter.visitAll later (skeleton image).children).map
      (Element.mk (skeleton image).tag) = Visit.nothing (skeleton image) later :=
    congrArg (Visit.map · (Element.mk (skeleton image).tag)) (visitAll_image later hImage)
  rw [visit_element, walk_element]
  simp only [hStage, transform, hInside, Visit.nothing, Visit.next, Visit.after_zero,
    Pending.visit, Pending.complete_skeleton]
  exact ⟨rfl, rfl, rfl, by simp [Visit.map], fun h => ⟨_, rfl, Except.ok.inj h ▸ hTally⟩⟩

mutual

/-- A visit does the same as a walk, at every node and with whatever imports. -/
theorem visit_refines_walk (converter : Converter) (imports : Imports) :
    ∀ node, Refines converter (converter.visit imports node) (converter.walk imports node)
  | .text content => by
      rw [visit, walk]
      exact .nothing _ _
  | .verbatim content => by
      rw [visit, walk]
      exact .nothing _ _
  | .element tag children => by
      cases hStage : converter.stage ⟨tag, children⟩ imports with
      | error cause =>
          rw [visit_element, walk_element]
          simp only [hStage, transform]
          exact ⟨rfl, rfl, rfl, by simp, by simp⟩
      | ok staged =>
          obtain ⟨step, later⟩ := staged
          rcases stage_ok hStage with ⟨hCandidate, rfl, rfl⟩ |
            ⟨hCandidate, plan, image, hConvert, hImage, rfl | rfl⟩
          · have hTally := Tallies.single converter
              ⟨tag, .unchanged, ⟨tag, children⟩⟩ hCandidate (by simp)
            have hBelow := (visitAll_refines_walkAll converter later children).below hTally []
            rw [visit_element, walk_element]
            simpa [hStage, transform, Summary.ofOutcome] using hBelow
          · exact visit_picture_refines hCandidate hConvert hImage hStage
          · have hTally := Tallies.single converter
              ⟨tag, .inPlace, ⟨image, children⟩⟩ hCandidate (by simp)
            have hBelow := (visitAll_refines_walkAll converter later children).below hTally
              [.inPlace plan.path plan.settings.mode]
            rw [visit_element, walk_element]
            simpa [hStage, transform] using hBelow

theorem visitAll_refines_walkAll (converter : Converter) (imports : Imports) :
    ∀ nodes, Refines converter (converter.visitAll imports nodes) (converter.walkAll imports nodes)
  | [] => by
      rw [visitAll, walkAll]
      exact .nothing _ _
  | node :: nodes => by
      have hNode := visit_refines_walk converter imports node
      rw [visitAll_cons, walkAll_cons]
      cases hVisit : (converter.visit imports node).result with
      | error error =>
          simp only [hVisit, (hNode.failed error).mp hVisit]
          exact ⟨congrArg (· :: nodes) hNode.left, hNode.imports, hNode.events, by simp, by simp⟩
      | ok summary =>
          obtain ⟨encounters, hWalk, hTally⟩ := hNode.counted hVisit
          simp only [hVisit, hWalk]
          rw [← hNode.imports]
          exact hNode.behind hTally (visitAll_refines_walkAll converter _ nodes)

end

/-- Whatever the imports are at first, a visit in two phases ends with the same nodes, imports and
events as a walk that converts every element at once, and with the same error if there is one. If
there is none, the summary has the numbers of images, of pictures and of sources in these pictures,
and its total is the number of candidates. -/
theorem visitAll_eq_walkAll (converter : Converter) (imports : Imports) (nodes : List Node) :
    let visit := converter.visitAll imports nodes
    let walk := converter.walkAll imports nodes
    visit.left = walk.left ∧ visit.imports = walk.imports ∧ visit.events = walk.events ∧
      (∀ error, visit.result = .error error ↔ walk.result = .error error) ∧
      ∀ summary, visit.result = .ok summary → ∃ encounters, walk.result = .ok encounters ∧
        summary.images = encounters.countP Encounter.isInPlace ∧
        summary.pictures = encounters.countP Encounter.isReplaced ∧
        summary.sources = (encounters.map Encounter.sources).sum ∧
        summary.total = encounters.countP fun encounter => converter.isCandidate encounter.tag := by
  have hWalk := visitAll_refines_walkAll converter imports nodes
  refine ⟨hWalk.left, hWalk.imports, hWalk.events, hWalk.failed, fun summary hSummary => ?_⟩
  obtain ⟨encounters, hEncounters, hTally⟩ := hWalk.counted hSummary
  exact ⟨encounters, hEncounters, hTally.images, hTally.pictures, hTally.sources, hTally.total⟩

end Converter

end ResponsiveImages
