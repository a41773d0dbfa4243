import ResponsiveImages.Proofs.Conversion.InPlace
import ResponsiveImages.Proofs.Conversion.Idempotence
import ResponsiveImages.Proofs.Conversion.References

/-! What is left behind when an element is refused. Everything in front of the element is as it
would be if the walk had come to its end, so that no picture is without its sources, and nothing was
done to the element itself or to anything behind it. -/
namespace ResponsiveImages

open Markup (Element Node Tag elementsAll)

/-- A place in a tree, known by what is in front of it: nodes in the same list and, from the outside
in, the tag of each element that it is in, with the nodes in front of that element. -/
inductive Place where
  | here (before : List Node)
  | inside (before : List Node) (tag : Tag) (inner : Place)

namespace Place

/-- A tree with the nodes at the place. Behind each element that the place is in stand the nodes of
one list, from the outside in. -/
def fill (nodes : List Node) : Place → List (List Node) → List Node
  | here before, _ => before ++ nodes
  | inside before tag inner, behind =>
    before ++ .element tag (inner.fill nodes behind.tail) :: behind.headD []

/-- The same place with more nodes in front of it. -/
def after (early : List Node) : Place → Place
  | here before => here (early ++ before)
  | inside before tag inner => inside (early ++ before) tag inner

theorem fill_after (early nodes : List Node) (place : Place) (behind : List (List Node)) :
    (place.after early).fill nodes behind = early ++ place.fill nodes behind := by
  cases place <;> simp [after, fill]

end Place

namespace Converter

variable {converter : Converter}

/-- A walk comes to its end in the nodes. An element that stays in its place is converted, and then
its children are settled. A picture has all its sources at once. -/
inductive Settles (converter : Converter) : Imports → List Node → List Node → Imports → Prop
  | nil (imports : Imports) : Settles converter imports [] [] imports
  | text {imports last : Imports} {nodes left : List Node} (content : String)
      (hRest : Settles converter imports nodes left last) :
      Settles converter imports (.text content :: nodes) (.text content :: left) last
  | verbatim {imports last : Imports} {nodes left : List Node} (content : String)
      (hRest : Settles converter imports nodes left last) :
      Settles converter imports (.verbatim content :: nodes) (.verbatim content :: left) last
  | kept {imports second third last : Imports} {tag : Tag} {changed : Element}
      {children inner nodes left : List Node} {outcome : Outcome}
      (hBecomes : converter.Becomes imports ⟨tag, children⟩ outcome changed second)
      (hKept : outcome = .unchanged ∨ outcome = .inPlace)
      (hChildren : Settles converter second children inner third)
      (hRest : Settles converter third nodes left last) :
      Settles converter imports (.element tag children :: nodes)
        (.element changed.tag inner :: left) last
  | picture {imports second last : Imports} {tag : Tag} {picture : Element}
      {children nodes left : List Node} {sources : Nat}
      (hBecomes : converter.Becomes imports ⟨tag, children⟩ (.replaced sources) picture second)
      (hRest : Settles converter second nodes left last) :
      Settles converter imports (.element tag children :: nodes) (picture.toNode :: left) last

theorem Settles.append {imports later last : Imports} {early late left behind : List Node}
    (hEarly : converter.Settles imports early left later)
    (hLate : converter.Settles later late behind last) :
    converter.Settles imports (early ++ late) (left ++ behind) last := by
  induction hEarly with
  | nil => exact hLate
  | text content _ ih => exact .text content (ih hLate)
  | verbatim content _ ih => exact .verbatim content (ih hLate)
  | kept hBecomes hKept hChildren _ _ ih => exact .kept hBecomes hKept hChildren (ih hLate)
  | picture hBecomes _ ih => exact .picture hBecomes (ih hLate)

/-- Where there is no candidate everything is settled as it is. -/
theorem settles_of_no_candidates (imports : Imports) : ∀ nodes : List Node,
    (∀ element ∈ elementsAll nodes, converter.isCandidate element.tag = false) →
      converter.Settles imports nodes nodes imports
  | [], _ => .nil imports
  | .text content :: nodes, h => .text content (settles_of_no_candidates imports nodes h)
  | .verbatim content :: nodes, h => .verbatim content (settles_of_no_candidates imports nodes h)
  | .element tag children :: nodes, h => by
      obtain ⟨hElement, hNodes⟩ := List.forall_mem_append.mp h
      obtain ⟨hTag, hChildren⟩ := List.forall_mem_cons.mp hElement
      exact .kept (.same hTag) (Or.inl rfl) (settles_of_no_candidates imports children hChildren)
        (settles_of_no_candidates imports nodes hNodes)

/-- What is settled is what a walk leaves when it comes to its end. -/
theorem Settles.walkAll_eq {imports last : Imports} {nodes left : List Node}
    (h : converter.Settles imports nodes left last) :
    (∃ encounters, (converter.walkAll imports nodes).result = .ok encounters) ∧
      (converter.walkAll imports nodes).left = left ∧
      (converter.walkAll imports nodes).imports = last := by
  induction h with
  | nil imports => simp [walkAll_nil]
  | text content _ ih | verbatim content _ ih =>
      obtain ⟨⟨encounters, hResult⟩, rfl, rfl⟩ := ih
      rw [walkAll_cons, walk]
      simp [hResult, Except.map]
  | @kept imports second third last tag changed children inner nodes left outcome hBecomes hKept
      hChildren hRest ihChildren ihRest =>
      obtain ⟨hOutcome, hLeft, rfl⟩ := transform_of_becomes hBecomes
      obtain ⟨⟨below, hBelow⟩, rfl, rfl⟩ := ihChildren
      obtain ⟨⟨encounters, hResult⟩, rfl, rfl⟩ := ihRest
      have hSame := transform_children hOutcome hKept
      have hWalk : converter.walk imports (.element tag children) =
          (converter.walkAll (converter.transform ⟨tag, children⟩ imports).imports children).below
            ⟨tag, outcome, (converter.transform ⟨tag, children⟩ imports).left⟩
            (converter.transform ⟨tag, children⟩ imports).events := by
        rw [walk_element]
        rcases hKept with rfl | rfl <;> simp [hOutcome, hSame]
      rw [walkAll_cons, hWalk]
      simp [Walk.below, hBelow, hResult, hLeft, Except.map]
  | @picture imports second last tag picture children nodes left sources hBecomes hRest ih =>
      obtain ⟨hOutcome, rfl, rfl⟩ := transform_of_becomes hBecomes
      obtain ⟨⟨encounters, hResult⟩, rfl, rfl⟩ := ih
      rw [walkAll_cons, walk_element]
      simp [hOutcome, hResult, Except.map]

theorem Settles.visitAll_eq {imports last : Imports} {nodes left : List Node}
    (h : converter.Settles imports nodes left last) :
    (∃ summary, (converter.visitAll imports nodes).result = .ok summary) ∧
      (converter.visitAll imports nodes).left = left ∧
      (converter.visitAll imports nodes).imports = last := by
  have hWalk := visitAll_refines_walkAll converter imports nodes
  obtain ⟨⟨encounters, hResult⟩, hLeft, hImports⟩ := h.walkAll_eq
  refine ⟨?_, hWalk.left.trans hLeft, hWalk.imports.trans hImports⟩
  cases hVisit : (converter.visitAll imports nodes).result with
  | ok summary => exact ⟨summary, rfl⟩
  | error error =>
      rw [(hWalk.failed error).mp hVisit] at hResult
      cases hResult

/-- The imports are then those that were requested for the elements that the walk came to. -/
theorem Settles.imports_eq {imports last : Imports} {nodes left : List Node}
    (h : converter.Settles imports nodes left last) :
    last = imports.requestAll (converter.requestsAll (converter.metAll nodes)) := by
  obtain ⟨⟨encounters, hResult⟩, -, rfl⟩ := h.walkAll_eq
  exact (walkAll_performs imports nodes encounters hResult).converts.imports_eq

mutual

/-- A walk that ends well settles the node. -/
theorem settles_walk (imports : Imports) : ∀ (node : Node) (encounters : List Encounter),
    (converter.walk imports node).result = .ok encounters →
      converter.Settles imports [node] [(converter.walk imports node).left]
        (converter.walk imports node).imports
  | .text content, _, _ => by
      rw [walk]
      exact .text content (.nil imports)
  | .verbatim content, _, _ => by
      rw [walk]
      exact .verbatim content (.nil imports)
  | .element tag children, encounters, h => by
      rw [walk_element] at h ⊢
      cases hOutcome : (converter.transform ⟨tag, children⟩ imports).result with
      | error cause => simp [hOutcome] at h
      | ok outcome =>
          have hBecomes := transform_becomes hOutcome
          cases outcome with
          | replaced sources =>
              simp only [hOutcome]
              exact .picture hBecomes (.nil _)
          | unchanged | inPlace =>
              simp only [hOutcome, Walk.below, transform_children hOutcome (by simp)] at h ⊢
              obtain ⟨inner, hInner, -⟩ := map_eq_ok.mp h
              exact .kept hBecomes (by simp) (settles_walkAll _ children inner hInner) (.nil _)

theorem settles_walkAll (imports : Imports) :
    ∀ (nodes : List Node) (encounters : List Encounter),
    (converter.walkAll imports nodes).result = .ok encounters →
      converter.Settles imports nodes (converter.walkAll imports nodes).left
        (converter.walkAll imports nodes).imports
  | [], _, _ => by
      rw [walkAll_nil]
      exact .nil imports
  | node :: nodes, encounters, h => by
      rw [walkAll_cons] at h ⊢
      cases hFirst : (converter.walk imports node).result with
      | error error => simp [hFirst] at h
      | ok early =>
          simp only [hFirst] at h ⊢
          obtain ⟨late, hLate, -⟩ := map_eq_ok.mp h
          exact (settles_walk imports node early hFirst).append
            (settles_walkAll _ nodes late hLate)

end

/-- Everything in front of the place is settled. Of the elements that the place is in only the tags
are in front of it. -/
inductive Reaches (converter : Converter) : Imports → Place → Place → Imports → Prop
  | here {imports later : Imports} {before left : List Node}
      (hBefore : converter.Settles imports before left later) :
      Reaches converter imports (.here before) (.here left) later
  | inside {imports second third later : Imports} {before left : List Node} {tag changed : Tag}
      {inner done : Place} {outcome : Outcome}
      (hBefore : converter.Settles imports before left second)
      (hBecomes : ∀ children,
        converter.Becomes second ⟨tag, children⟩ outcome ⟨changed, children⟩ third)
      (hKept : outcome = .unchanged ∨ outcome = .inPlace)
      (hInner : Reaches converter third inner done later) :
      Reaches converter imports (.inside before tag inner) (.inside left changed done) later

theorem Reaches.after {imports second later : Imports} {early left : List Node}
    {place done : Place} (hEarly : converter.Settles imports early left second)
    (h : converter.Reaches second place done later) :
    converter.Reaches imports (place.after early) (done.after left) later := by
  cases h with
  | here hBefore => exact .here (hEarly.append hBefore)
  | inside hBefore hBecomes hKept hInner =>
      exact .inside (hEarly.append hBefore) hBecomes hKept hInner

/-- If there is no candidate from the place on, a walk comes to its end. -/
theorem Reaches.settles {imports later : Imports} {place done : Place}
    (h : converter.Reaches imports place done later) {nodes : List Node}
    (hNodes : ∀ element ∈ elementsAll nodes, converter.isCandidate element.tag = false)
    {behind : List (List Node)} (hBehind : ∀ nodes ∈ behind, ∀ element ∈ elementsAll nodes,
      converter.isCandidate element.tag = false) :
    converter.Settles imports (place.fill nodes behind) (done.fill nodes behind) later := by
  induction h generalizing behind with
  | here hBefore => exact hBefore.append (settles_of_no_candidates _ nodes hNodes)
  | inside hBefore hBecomes hKept hInner ih =>
      have hInside := ih fun nodes hMem => hBehind nodes (List.mem_of_mem_tail hMem)
      refine hBefore.append (.kept (hBecomes _) hKept hInside (settles_of_no_candidates _ _ ?_))
      cases behind with
      | nil => exact List.forall_mem_nil _
      | cons nodes behind => exact hBehind nodes List.mem_cons_self

/-- Conversion in place does not depend on the children. -/
theorem Becomes.children {imports later : Imports} {tag : Tag} {children : List Node}
    {outcome : Outcome} {changed : Element}
    (h : converter.Becomes imports ⟨tag, children⟩ outcome changed later)
    (hKept : outcome = .unchanged ∨ outcome = .inPlace) (other : List Node) :
    converter.Becomes imports ⟨tag, other⟩ outcome ⟨changed.tag, other⟩ later := by
  cases h with
  | same hCandidate => exact .same hCandidate
  | inPlace hCandidate hPlan hConvert hMode => exact .inPlace hCandidate hPlan hConvert hMode
  | picture => simp at hKept

/-- A walk ends with an error: everything in front of the element that was refused is settled, and
nothing was done to this element nor to anything behind it. -/
def Halts (converter : Converter) (imports : Imports) (nodes : List Node) (error : WalkError)
    (left : List Node) (later : Imports) : Prop :=
  ∃ (place done : Place) (culprit : Element) (after : List Node) (behind : List (List Node))
      (cause : ElementError),
    nodes = place.fill (culprit.toNode :: after) behind ∧
    left = done.fill (culprit.toNode :: after) behind ∧
    converter.Reaches imports place done later ∧
    converter.refusal? culprit.tag = some cause ∧ error = WalkError.ofTag culprit.tag cause

theorem Halts.behind {imports second later : Imports} {early late left rest : List Node}
    {error : WalkError} (hEarly : converter.Settles imports early left second)
    (h : converter.Halts second late error rest later) :
    converter.Halts imports (early ++ late) error (left ++ rest) later := by
  obtain ⟨place, done, culprit, after, behind, cause, rfl, rfl, hReaches, hRefusal⟩ := h
  exact ⟨place.after early, done.after left, culprit, after, behind, cause,
    (Place.fill_after _ _ _ _).symm, (Place.fill_after _ _ _ _).symm, hReaches.after hEarly,
    hRefusal⟩

mutual

/-- An error in a node, whatever nodes are behind it. -/
theorem walk_halts (imports : Imports) (error : WalkError) (nodes : List Node) : ∀ node : Node,
    (converter.walk imports node).result = .error error →
      converter.Halts imports (node :: nodes) error
        ((converter.walk imports node).left :: nodes) (converter.walk imports node).imports
  | .text content, h => by
      rw [walk] at h
      cases h
  | .verbatim content, h => by
      rw [walk] at h
      cases h
  | .element tag children, h => by
      rw [walk_element] at h ⊢
      cases hOutcome : (converter.transform ⟨tag, children⟩ imports).result with
      | error cause =>
          obtain ⟨hLeft, hImports⟩ := transform_of_error hOutcome
          simp only [hOutcome, Except.error.injEq] at h ⊢
          rw [hLeft, hImports]
          exact ⟨.here [], .here [], ⟨tag, children⟩, nodes, [], cause, rfl, rfl, .here (.nil _),
            transform_error_iff.mp hOutcome, h.symm⟩
      | ok outcome =>
          have hBecomes := transform_becomes hOutcome
          cases outcome with
          | replaced sources => simp [hOutcome] at h
          | unchanged | inPlace =>
              simp only [hOutcome, Walk.below, transform_children hOutcome (by simp),
                map_eq_error] at h ⊢
              obtain ⟨place, done, culprit, after, behind, cause, hNodes, hLeft, hReaches,
                hRefusal⟩ := walkAll_halts _ error children h
              rw [hLeft]
              exact ⟨.inside [] tag place, .inside [] _ done, culprit, after, nodes :: behind,
                cause, by rw [hNodes]; rfl, rfl,
                .inside (.nil _) (hBecomes.children (by simp)) (by simp) hReaches, hRefusal⟩

theorem walkAll_halts (imports : Imports) (error : WalkError) : ∀ nodes : List Node,
    (converter.walkAll imports nodes).result = .error error →
      converter.Halts imports nodes error (converter.walkAll imports nodes).left
        (converter.walkAll imports nodes).imports
  | [], h => by
      rw [walkAll_nil] at h
      cases h
  | node :: nodes, h => by
      rw [walkAll_cons] at h ⊢
      cases hFirst : (converter.walk imports node).result with
      | error early =>
          simp only [hFirst, Except.error.injEq] at h ⊢
          exact walk_halts imports error nodes node (h ▸ hFirst)
      | ok early =>
          simp only [hFirst, map_eq_error] at h ⊢
          exact (walkAll_halts _ error nodes h).behind (settles_walk imports node early hFirst)

end

/-- What a visit leaves behind that ends at the culprit. Behind the culprit stand the nodes of its
own list, and those behind the elements that it is in. -/
structure Interrupted (converter : Converter) (imports : Imports) (nodes : List Node)
    (error : WalkError) (place done : Place) (culprit : Element) (after : List Node)
    (behind : List (List Node)) : Prop where
  nodes_eq : nodes = place.fill (culprit.toNode :: after) behind
  /-- The culprit and all nodes behind it are as they were. -/
  left_eq : (converter.visitAll imports nodes).left = done.fill (culprit.toNode :: after) behind
  isCandidate : converter.isCandidate culprit.tag = true
  refused : ∃ cause, converter.refusal? culprit.tag = some cause ∧
    error = WalkError.ofTag culprit.tag cause
  /-- No element in front of the culprit is refused. -/
  first : ∀ element ∈ converter.metAll (place.fill [] []), converter.refusal? element.tag = none
  /-- Each picture in front of the culprit has its sources, since it could not be settled without
  them. -/
  settles : converter.Settles imports (place.fill [] []) (done.fill [] [])
    (converter.visitAll imports nodes).imports
  imports_eq : (converter.visitAll imports nodes).imports =
    imports.requestAll (converter.requestsAll (converter.metAll (place.fill [] [])))
  /-- With no candidate from the place on, the visit ends well and leaves the same in front of it. -/
  others : ∀ (nodes' : List Node) (behind' : List (List Node)),
    (∀ element ∈ elementsAll nodes', converter.isCandidate element.tag = false) →
    (∀ nodes ∈ behind', ∀ element ∈ elementsAll nodes,
      converter.isCandidate element.tag = false) →
    let visit := converter.visitAll imports (place.fill nodes' behind')
    (∃ summary, visit.result = .ok summary) ∧ visit.left = done.fill nodes' behind' ∧
      visit.imports = (converter.visitAll imports nodes).imports

theorem isCandidate_of_refusal? {tag : Tag} {cause : ElementError}
    (h : converter.refusal? tag = some cause) : converter.isCandidate tag = true := by
  cases hCandidate : converter.isCandidate tag with
  | true => rfl
  | false => simp [refusal?, hCandidate] at h

theorem Halts.interrupted {imports : Imports} {nodes : List Node} {error : WalkError}
    (h : converter.Halts imports nodes error (converter.visitAll imports nodes).left
      (converter.visitAll imports nodes).imports) :
    ∃ place done culprit after behind,
      converter.Interrupted imports nodes error place done culprit after behind := by
  obtain ⟨place, done, culprit, after, behind, cause, hNodes, hLeft, hReaches, hRefusal, hError⟩ := h
  have hFront : converter.Settles imports (place.fill [] []) (done.fill [] [])
      (converter.visitAll imports nodes).imports :=
    hReaches.settles (List.forall_mem_nil _) (List.forall_mem_nil _)
  exact ⟨place, done, culprit, after, behind, {
    nodes_eq := hNodes
    left_eq := hLeft
    isCandidate := isCandidate_of_refusal? hRefusal
    refused := ⟨cause, hRefusal, hError⟩
    first := (visitAll_ok_iff imports _).mp hFront.visitAll_eq.1
    settles := hFront
    imports_eq := hFront.imports_eq
    others := fun _ _ hNodes' hBehind' => (hReaches.settles hNodes' hBehind').visitAll_eq }⟩

/-- If the first phase or both phases of an element fail, the element and the imports are as they
were. If the visit of a tree fails, then at a first candidate that is refused. What is in front of
it was converted as far as if this candidate and all that is behind it had been none, with the
imports of these conversions and no others, and nothing was done to the candidate and to what is
behind it. -/
theorem visitAll_interrupted (converter : Converter) :
    (∀ element imports cause,
      (converter.stageInPlace.runOn ⟨element, imports⟩).1 = .error cause →
        converter.stage element imports = .error cause ∧
        (converter.stageInPlace.runOn ⟨element, imports⟩).2 = ⟨element, imports⟩) ∧
    (∀ element imports cause,
      (converter.transformInPlace.runOn ⟨element, imports⟩).1 = .error cause →
        converter.transform element imports = ⟨.error cause, element, imports, []⟩ ∧
        (converter.transformInPlace.runOn ⟨element, imports⟩).2 = ⟨element, imports⟩) ∧
    ∀ imports nodes error, (converter.visitAll imports nodes).result = .error error →
      ∃ place done culprit after behind,
        converter.Interrupted imports nodes error place done culprit after behind := by
  refine ⟨fun element imports cause h => ?_, fun element imports cause h => ?_,
    fun imports nodes error h => ?_⟩
  · exact ⟨stage_of_runOn_error h, runOn_stageInPlace_of_error h⟩
  · refine ⟨?_, runOn_transformInPlace_of_error h⟩
    rw [runOn_transformInPlace] at h
    rw [transform, transform_error_iff_stage.mp h]
  · have hWalk := visitAll_refines_walkAll converter imports nodes
    have hHalts := walkAll_halts imports error nodes ((hWalk.failed error).mp h)
    rw [← hWalk.left, ← hWalk.imports] at hHalts
    exact hHalts.interrupted

/-- A picture and an image that is converted in its place, then in the same paragraph an image
without a source. Another one is behind the paragraph. -/
theorem visitAll_interrupted_nested :
    let converter := Converter.ofConfig Config.empty
    let image (source directive : String) : Node := .element
      ⟨"img", [⟨"src", .text source, none⟩, ⟨"modernize", .text directive, none⟩], .void, none,
        none⟩ []
    let culprit : Element :=
      ⟨⟨"IMG", [⟨"modernize", .text "", none⟩], .endTag, some ⟨17, 35⟩, none⟩, [image "c.png" ""]⟩
    let nodes : List Node :=
      [.element (Tag.named "p") [image "a.png" "", .text "-", image "b.png" "onlyUseImg",
        culprit.toNode, image "d.png" ""], image "" ""]
    let error : WalkError := .located "IMG" 17 .missingSource
    ((converter.stageInPlace.runOn ⟨culprit, Imports.empty⟩).1 = .error .missingSource ∧
      (converter.stageInPlace.runOn ⟨culprit, Imports.empty⟩).2 = ⟨culprit, Imports.empty⟩) ∧
    ((converter.transformInPlace.runOn ⟨culprit, Imports.empty⟩).1 = .error .missingSource ∧
      (converter.transformInPlace.runOn ⟨culprit, Imports.empty⟩).2 = ⟨culprit, Imports.empty⟩) ∧
    (converter.visitAll Imports.empty nodes).result = .error error ∧
      (converter.visitAll Imports.empty nodes).imports.size = 5 ∧
      ∃ place done culprit after behind,
        converter.Interrupted Imports.empty nodes error place done culprit after behind := by
  intro converter image culprit nodes error
  obtain ⟨hStage, hTransform, hVisit⟩ := visitAll_interrupted converter
  have hStaged : (converter.stageInPlace.runOn ⟨culprit, Imports.empty⟩).1 =
      .error .missingSource := error?_eq_some_iff.mp (by decide +kernel)
  have hTransformed : (converter.transformInPlace.runOn ⟨culprit, Imports.empty⟩).1 =
      .error .missingSource := error?_eq_some_iff.mp (by decide +kernel)
  have hVisited : (converter.visitAll Imports.empty nodes).result = .error error :=
    error?_eq_some_iff.mp (by decide +kernel)
  exact ⟨⟨hStaged, (hStage _ _ _ hStaged).2⟩, ⟨hTransformed, (hTransform _ _ _ hTransformed).2⟩,
    hVisited, by decide +kernel, hVisit _ _ _ hVisited⟩

end Converter

end ResponsiveImages
