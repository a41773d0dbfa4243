import ResponsiveImages.Conversion.Converter

/-!
The conversion of a whole tree, depth first and in the order of the text. The children of an element
are visited between its two phases. The first element that is refused ends the walk; what was
converted before it stays converted.
-/
namespace ResponsiveImages

open Markup (Element Node Span Tag)

/-- How much was converted. -/
structure Summary where
  /-- Elements that are still images. -/
  images : Nat
  /-- Elements that became pictures. -/
  pictures : Nat
  /-- Sources in all these pictures. -/
  sources : Nat
  deriving DecidableEq, Repr

namespace Summary

def zero : Summary := ⟨0, 0, 0⟩

def add (left right : Summary) : Summary :=
  ⟨left.images + right.images, left.pictures + right.pictures, left.sources + right.sources⟩

/-- What one element adds. -/
def ofOutcome : Outcome → Summary
  | .unchanged => zero
  | .inPlace => ⟨1, 0, 0⟩
  | .replaced sources => ⟨0, 1, sources⟩

def total (summary : Summary) : Nat := summary.images + summary.pictures

@[simp] theorem zero_add (summary : Summary) : zero.add summary = summary := by
  simp [add, zero]

theorem total_add (left right : Summary) : (left.add right).total = left.total + right.total := by
  simp only [total, add]
  omega

/-- Every element that is not left alone counts once. -/
theorem total_ofOutcome (outcome : Outcome) :
    (ofOutcome outcome).total = if outcome = .unchanged then 0 else 1 := by
  cases outcome <;> simp [ofOutcome, total, zero]

end Summary

/-- An element was refused. -/
inductive WalkError where
  /-- The element has this name and begins at this byte. -/
  | located (name : String) (position : Nat) (cause : ElementError)
  /-- It is not known where the element stands. -/
  | bare (cause : ElementError)
  deriving DecidableEq, Repr

namespace WalkError

def ofTag (tag : Tag) (cause : ElementError) : WalkError :=
  match tag.span with
  | some span => .located tag.name span.start cause
  | none => .bare cause

def cause : WalkError → ElementError
  | located _ _ cause => cause
  | bare cause => cause

def message : WalkError → String
  | located name position cause =>
    "<" ++ name ++ "> at byte " ++ toString position ++ ": " ++ cause.message
  | bare cause => cause.message

end WalkError

/-- A visit of one or several nodes. -/
abbrev Visit (β : Type) := Run WalkError Summary β

namespace Visit

/-- A visit that found nothing to do. -/
def nothing {β : Type} (left : β) (imports : Imports) : Visit β :=
  ⟨.ok .zero, left, imports, []⟩

/-- The visit with its remainder put to a new use. -/
def map {β γ : Type} (visit : Visit β) (use : β → γ) : Visit γ :=
  ⟨visit.result, use visit.left, visit.imports, visit.events⟩

/-- What came before the visit, added to it. -/
def after {β : Type} (visit : Visit β) (summary : Summary) (events : List Event) : Visit β :=
  ⟨visit.result.map summary.add, visit.left, visit.imports, events ++ visit.events⟩

@[simp] theorem after_zero {β : Type} (visit : Visit β) : visit.after .zero [] = visit := by
  obtain ⟨result, left, imports, events⟩ := visit
  cases result <;> simp [after, Except.map]

/-- A step that follows the visit if it ended well. -/
def next {β : Type} (visit : Visit β) (step : β → Imports → Visit β) : Visit β :=
  match visit.result with
  | .error _ => visit
  | .ok summary => (step visit.left visit.imports).after summary visit.events

end Visit

/-- The second phase, as the last part of a visit. -/
def Pending.visit (pending : Pending) (picture : Element) (imports : Imports) : Visit Element :=
  let (outcome, picture, imports) := pending.complete picture imports
  ⟨.ok (Summary.ofOutcome outcome), picture, imports, pending.events outcome⟩

namespace Converter

mutual

/-- A bound on the visits in a node. A candidate counts for more than the picture that may take its
place, in which there is no candidate. -/
def weight (converter : Converter) : Node → Nat
  | .text _ => 0
  | .verbatim _ => 0
  | .element tag children =>
    (if converter.isCandidate tag then 3 else 1) + converter.weightAll children

/-- A bound on the visits in several nodes. -/
def weightAll (converter : Converter) : List Node → Nat
  | [] => 0
  | node :: nodes => converter.weight node + 1 + converter.weightAll nodes

end

theorem weightAll_children_lt (converter : Converter) (tag : Tag) (children : List Node) :
    converter.weightAll children < converter.weight (.element tag children) := by
  rw [weight]
  split <;> omega

/-- The picture that takes the place of an image has less to visit in it than the image had. -/
theorem weightAll_skeleton_lt {converter : Converter} {tag : Tag} {children : List Node}
    {imports later : Imports} {skeleton : Element} {pending : Pending}
    (h : converter.stage ⟨tag, children⟩ imports = .ok (.picture skeleton pending, later)) :
    converter.weightAll skeleton.children < converter.weight (.element tag children) := by
  rcases stage_ok h with ⟨_, hStep, _⟩ | ⟨hCandidate, plan, image, _, hImage, hStep | hStep⟩
  · cases hStep
  · cases hStep
    simp only [Converter.skeleton, weight, weightAll, hCandidate, hImage, Bool.false_eq_true,
      reduceIte]
    omega
  · cases hStep

mutual

/-- A visit of one node and everything in it. The children that are visited are those that the
first phase leaves. -/
def visit (converter : Converter) (imports : Imports) (node : Node) : Visit Node :=
  match node with
  | .text content => Visit.nothing (.text content) imports
  | .verbatim content => Visit.nothing (.verbatim content) imports
  | .element tag children =>
    match _hStage : converter.stage ⟨tag, children⟩ imports with
    | .error cause =>
      ⟨.error (WalkError.ofTag tag cause), .element tag children, imports, []⟩
    | .ok (.unchanged, imports) =>
      (converter.visitAll imports children).map (.element tag)
    | .ok (.inPlace image path mode, imports) =>
      ((converter.visitAll imports children).map (.element image)).after
        (Summary.ofOutcome .inPlace) [.inPlace path mode]
    | .ok (.picture skeleton pending, imports) =>
      (((converter.visitAll imports skeleton.children).map (Element.mk skeleton.tag)).next
        pending.visit).map Element.toNode
termination_by converter.weight node
decreasing_by
  · exact converter.weightAll_children_lt tag children
  · exact converter.weightAll_children_lt tag children
  · exact weightAll_skeleton_lt _hStage

/-- A visit of several nodes, one after the other. -/
def visitAll (converter : Converter) (imports : Imports) (nodes : List Node) :
    Visit (List Node) :=
  match nodes with
  | [] => Visit.nothing [] imports
  | node :: nodes =>
    let first := converter.visit imports node
    match first.result with
    | .error error => ⟨.error error, first.left :: nodes, first.imports, first.events⟩
    | .ok summary =>
      ((converter.visitAll first.imports nodes).map (first.left :: ·)).after summary first.events
termination_by converter.weightAll nodes
decreasing_by
  · simp only [weightAll]
    omega
  · simp only [weightAll]
    omega

end

/-- The choices of a visit to an element. -/
theorem visit_element (converter : Converter) (imports : Imports) (tag : Tag)
    (children : List Node) :
    converter.visit imports (.element tag children) =
      match converter.stage ⟨tag, children⟩ imports with
      | .error cause =>
        ⟨.error (WalkError.ofTag tag cause), .element tag children, imports, []⟩
      | .ok (.unchanged, imports) =>
        (converter.visitAll imports children).map (.element tag)
      | .ok (.inPlace image path mode, imports) =>
        ((converter.visitAll imports children).map (.element image)).after
          (Summary.ofOutcome .inPlace) [.inPlace path mode]
      | .ok (.picture skeleton pending, imports) =>
        (((converter.visitAll imports skeleton.children).map (Element.mk skeleton.tag)).next
          pending.visit).map Element.toNode := by
  rw [visit]
  split <;> rename_i hStage <;> simp only [hStage]

theorem visitAll_nil (converter : Converter) (imports : Imports) :
    converter.visitAll imports [] = Visit.nothing [] imports := by
  rw [visitAll]

theorem visitAll_cons (converter : Converter) (imports : Imports) (node : Node)
    (nodes : List Node) :
    converter.visitAll imports (node :: nodes) =
      let first := converter.visit imports node
      match first.result with
      | .error error => ⟨.error error, first.left :: nodes, first.imports, first.events⟩
      | .ok summary =>
        ((converter.visitAll first.imports nodes).map (first.left :: ·)).after summary
          first.events := by
  rw [visitAll]

/-- An image that is no candidate, and has no children, is passed by. -/
theorem visitAll_image {converter : Converter} {image : Tag} (imports : Imports)
    (h : converter.isCandidate image = false) :
    converter.visitAll imports [.element image []] =
      Visit.nothing [.element image []] imports := by
  have hImage : converter.visit imports (.element image []) =
      Visit.nothing (.element image []) imports := by
    have hStage : converter.stage ⟨image, []⟩ imports = .ok (.unchanged, imports) :=
      stage_of_not_candidate imports h
    rw [visit_element]
    simp only [hStage, visitAll_nil]
    rfl
  rw [visitAll_cons]
  simp only [hImage, visitAll_nil]
  rfl

end Converter

end ResponsiveImages
