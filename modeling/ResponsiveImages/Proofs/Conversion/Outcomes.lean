import ResponsiveImages.Proofs.Conversion.References

/-! What becomes of an element, and what a summary adds up to. Both can be told from the tags alone:
the imports have no say in it. -/
namespace ResponsiveImages

open Markup (Element Node Tag)

namespace Pending

/-- There is one source for each format that gets one. -/
theorem length_sourcesFrom {pending : Pending} {seen : List (Option String)} {imports : Imports}
    (formats : List SourceFormat) :
    (pending.sourcesFrom seen imports formats).1.length =
      (pending.distinctFrom seen formats).length := by
  induction formats generalizing seen imports with
  | nil => rfl
  | cons entry entries ih =>
      cases hSeen : seen.contains (pending.mediaType? entry) with
      | true =>
          simp only [sourcesFrom, hSeen, reduceIte, distinctFrom_cons_of_seen entries hSeen]
          exact ih
      | false =>
          simp only [sourcesFrom, hSeen, Bool.false_eq_true, reduceIte,
            distinctFrom_cons_of_new entries hSeen, List.length_cons, ih]

end Pending

namespace Plan

/-- What becomes of an image that is converted as planned. -/
def outcome (plan : Plan) : Outcome :=
  if plan.settings.mode = .picture then .replaced plan.distinctFormats.length else .inPlace

end Plan

namespace Converter

variable {converter : Converter}

/-- What becomes of an element with this tag, unless it is refused. -/
def outcome (converter : Converter) (tag : Tag) : Outcome :=
  if converter.isCandidate tag then (converter.plan? tag).elim .unchanged Plan.outcome
  else .unchanged

theorem Becomes.outcome_eq {imports later : Imports} {element left : Element} {outcome : Outcome}
    (h : converter.Becomes imports element outcome left later) :
    outcome = converter.outcome element.tag := by
  cases h with
  | same hCandidate => simp [Converter.outcome, hCandidate]
  | inPlace hCandidate hPlan _ hMode =>
      simp [Converter.outcome, hCandidate, hPlan, Plan.outcome, hMode]
  | @picture plan image later last sources hCandidate hPlan _ hMode hSources =>
      have hLength := @Pending.length_sourcesFrom (converter.pending plan image) [] later
        plan.settings.imageFormats
      have hAdded : ((converter.pending plan image).sourcesFrom [] later
          plan.settings.imageFormats).1 = sources := congrArg Prod.fst hSources
      rw [distinctFrom_pending, hAdded] at hLength
      simp [Converter.outcome, hCandidate, hPlan, Plan.outcome, hMode, hLength]

theorem Becomes.tallies {imports later : Imports} {element left : Element} {outcome : Outcome}
    (h : converter.Becomes imports element outcome left later) :
    Tallies converter (Summary.ofOutcome outcome) [⟨element.tag, outcome, left⟩] := by
  cases h with
  | same hCandidate =>
      exact .single converter ⟨element.tag, .unchanged, element⟩ hCandidate (by simp)
  | @inPlace plan image later hCandidate hPlan hConvert hMode =>
      exact .single converter ⟨element.tag, .inPlace, ⟨image, element.children⟩⟩ hCandidate (by simp)
  | @picture plan image later last sources hCandidate hPlan hConvert hMode hSources =>
      have hNamed := ((converter.isCandidate_iff element.tag).mp hCandidate).1
      have hCount := sources_picture (converter.pending plan image) hNamed hConvert
      rw [hSources] at hCount
      refine .single converter ⟨element.tag, .replaced sources.length, Converter.picture image sources⟩
        hCandidate fun count hOutcome => ?_
      exact hCount.trans (Outcome.replaced.inj hOutcome)

/-- What elements with these tags add to a summary. -/
def summarize (converter : Converter) (tags : List Tag) : Summary :=
  tags.foldr (fun tag => (Summary.ofOutcome (converter.outcome tag)).add) .zero

theorem summarize_append (early late : List Tag) :
    converter.summarize (early ++ late) =
      (converter.summarize early).add (converter.summarize late) := by
  induction early with
  | nil => simp [summarize]
  | cons tag tags ih =>
      simp only [summarize, List.cons_append, List.foldr_cons] at ih ⊢
      rw [ih]
      simp [Summary.add, Nat.add_assoc]

/-- Only candidates count. -/
theorem summarize_filter (tags : List Tag) :
    converter.summarize (tags.filter converter.isCandidate) = converter.summarize tags := by
  induction tags with
  | nil => rfl
  | cons tag tags ih =>
      cases hCandidate : converter.isCandidate tag <;>
        simp_all [summarize, outcome, Summary.ofOutcome]

theorem Converts.tallies {imports last : Imports} {elements : List Element}
    {encounters : List Encounter} (h : converter.Converts imports elements encounters last) :
    Tallies converter (converter.summarize (elements.map Element.tag)) encounters := by
  induction h with
  | nil => exact .nil
  | cons hBecomes _ ih =>
      have hFirst := hBecomes.tallies
      rw [hBecomes.outcome_eq] at hFirst
      exact hBecomes.outcome_eq ▸ hFirst.append ih

end Converter

theorem Tallies.unique {converter : Converter} {first second : Summary}
    {encounters : List Encounter} (hFirst : Tallies converter first encounters)
    (hSecond : Tallies converter second encounters) : first = second := by
  rcases first with ⟨images, pictures, sources⟩
  rcases second with ⟨images', pictures', sources'⟩
  rw [Summary.mk.injEq]
  exact ⟨hFirst.images.trans hSecond.images.symm, hFirst.pictures.trans hSecond.pictures.symm,
    hFirst.sources.trans hSecond.sources.symm⟩

/-- The summary of a visit that ends well adds up what becomes of the elements it came to. -/
theorem Converter.visitAll_summary {converter : Converter} {imports : Imports} {nodes : List Node}
    {summary : Summary} (h : (converter.visitAll imports nodes).result = .ok summary) :
    summary = converter.summarize ((converter.metAll nodes).map Element.tag) := by
  obtain ⟨encounters, hEncounters, hTallies⟩ :=
    (visitAll_refines_walkAll converter imports nodes).counted h
  exact hTallies.unique (walkAll_performs imports nodes encounters hEncounters).converts.tallies

end ResponsiveImages
