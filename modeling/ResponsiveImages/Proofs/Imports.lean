import Mathlib.Data.List.Induction
import ResponsiveImages.Imports

/-! Requests for imports. Imports only grow, so that a reference once given out stays good, and the
paths are those that were requested, each one at its first request. -/
namespace ResponsiveImages.Imports

/-- The imports after requests for several paths, one after the other. -/
def requestAll (imports : Imports) (paths : List String) : Imports :=
  paths.foldl (fun imports path => (imports.request path).2) imports

theorem requestAll_append (imports : Imports) (early late : List String) :
    imports.requestAll (early ++ late) = (imports.requestAll early).requestAll late :=
  List.foldl_append

/-- The reference stands at its place among the imports. -/
def Holds (imports : Imports) (reference : ImportRef) : Prop :=
  imports.paths[reference.index]? = some reference.path

/-- The later imports begin with all the earlier ones, at their places. -/
def Extends (later earlier : Imports) : Prop := earlier.paths <+: later.paths

theorem Extends.refl (imports : Imports) : imports.Extends imports := List.prefix_refl _

theorem Extends.trans {last later earlier : Imports} (hLast : last.Extends later)
    (hLater : later.Extends earlier) : last.Extends earlier :=
  List.IsPrefix.trans hLater hLast

theorem Holds.extend {later earlier : Imports} {reference : ImportRef}
    (h : earlier.Holds reference) (hLater : later.Extends earlier) : later.Holds reference := by
  obtain ⟨hBound, hPath⟩ := List.getElem?_eq_some_iff.mp h
  rw [Holds, ← hPath]
  exact List.prefix_iff_getElem?.mp hLater reference.index hBound

theorem paths_request (imports : Imports) (path : String) :
    (imports.request path).2.paths =
      if path ∈ imports.paths then imports.paths else imports.paths ++ [path] := by
  unfold request index?
  split
  · rename_i index hIndex
    obtain ⟨hBound, hPath, -⟩ := List.idxOf?_eq_some_iff.mp hIndex
    rw [if_pos (hPath ▸ List.getElem_mem hBound)]
  · rename_i hIndex
    rw [if_neg (List.idxOf?_eq_none_iff.mp hIndex)]

theorem extends_request (imports : Imports) (path : String) :
    (imports.request path).2.Extends imports := by
  rw [Extends, paths_request]
  split
  · exact List.prefix_refl _
  · exact List.prefix_append _ _

@[simp] theorem path_request (imports : Imports) (path : String) :
    (imports.request path).1.path = path := by
  unfold request
  split <;> rfl

theorem holds_request (imports : Imports) (path : String) :
    (imports.request path).2.Holds (imports.request path).1 := by
  unfold request index?
  split
  · rename_i index hIndex
    obtain ⟨hBound, hPath, -⟩ := List.idxOf?_eq_some_iff.mp hIndex
    exact List.getElem?_eq_some_iff.mpr ⟨hBound, hPath⟩
  · simp [Holds, size]

theorem eraseDups_append_singleton (paths : List String) (path : String) :
    (paths ++ [path]).eraseDups =
      if path ∈ paths then paths.eraseDups else paths.eraseDups ++ [path] := by
  rw [List.eraseDups_append]
  by_cases hKnown : path ∈ paths <;> simp [List.removeAll, hKnown, List.eraseDups_cons]

/-- What is repeated among the later requests can be left out at once. -/
theorem eraseDups_append_eraseDups (early late : List String) :
    (early ++ late.eraseDups).eraseDups = (early ++ late).eraseDups := by
  induction late using List.reverseRecOn with
  | nil => rfl
  | append_singleton late path ih =>
      rw [← List.append_assoc, eraseDups_append_singleton (early ++ late), eraseDups_append_singleton]
      by_cases hLate : path ∈ late
      · simp [hLate, ih]
      · rw [if_neg hLate, ← List.append_assoc, eraseDups_append_singleton, ih]
        simp

theorem eraseDups_eraseDups_append (early late : List String) :
    (early.eraseDups ++ late).eraseDups = (early ++ late).eraseDups := by
  have hEarly := eraseDups_append_eraseDups [] early
  rw [List.nil_append, List.nil_append] at hEarly
  simp [List.eraseDups_append, List.removeAll, hEarly]

/-- A further request adds its path unless it was among the earlier ones. -/
theorem paths_request_of_eraseDups {imports : Imports} {earlier : List String} (path : String)
    (h : imports.paths = earlier.eraseDups) :
    (imports.request path).2.paths = (earlier ++ [path]).eraseDups := by
  rw [paths_request, h, eraseDups_append_singleton]
  simp

theorem paths_requestAll_of_eraseDups {imports : Imports} {earlier : List String}
    (paths : List String) (h : imports.paths = earlier.eraseDups) :
    (imports.requestAll paths).paths = (earlier ++ paths).eraseDups := by
  induction paths generalizing imports earlier with
  | nil => simpa [requestAll] using h
  | cons path paths ih =>
      have hRest := ih (paths_request_of_eraseDups path h)
      rwa [List.append_assoc] at hRest

/-- The imports of a template are its requests without repetitions, in the order of the first
requests. -/
theorem paths_requestAll_empty (paths : List String) :
    (empty.requestAll paths).paths = paths.eraseDups := by
  have hEmpty : empty.paths = ([] : List String).eraseDups := rfl
  exact paths_requestAll_of_eraseDups paths hEmpty

theorem nodup_request {imports : Imports} (path : String) (h : imports.paths.Nodup) :
    (imports.request path).2.paths.Nodup := by
  rw [paths_request]
  split
  · exact h
  · rename_i hNew
    refine List.nodup_append.mpr ⟨h, by simp, fun known hKnown new hMem => ?_⟩
    rw [List.mem_singleton.mp hMem]
    exact fun hSame => hNew (hSame ▸ hKnown)

theorem nodup_requestAll {imports : Imports} (paths : List String) (h : imports.paths.Nodup) :
    (imports.requestAll paths).paths.Nodup := by
  induction paths generalizing imports with
  | nil => exact h
  | cons path paths ih => exact ih (nodup_request path h)

/-- The references that requests in a row are given. -/
def references (imports : Imports) : List String → List ImportRef
  | [] => []
  | path :: paths =>
    (imports.request path).1 :: (imports.request path).2.references paths

theorem references_append (imports : Imports) (early late : List String) :
    imports.references (early ++ late) =
      imports.references early ++ (imports.requestAll early).references late := by
  induction early generalizing imports with
  | nil => rfl
  | cons path paths ih => simp [references, ih, requestAll]

/-- Each reference is for its request. -/
theorem map_path_references (imports : Imports) (paths : List String) :
    (imports.references paths).map ImportRef.path = paths := by
  induction paths generalizing imports with
  | nil => rfl
  | cons path paths ih => simp [references, ih]

theorem extends_requestAll (imports : Imports) (paths : List String) :
    (imports.requestAll paths).Extends imports := by
  induction paths generalizing imports with
  | nil => exact Extends.refl imports
  | cons path paths ih => exact (ih _).trans (extends_request imports path)

/-- In the end every reference stands at its place. -/
theorem holds_references (imports : Imports) (paths : List String) :
    ∀ reference ∈ imports.references paths, (imports.requestAll paths).Holds reference := by
  induction paths generalizing imports with
  | nil => exact List.forall_mem_nil _
  | cons path paths ih =>
      refine List.forall_mem_cons.mpr ⟨?_, ih _⟩
      exact (holds_request imports path).extend (extends_requestAll _ paths)

end ResponsiveImages.Imports
