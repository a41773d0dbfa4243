import ResponsiveImages.Proofs.Imports

/-! Imports that are kept together with an index. A request looks its path up in the index alone,
and a new path is written behind the others and into the index, one after the other. List and index
agree after any requests, so that an indexed request is given what a search through the list would
give. -/
namespace ResponsiveImages

/-- The imported paths in the order of their first request, and the place of each path. -/
structure IndexedImports where
  paths : List String
  places : Std.HashMap String Nat

namespace IndexedImports

def empty : IndexedImports := ⟨[], ∅⟩

/-- The import of a path: the one that the index knows, or a new one behind all others. -/
def request (imports : IndexedImports) (path : String) : ImportRef × IndexedImports :=
  match imports.places[path]? with
  | some index => (⟨index, path⟩, imports)
  | none =>
    let index := imports.paths.length
    (⟨index, path⟩, ⟨imports.paths ++ [path], imports.places.insert path index⟩)

/-- The imports after requests for several paths, one after the other. -/
def requestAll (imports : IndexedImports) (paths : List String) : IndexedImports :=
  paths.foldl (fun imports path => (imports.request path).2) imports

/-- The imports without the index. -/
def toImports (imports : IndexedImports) : Imports := ⟨imports.paths⟩

/-- The index has a path at a place exactly if the path stands there, and it is as large as the
list. -/
structure Agrees (imports : IndexedImports) : Prop where
  places_iff : ∀ (path : String) (place : Nat),
    imports.places[path]? = some place ↔ imports.paths[place]? = some path
  size_places : imports.places.size = imports.paths.length

theorem agrees_empty : empty.Agrees where
  places_iff path place := by simp [empty]
  size_places := by simp [empty]

variable {imports : IndexedImports}

/-- The index knows exactly the paths of the list. -/
theorem Agrees.places_eq_none_iff (h : imports.Agrees) (path : String) :
    imports.places[path]? = none ↔ path ∉ imports.paths := by
  rw [Option.eq_none_iff_forall_ne_some, List.mem_iff_getElem?, not_exists]
  exact forall_congr' fun place => not_congr (h.places_iff path place)

/-- A look-up comes to a search through the list. -/
theorem Agrees.places_eq (h : imports.Agrees) (path : String) :
    imports.places[path]? = imports.toImports.index? path := by
  cases hFound : imports.toImports.index? path with
  | none =>
      rw [h.places_eq_none_iff]
      exact List.idxOf?_eq_none_iff.mp hFound
  | some place =>
      obtain ⟨hBound, hPath, -⟩ := List.idxOf?_eq_some_iff.mp hFound
      rw [h.places_iff]
      exact List.getElem?_eq_some_iff.mpr ⟨hBound, hPath⟩

/-- With and without the index, a request is given the same reference and leaves the same paths. -/
theorem Agrees.request_eq (h : imports.Agrees) (path : String) :
    (imports.request path).1 = (imports.toImports.request path).1 ∧
    (imports.request path).2.toImports = (imports.toImports.request path).2 := by
  unfold request Imports.request
  rw [h.places_eq]
  cases imports.toImports.index? path <;> exact ⟨rfl, rfl⟩

theorem getElem?_append_singleton_iff (paths : List String) (new path : String) (place : Nat) :
    (paths ++ [new])[place]? = some path ↔
      paths[place]? = some path ∨ place = paths.length ∧ new = path := by
  rcases Nat.lt_trichotomy place paths.length with hIn | hLast | hBeyond
  · simp [List.getElem?_append_left hIn, Nat.ne_of_lt hIn]
  · simp [hLast]
  · have hAppended : (paths ++ [new])[place]? = none :=
      List.getElem?_eq_none (by rwa [List.length_append, List.length_singleton])
    simp [hAppended, Nat.le_of_lt hBeyond, Nat.ne_of_gt hBeyond]

/-- A path that the index does not know goes behind the others and into the index. It stands at the
place that the index has for it, and no other path moves. -/
theorem Agrees.insert (h : imports.Agrees) {path : String} (hNew : imports.places[path]? = none) :
    Agrees ⟨imports.paths ++ [path], imports.places.insert path imports.paths.length⟩ where
  places_iff other place := by
    rw [getElem?_append_singleton_iff, ← h.places_iff, Std.HashMap.getElem?_insert]
    by_cases hOther : path = other
    · subst hOther
      simp [hNew, eq_comm]
    · simp [hOther]
  size_places := by
    have hOutside : path ∉ imports.places := by
      simp [Std.HashMap.mem_iff_isSome_getElem?, hNew]
    rw [Std.HashMap.size_insert, if_neg hOutside, h.size_places, List.length_append,
      List.length_singleton]

/-- One request keeps list and index together. -/
theorem Agrees.request (h : imports.Agrees) (path : String) : (imports.request path).2.Agrees := by
  unfold IndexedImports.request
  cases hKnown : imports.places[path]? with
  | some index => exact h
  | none => exact h.insert hKnown

theorem Agrees.requestAll (h : imports.Agrees) (paths : List String) :
    (imports.requestAll paths).Agrees := by
  induction paths generalizing imports with
  | nil => exact h
  | cons path paths ih => exact ih (h.request path)

theorem Agrees.toImports_requestAll (h : imports.Agrees) (paths : List String) :
    (imports.requestAll paths).toImports = imports.toImports.requestAll paths := by
  induction paths generalizing imports with
  | nil => rfl
  | cons path paths ih =>
      have hRest := ih (h.request path)
      rwa [(h.request_eq path).2] at hRest

/-- The imports after the first ones of several requests. -/
def after (requests : List String) (count : Nat) : IndexedImports :=
  empty.requestAll (requests.take count)

/-- The reference that one of several requests is given. -/
def given (requests : List String) (place : Fin requests.length) : ImportRef :=
  ((after requests place).request requests[place]).1

variable (requests : List String)

theorem agrees_after (count : Nat) : (after requests count).Agrees :=
  agrees_empty.requestAll _

theorem toImports_after (count : Nat) :
    (after requests count).toImports = Imports.empty.requestAll (requests.take count) :=
  agrees_empty.toImports_requestAll _

/-- The reference does not depend on whether there is an index. -/
theorem given_eq (place : Fin requests.length) :
    given requests place =
      ((Imports.empty.requestAll (requests.take place)).request requests[place]).1 := by
  rw [given, ((agrees_after requests place).request_eq _).1, toImports_after]

@[simp] theorem path_given (place : Fin requests.length) :
    (given requests place).path = requests[place] := by
  rw [given_eq, Imports.path_request]

theorem extends_after {early late : Nat} (h : early ≤ late) :
    (after requests late).toImports.Extends (after requests early).toImports := by
  obtain ⟨between, hBetween⟩ := List.take_prefix_take_left (l := requests) h
  rw [toImports_after, toImports_after, ← hBetween, Imports.requestAll_append]
  exact Imports.extends_requestAll _ between

/-- From its request on, a reference stands at its place. -/
theorem holds_given (place : Fin requests.length) {count : Nat} (h : place < count) :
    (after requests count).toImports.Holds (given requests place) := by
  have hNext : (after requests (place + 1)).toImports =
      ((Imports.empty.requestAll (requests.take place)).request requests[place]).2 := by
    rw [toImports_after, List.take_succ_eq_append_getElem place.isLt, Imports.requestAll_append]
    rfl
  have hHolds : (after requests (place + 1)).toImports.Holds (given requests place) := by
    rw [hNext, given_eq]
    exact Imports.holds_request _ _
  exact hHolds.extend (extends_after requests h)

/-- The number of an import alone tells its path. Both requests are looked at in the end, when
either reference stands at its place and the index knows either path. -/
theorem index_given_eq_iff (first second : Fin requests.length) :
    (given requests first).index = (given requests second).index ↔
      requests[first] = requests[second] := by
  have hFirst := holds_given requests first first.isLt
  have hSecond := holds_given requests second second.isLt
  rw [Imports.Holds, path_given] at hFirst hSecond
  constructor
  · intro hIndex
    rw [hIndex, hSecond] at hFirst
    exact (Option.some.inj hFirst).symm
  · intro hPath
    have hAgrees := agrees_after requests requests.length
    have hPlace := (hAgrees.places_iff _ _).mpr hFirst
    rw [hPath, (hAgrees.places_iff _ _).mpr hSecond] at hPlace
    exact (Option.some.inj hPlace).symm

theorem given_eq_iff (first second : Fin requests.length) :
    given requests first = given requests second ↔ requests[first] = requests[second] := by
  constructor
  · intro hSame
    exact (index_given_eq_iff requests first second).mp (congrArg ImportRef.index hSame)
  · intro hPath
    have hIndex := (index_given_eq_iff requests first second).mpr hPath
    rw [← path_given, ← path_given] at hPath
    calc given requests first
        = ⟨(given requests first).index, (given requests first).path⟩ := rfl
      _ = ⟨(given requests second).index, (given requests second).path⟩ := by rw [hIndex, hPath]
      _ = given requests second := rfl

/-- What becomes of imports and references in the course of several requests, where nothing was
requested before. The states are numbered by how many requests were made. -/
structure Represents (requests : List String) (states : Nat → IndexedImports)
    (references : Fin requests.length → ImportRef) : Prop where
  nodup : ∀ count, (states count).paths.Nodup
  /-- The index has a path at a place exactly if the path stands there. -/
  places_iff : ∀ (count : Nat) (path : String) (place : Nat),
    (states count).places[path]? = some place ↔ (states count).paths[place]? = some path
  size_places : ∀ count, (states count).places.size = (states count).paths.length
  /-- A reference is for the requested path. -/
  path_eq : ∀ place, (references place).path = requests[place]
  /-- From the request on, the path stands at the place of the reference. -/
  stands : ∀ (place : Fin requests.length) (count : Nat), place < count →
    ∃ hBound : (references place).index < (states count).paths.length,
      (states count).paths[(references place).index] = requests[place]
  /-- Two requests are given the same reference exactly if they are for the same path. -/
  reference_eq_iff : ∀ first second,
    references first = references second ↔ requests[first] = requests[second]
  /-- The numbers alone tell as much. -/
  index_eq_iff : ∀ first second,
    (references first).index = (references second).index ↔ requests[first] = requests[second]
  /-- Earlier paths stay in front of later ones. -/
  grows : ∀ early late, early ≤ late → (states early).paths <+: (states late).paths
  /-- The paths are those requested so far, each one at its first request. -/
  paths_eq : ∀ count, (states count).paths = (requests.take count).eraseDups
  /-- There are the same paths and references without an index. -/
  toImports_eq : ∀ count,
    (states count).toImports = Imports.empty.requestAll (requests.take count)
  references_eq : ∀ place, references place =
    ((Imports.empty.requestAll (requests.take place)).request requests[place]).1

/-- Imports with an index represent whatever was requested. -/
theorem represents_requests : Represents requests (after requests) (given requests) where
  nodup count := by
    have hEmpty : Imports.empty.paths.Nodup := List.nodup_nil
    have hNodup := Imports.nodup_requestAll (requests.take count) hEmpty
    rwa [← toImports_after] at hNodup
  places_iff count := (agrees_after requests count).places_iff
  size_places count := (agrees_after requests count).size_places
  path_eq := path_given requests
  stands place count h := by
    have hHolds := holds_given requests place h
    rw [Imports.Holds, path_given] at hHolds
    exact List.getElem?_eq_some_iff.mp hHolds
  reference_eq_iff := given_eq_iff requests
  index_eq_iff := index_given_eq_iff requests
  grows _ _ h := extends_after requests h
  paths_eq count := by
    have hImports := congrArg Imports.paths (toImports_after requests count)
    rwa [Imports.paths_requestAll_empty] at hImports
  toImports_eq := toImports_after requests
  references_eq := given_eq requests

example : (List.ofFn (given ["a", "b", "a"])).map ImportRef.binding =
    ["_imports_0", "_imports_1", "_imports_0"] := by
  cbv

end IndexedImports

end ResponsiveImages
