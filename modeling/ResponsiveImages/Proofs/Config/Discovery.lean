import ResponsiveImages.Proofs.Config.Fields
import ResponsiveImages.Proofs.Path

/-! Where the configuration of a template is found. The search goes through the directory of the
template and those above it, and nothing behind the first file of the usual name counts. -/
namespace ResponsiveImages

namespace FileSystem

/-- A file of that content stands at the path. -/
def HoldsFile (files : FileSystem) (path : String) (content : ByteArray) : Prop :=
  files.entry? path = some (.file content)

theorem isFile_iff {files : FileSystem} {path : String} :
    files.isFile path = true ↔ ∃ content, files.HoldsFile path content := by
  unfold isFile HoldsFile
  split
  · rename_i content hEntry
    simp [hEntry]
  · rename_i hOther
    simpa using fun content => hOther content

theorem isFile_eq_false_iff {files : FileSystem} {path : String} :
    files.isFile path = false ↔ ∀ content, ¬ files.HoldsFile path content := by
  rw [← Bool.not_eq_true, isFile_iff, not_exists]

/-- Whatever stands at a path is a file or a directory. -/
theorem isFile_of_exists {files : FileSystem} {path : String} (hExists : files.exists? path = true)
    (hNot : files.entry? path ≠ some .directory) : files.isFile path = true := by
  obtain ⟨entry, hEntry⟩ := Option.isSome_iff_exists.mp hExists
  cases entry with
  | directory => exact absurd hEntry hNot
  | file content => exact isFile_iff.mpr ⟨content, hEntry⟩

theorem HoldsFile.readText? {files : FileSystem} {path : String} {content : ByteArray}
    (h : files.HoldsFile path content) : files.readText? path = String.fromUTF8? content := by
  rw [FileSystem.readText?, h]

end FileSystem

namespace Config

open FileSystem (HoldsFile)

/-- The configuration in a file depends on nothing but what is in the file. -/
theorem value_load {files : FileSystem} {path : String} {content : ByteArray}
    (h : files.HoldsFile path content) :
    (load files path).value =
      match String.fromUTF8? content with
      | some text => (ofText text).value
      | none => .error (.unreadable path) := by
  rw [load, h.readText?]
  cases String.fromUTF8? content with
  | none => rfl
  | some text =>
      dsimp only [ofText]
      cases read text <;> rfl

/-- A text can be refused for many reasons, but not for being unreadable. -/
theorem value_ofText_ne_unreadable (text path : String) :
    (ofText text).value ≠ .error (.unreadable path) := by
  cases hText : Toml.parse text with
  | none => simp [ofText, read, hText]
  | some entries =>
      rw [ofText_of_parse hText]
      intro hError
      rcases accept_eq_error_iff.mp hError with ⟨_, -, hCause⟩ | ⟨_, _, -, -, hCause⟩
      · cases hCause
      · cases hCause

/-- Two file systems with the same entry at a path have the same configuration there. -/
theorem load_congr {files others : FileSystem} {path : String}
    (h : files.entry? path = others.entry? path) : load files path = load others path := by
  rw [load, load, FileSystem.readText?, FileSystem.readText?, h]

/-- The places at which a configuration is looked for, nearest first. -/
def places (start : String) : List String :=
  (Path.ancestors start).map (Path.join · fileName)

/-- Each place is told by the way to a directory above the start and the usual name. -/
theorem steps_places (start : String) :
    (places start).map Path.steps =
      ((Path.steps start).inits.reverse ++
        if Path.anchor start = "." then [[]] else []).map (· ++ ["modernize.toml"]) := by
  have hName : Path.steps fileName = ["modernize.toml"] := by decide
  rw [← Path.steps_ancestors, places, List.map_map, List.map_map]
  refine List.map_congr_left fun directory _ => ?_
  rw [Function.comp_apply, Path.steps_join directory (by decide), hName, Function.comp_apply]

theorem isAbsolute_of_mem_places {start place : String} (h : place ∈ places start) :
    Path.isAbsolute place = Path.isAbsolute start := by
  obtain ⟨directory, hDirectory, rfl⟩ := List.mem_map.mp h
  rw [Path.isAbsolute_join directory (by decide), Path.isAbsolute_of_mem_ancestors hDirectory]

theorem find?_fileName (files : FileSystem) (start : String) :
    find? files start fileName = (places start).find? files.isFile :=
  if_neg (by decide)

/-- A file of that content stands at the place, and none at the places that are nearer. There may be
directories. -/
def IsNearest (files : FileSystem) (start path : String) (content : ByteArray) : Prop :=
  ∃ nearer farther, places start = nearer ++ path :: farther ∧
    (∀ place ∈ nearer, ∀ other, ¬ files.HoldsFile place other) ∧ files.HoldsFile path content

theorem find?_of_isNearest {files : FileSystem} {start path : String} {content : ByteArray}
    (h : IsNearest files start path content) : find? files start fileName = some path := by
  obtain ⟨nearer, farther, hPlaces, hNearer, hFile⟩ := h
  rw [find?_fileName, List.find?_eq_some_iff_append]
  refine ⟨FileSystem.isFile_iff.mpr ⟨content, hFile⟩, nearer, farther, hPlaces, ?_⟩
  intro place hPlace
  rw [FileSystem.isFile_eq_false_iff.mpr (hNearer place hPlace), Bool.not_false]

theorem find?_of_no_file {files : FileSystem} {start : String}
    (h : ∀ place ∈ places start, ∀ content, ¬ files.HoldsFile place content) :
    find? files start fileName = none := by
  rw [find?_fileName, List.find?_eq_none]
  intro place hPlace
  rw [FileSystem.isFile_eq_false_iff.mpr (h place hPlace)]
  exact Bool.false_ne_true

theorem discover_of_isNearest {files : FileSystem} {start path : String} {content : ByteArray}
    (h : IsNearest files start path content) : discover files start = load files path := by
  rw [discover, find?_of_isNearest h]

theorem discover_of_no_file {files : FileSystem} {start : String}
    (h : ∀ place ∈ places start, ∀ content, ¬ files.HoldsFile place content) :
    discover files start = ⟨.ok empty, []⟩ := by
  rw [discover, find?_of_no_file h]

/-- A file is found, or there is none at any place. -/
theorem exists_isNearest_or (files : FileSystem) (start : String) :
    (∃ path content, IsNearest files start path content) ∨
      ∀ place ∈ places start, ∀ content, ¬ files.HoldsFile place content := by
  cases hFound : (places start).find? files.isFile with
  | none =>
      rw [List.find?_eq_none] at hFound
      exact Or.inr fun place hPlace =>
        FileSystem.isFile_eq_false_iff.mp (by simpa using hFound place hPlace)
  | some path =>
      obtain ⟨hFile, nearer, farther, hPlaces, hNearer⟩ :=
        List.find?_eq_some_iff_append.mp hFound
      obtain ⟨content, hContent⟩ := FileSystem.isFile_iff.mp hFile
      refine Or.inl ⟨path, content, nearer, farther, hPlaces, fun place hPlace => ?_, hContent⟩
      exact FileSystem.isFile_eq_false_iff.mp (by simpa using hNearer place hPlace)

/-- The places up to the first with a file, that one included. -/
def searched (files : FileSystem) : List String → List String
  | [] => []
  | place :: farther => place :: if files.isFile place then [] else searched files farther

/-- Two file systems agree on where files stand, up to the first place with one, and on what is in
that one. -/
def Agree (files others : FileSystem) (start : String) : Prop :=
  ∀ place ∈ searched files (places start),
    files.isFile place = others.isFile place ∧
      (files.isFile place = true → files.entry? place = others.entry? place)

/-- A search depends on nothing behind the first place with a file. -/
theorem find?_isFile_congr {files others : FileSystem} {candidates : List String}
    (h : ∀ place ∈ searched files candidates, files.isFile place = others.isFile place) :
    candidates.find? files.isFile = candidates.find? others.isFile := by
  induction candidates with
  | nil => rfl
  | cons place farther ih =>
      rw [searched, List.forall_mem_cons] at h
      obtain ⟨hPlace, hFarther⟩ := h
      rw [List.find?_cons, List.find?_cons, ← hPlace]
      cases hFile : files.isFile place with
      | true => rfl
      | false =>
          rw [hFile, if_neg Bool.false_ne_true] at hFarther
          exact ih hFarther

theorem mem_searched_of_find? {files : FileSystem} {candidates : List String} {path : String}
    (h : candidates.find? files.isFile = some path) : path ∈ searched files candidates := by
  induction candidates with
  | nil => cases h
  | cons place farther ih =>
      rw [searched, List.mem_cons]
      rw [List.find?_cons] at h
      cases hFile : files.isFile place with
      | true =>
          rw [hFile] at h
          exact Or.inl (Option.some.inj h).symm
      | false =>
          rw [hFile] at h
          rw [if_neg Bool.false_ne_true]
          exact Or.inr (ih h)

theorem Agree.discover {files others : FileSystem} {start : String} (h : Agree files others start) :
    discover files start = discover others start := by
  have hSame : Config.find? files start fileName = Config.find? others start fileName := by
    rw [find?_fileName, find?_fileName]
    exact find?_isFile_congr fun place hPlace => (h place hPlace).1
  rw [Config.discover, Config.discover, ← hSame]
  cases hFound : Config.find? files start fileName with
  | none => rfl
  | some path =>
      rw [find?_fileName] at hFound
      exact load_congr ((h path (mem_searched_of_find? hFound)).2 (List.find?_some hFound))

/-- The file system without what stands at a path. -/
def without (files : FileSystem) (path : String) : FileSystem :=
  ⟨fun other => if other = path then none else files.entry? other⟩

/-- A directory of the usual name is no different from nothing. -/
theorem agree_without {files : FileSystem} {path : String}
    (h : files.entry? path = some .directory) (start : String) :
    Agree files (without files path) start := by
  intro place _
  by_cases hPlace : place = path
  · subst hPlace
    have hNoFile : files.isFile place = false := by rw [FileSystem.isFile, h]
    rw [hNoFile]
    exact ⟨by simp [FileSystem.isFile, without], fun hFile => absurd hFile Bool.false_ne_true⟩
  · have hEntry : files.entry? place = FileSystem.entry? (without files path) place :=
      (if_neg hPlace).symm
    exact ⟨by rw [FileSystem.isFile, FileSystem.isFile, hEntry], fun _ => hEntry⟩

/-- The usual name is looked for in the directory and in those above it, nearest first. Of two file
systems that agree up to the nearest file of that name the same is said: the configuration is that of
this file, whether or not it can be had, so that a file that gives none is not passed over. Without
such a file nothing is decided. Directories of that name are passed over. -/
theorem discover_nearest (start : String) :
    (places start).map Path.steps =
      ((Path.steps start).inits.reverse ++
        if Path.anchor start = "." then [[]] else []).map (· ++ ["modernize.toml"]) ∧
    (∀ place ∈ places start, Path.isAbsolute place = Path.isAbsolute start) ∧
    (∀ files others, Agree files others start → discover files start = discover others start) ∧
    (∀ files, (∃ path content, IsNearest files start path content) ∨
      ∀ place ∈ places start, ∀ content, ¬ files.HoldsFile place content) ∧
    (∀ files path content, IsNearest files start path content →
      discover files start = load files path ∧
      (discover files start).value =
        match String.fromUTF8? content with
        | some text => (ofText text).value
        | none => .error (.unreadable path)) ∧
    (∀ files, (∀ place ∈ places start, ∀ content, ¬ files.HoldsFile place content) →
      discover files start = ⟨.ok empty, []⟩) ∧
    ∀ files path, files.entry? path = some .directory →
      discover (without files path) start = discover files start := by
  refine ⟨steps_places start, fun place => isAbsolute_of_mem_places,
    fun files others hAgree => hAgree.discover, fun files => exists_isNearest_or files start,
    fun files path content hNearest => ?_, fun files hNone => discover_of_no_file hNone,
    fun files path hDirectory => (agree_without hDirectory start).discover.symm⟩
  have hLoad := discover_of_isNearest hNearest
  obtain ⟨-, -, -, -, hFile⟩ := hNearest
  exact ⟨hLoad, hLoad ▸ value_load hFile⟩

/-- A directory of the usual name beside a template, a file above it with a text that is no document,
and further files. -/
def nested (farther : List (List String × ByteArray)) : FileSystem :=
  .ofListing ⟨[["modernize.toml", "b", "a"], ["b", "a"], ["a"]],
    (["modernize.toml", "a"], "quality".toUTF8) :: farther⟩

/-- The directory is passed over, and the file that gives no configuration is not, whatever is behind
it. -/
theorem discover_nearest_nested :
    let files := nested []
    let others := nested [(["modernize.toml"], "noLazy = true".toUTF8)]
    let start := "a//b/."
    places start = ["a//b/./modernize.toml", "a/modernize.toml", "modernize.toml"] ∧
      Agree others files start ∧ IsNearest others start "a/modernize.toml" "quality".toUTF8 ∧
      others.entry? "a//b/./modernize.toml" = some .directory ∧
      discover others start = discover files start ∧
      (discover others start).value = .error .malformed := by
  intro files others start
  have hPlaces : places start =
      ["a//b/./modernize.toml", "a/modernize.toml", "modernize.toml"] := by decide +kernel
  have hText : Toml.parse "quality" = none := by decide +kernel
  have hDirectory : others.entry? "a//b/./modernize.toml" = some .directory := by rfl
  have hFile : others.HoldsFile "a/modernize.toml" "quality".toUTF8 := by rfl
  have hNearest : IsNearest others start "a/modernize.toml" "quality".toUTF8 := by
    refine ⟨["a//b/./modernize.toml"], ["modernize.toml"], hPlaces, ?_, hFile⟩
    refine List.forall_mem_singleton.mpr (FileSystem.isFile_eq_false_iff.mp ?_)
    decide +kernel
  have hSearched : searched others (places start) =
      ["a//b/./modernize.toml", "a/modernize.toml"] := by decide +kernel
  have hAgree : Agree others files start := by
    rw [Agree, hSearched, List.forall_mem_cons, List.forall_mem_singleton]
    exact ⟨⟨by decide +kernel, fun _ => rfl⟩, by decide +kernel, fun _ => rfl⟩
  obtain ⟨-, -, hSame, -, hLoad, -⟩ := discover_nearest start
  refine ⟨hPlaces, hAgree, hNearest, hDirectory, hSame others files hAgree, ?_⟩
  have hRead : String.fromUTF8? "quality".toUTF8 = some "quality" := by decide +kernel
  rw [(hLoad others _ _ hNearest).2, hRead]
  simp only [ofText, read, hText]

/-- Only files are found by the name: what is found can be read unless its bytes are no text. -/
def FindsFiles (files : FileSystem) (start name : String) : Prop :=
  ∀ path, find? files start name = some path →
    ∃ content, files.HoldsFile path content ∧
      ∀ other, (load files path).value = .error (.unreadable other) →
        String.fromUTF8? content = none

theorem findsFiles_of_forall {files : FileSystem} {start name : String}
    (h : ∀ path, find? files start name = some path → files.isFile path = true) :
    FindsFiles files start name := by
  intro path hFound
  obtain ⟨content, hContent⟩ := FileSystem.isFile_iff.mp (h path hFound)
  refine ⟨content, hContent, fun other hUnreadable => ?_⟩
  rw [value_load hContent] at hUnreadable
  split at hUnreadable
  · exact absurd hUnreadable (value_ofText_ne_unreadable _ other)
  · assumption

theorem find?_of_isAbsolute {files : FileSystem} (start : String) {name : String}
    (hAbsolute : Path.isAbsolute name = true) {entry : FileEntry}
    (hEntry : files.entry? name = some entry) : find? files start name = some name := by
  rw [find?, if_pos hAbsolute, FileSystem.exists?, hEntry]
  rfl

/-- Only files are found, with one exception: by the absolute name of a directory that directory is
found, and no configuration can be read there. -/
theorem findsFiles_iff (files : FileSystem) (start name : String) :
    (FindsFiles files start name ↔
      ¬ (Path.isAbsolute name = true ∧ files.entry? name = some .directory)) ∧
    (Path.isAbsolute name = true ∧ files.entry? name = some .directory →
      find? files start name = some name ∧
        (load files name).value = .error (.unreadable name)) := by
  constructor
  · constructor
    · rintro hFiles ⟨hAbsolute, hDirectory⟩
      obtain ⟨content, hContent, -⟩ := hFiles name (find?_of_isAbsolute start hAbsolute hDirectory)
      cases hDirectory.symm.trans hContent
    · intro hNot
      refine findsFiles_of_forall fun path hFound => ?_
      unfold find? at hFound
      split at hFound
      · rename_i hAbsolute
        obtain ⟨hExists, hSame⟩ := Option.ite_none_right_eq_some.mp hFound
        cases hSame
        exact FileSystem.isFile_of_exists hExists fun hDirectory => hNot ⟨hAbsolute, hDirectory⟩
      · exact List.find?_some hFound
  · rintro ⟨hAbsolute, hDirectory⟩
    refine ⟨find?_of_isAbsolute start hAbsolute hDirectory, ?_⟩
    rw [load, FileSystem.readText?, hDirectory]

/-- The root is found, which is a directory. -/
theorem not_findsFiles_root : ¬ FindsFiles (.ofListing .empty) "" "/" := by
  intro hFiles
  have hRoot : find? (.ofListing .empty) "" "/" = some "/" := by decide +kernel
  obtain ⟨content, hContent, -⟩ := hFiles "/" hRoot
  have hDirectory : FileSystem.entry? (.ofListing .empty) "/" = some .directory := by rfl
  cases hDirectory.symm.trans hContent

end Config

end ResponsiveImages
