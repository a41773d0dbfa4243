import ResponsiveImages.LoaderRequest
import ResponsiveImages.Proofs.Json.Members

/-! The options in a request. A few members follow from what is asked for; the members that the
settings have for a loader are laid over them. -/
namespace ResponsiveImages

theorem Format.ofMediaType?_eq_some_iff {mediaType : String} {format : Format} :
    ofMediaType? mediaType = some format ↔ mediaType = format.mediaType := by
  constructor
  · intro h
    have hSame := List.find?_some h
    exact (beq_iff_eq.mp hSame).symm
  · rintro rfl
    exact ofMediaType?_mediaType format

namespace LoaderRequest

/-- The image is to have this format: it was asked for, or nothing was and the image has it. -/
def Targets (path : String) (format : Option Format) (target : Format) : Prop :=
  format = some target ∨ format = none ∧ MediaType.ofPath? path = some target.mediaType

/-- The format is to be named: nothing was asked for, or the image is converted. -/
def NamesFormat (path : String) (format : Option Format) (target : Format) : Prop :=
  Targets path format target ∧ (format = none ∨ MediaType.ofPath? path ≠ some target.mediaType)

/-- The quality is to be named: the settings have one for the format. -/
def NamesQuality (path : String) (settings : Settings) (format : Option Format) (value : Nat) :
    Prop :=
  ∃ target, Targets path format target ∧ settings.quality.get? target = some value

theorem target?_eq_some_iff {path : String} {format : Option Format} {target : Format} :
    target? path format = some target ↔ Targets path format target := by
  cases format with
  | some format => simp [target?, Targets]
  | none => simp [target?, Targets, Option.bind_eq_some_iff, Format.ofMediaType?_eq_some_iff]

def namedFormat? (path : String) (format : Option Format) : Option Format :=
  if isNative path format then none else target? path format

def namedQuality? (path : String) (settings : Settings) (format : Option Format) : Option Nat :=
  (target? path format).bind settings.quality.get?

theorem isNative_of_targets {path : String} {format : Option Format} {target : Format}
    (h : Targets path format target) :
    isNative path format = false ↔
      format = none ∨ MediaType.ofPath? path ≠ some target.mediaType := by
  rcases h with rfl | ⟨rfl, -⟩
  · simp only [isNative, beq_eq_false_iff_ne, reduceCtorEq, false_or]
    exact ne_comm
  · simp [isNative]

theorem namedFormat?_eq_some_iff {path : String} {format : Option Format} {target : Format} :
    namedFormat? path format = some target ↔ NamesFormat path format target := by
  rw [namedFormat?, NamesFormat, ← target?_eq_some_iff]
  constructor
  · intro h
    split at h
    · cases h
    · rename_i hNative
      have hTargets := target?_eq_some_iff.mp h
      exact ⟨h, (isNative_of_targets hTargets).mp (Bool.eq_false_iff.mpr hNative)⟩
  · rintro ⟨h, hNamed⟩
    have hNative := (isNative_of_targets (target?_eq_some_iff.mp h)).mpr hNamed
    rw [hNative, if_neg Bool.false_ne_true, h]

theorem namedQuality?_eq_some_iff {path : String} {settings : Settings} {format : Option Format}
    {value : Nat} :
    namedQuality? path settings format = some value ↔ NamesQuality path settings format value := by
  simp [namedQuality?, Option.bind_eq_some_iff, target?_eq_some_iff, NamesQuality]

/-- The members for a format and a quality that are to be named. -/
def namedMembers (format? : Option Format) (quality? : Option Nat) : Members :=
  (format?.map fun format => ("format", Json.string format.name)).toList
    ++ (quality?.map fun (value : Nat) => ("quality", Json.number (.int value))).toList

/-- The settings are laid over the members that are to be named. -/
theorem resizeMembers_eq (path : String) (settings : Settings) (format : Option Format) :
    resizeMembers path settings format =
      (namedMembers (namedFormat? path format) (namedQuality? path settings format)).merge
        settings.resizeMembers := by
  rw [resizeMembers, namedMembers, namedFormat?, namedQuality?]
  cases target? path format with
  | none => simp
  | some target =>
      cases isNative path format <;> cases hValue : settings.quality.get? target <;> simp [hValue]

section Named

variable (format? : Option Format) (quality? : Option Nat)

theorem distinct_namedMembers : (namedMembers format? quality?).Distinct := by
  cases format? <;> cases quality? <;> simp [namedMembers, Members.Distinct]

theorem sublist_names_namedMembers :
    (namedMembers format? quality?).names.Sublist ["format", "quality"] := by
  cases format? <;> cases quality? <;> simp [namedMembers]

theorem get?_format_namedMembers :
    (namedMembers format? quality?).get? "format" =
      format?.map fun format => Json.string format.name := by
  cases format? <;> cases quality? <;> simp [namedMembers, Members.get?, List.lookup_cons]

theorem get?_quality_namedMembers :
    (namedMembers format? quality?).get? "quality" =
      quality?.map fun (value : Nat) => Json.number (.int value) := by
  cases format? <;> cases quality? <;> simp [namedMembers, Members.get?, List.lookup_cons]

theorem format_mem_names_namedMembers :
    "format" ∈ (namedMembers format? quality?).names ↔ ∃ format, format? = some format := by
  cases format? <;> cases quality? <;> simp [namedMembers]

theorem quality_mem_names_namedMembers :
    "quality" ∈ (namedMembers format? quality?).names ↔ ∃ value, quality? = some value := by
  cases format? <;> cases quality? <;> simp [namedMembers]

end Named

end LoaderRequest

namespace Members

theorem get?_merge_of_some {base layer : Members} (h : layer.Distinct) {name : String}
    {value : Json} (hValue : layer.get? name = some value) :
    (base.merge layer).get? name = some value := by
  rw [get?_merge base h, hValue]
  rfl

/-- A name that a layer does not have keeps its value. -/
theorem get?_merge_of_none {base layer : Members} {name : String} (h : layer.get? name = none) :
    (base.merge layer).get? name = base.get? name := by
  induction layer generalizing base with
  | nil => rfl
  | cons member layer ih =>
      obtain ⟨hOther, hLayer⟩ := not_or.mp (mt List.mem_cons.mpr (get?_eq_none_iff.mp h))
      rw [merge_cons, ih (get?_eq_none_iff.mpr hLayer), get?_insert, if_neg hOther]

end Members

namespace LoaderRequest

/-- The options of the loader that resizes. The members of the settings have the values that they
have there. Where these leave it open, the format and the quality are named if they are to be. The
names of these two come first as far as they are to be named, and then those that only the settings
have. -/
structure IsResizeOptions (path : String) (settings : Settings) (format : Option Format)
    (members : Members) : Prop where
  distinct : members.Distinct
  overlaid : ∀ name value, settings.resizeMembers.get? name = some value →
    members.get? name = some value
  get?_format : settings.resizeMembers.get? "format" = none → ∀ value,
    members.get? "format" = some value ↔
      ∃ target, NamesFormat path format target ∧ value = .string target.name
  get?_quality : settings.resizeMembers.get? "quality" = none → ∀ value,
    members.get? "quality" = some value ↔
      ∃ number : Nat, NamesQuality path settings format number ∧ value = .number (.int number)
  names : ∃ named : List String, named.Sublist ["format", "quality"] ∧
    ("format" ∈ named ↔ ∃ target, NamesFormat path format target) ∧
    ("quality" ∈ named ↔ ∃ value, NamesQuality path settings format value) ∧
    members.names = named ++ settings.resizeMembers.names.filter (· ∉ named)

/-- The options of the loader that writes source sets. The sizes come first, also if the settings
have another value for them. -/
structure IsSrcsetOptions (settings : Settings) (members : Members) : Prop where
  distinct : members.Distinct
  overlaid : ∀ name value, settings.srcsetMembers.get? name = some value →
    members.get? name = some value
  get?_sizes : settings.srcsetMembers.get? "sizes" = none →
    members.get? "sizes" = some (.array (settings.sizes.map .string))
  names : members.names = "sizes" :: settings.srcsetMembers.names.filter (· ≠ "sizes")

theorem isResizeOptions_resizeMembers (path : String) (settings : Settings)
    (format : Option Format) (h : settings.resizeMembers.Distinct) :
    IsResizeOptions path settings format (resizeMembers path settings format) := by
  rw [resizeMembers_eq]
  refine ⟨(distinct_namedMembers _ _).merge _, fun name value => Members.get?_merge_of_some h,
    fun hNone value => ?_, fun hNone value => ?_, ⟨_, sublist_names_namedMembers _ _, ?_, ?_,
      Members.names_merge _ h⟩⟩
  · rw [Members.get?_merge_of_none hNone, get?_format_namedMembers, Option.map_eq_some_iff]
    simp only [namedFormat?_eq_some_iff, @eq_comm _ _ value]
  · rw [Members.get?_merge_of_none hNone, get?_quality_namedMembers, Option.map_eq_some_iff]
    simp only [namedQuality?_eq_some_iff, @eq_comm _ _ value]
  · simp only [format_mem_names_namedMembers, namedFormat?_eq_some_iff]
  · simp only [quality_mem_names_namedMembers, namedQuality?_eq_some_iff]

theorem isSrcsetOptions_srcsetMembers (settings : Settings) (h : settings.srcsetMembers.Distinct) :
    IsSrcsetOptions settings (srcsetMembers settings) := by
  have hSizes : Members.Distinct [("sizes", .array (settings.sizes.map .string))] := by
    simp [Members.Distinct]
  refine ⟨hSizes.merge _, fun name value => Members.get?_merge_of_some h, fun hNone => ?_, ?_⟩
  · rw [srcsetMembers, Members.get?_merge_of_none hNone, Members.get?_cons, if_pos rfl]
  · rw [srcsetMembers, Members.names_merge _ h]
    simp

/-- The objects that requests are written with, and what is in them. -/
theorem requests_options (path : String) (settings : Settings) (format : Option Format)
    (hResize : settings.resizeMembers.Distinct) (hSrcset : settings.srcsetMembers.Distinct) :
    let resize := resizeMembers path settings format
    let srcset := srcsetMembers settings
    LoaderRequest.compress path settings format =
        "-!webpack-image-resize-loader?" ++ (Json.object resize).text ++ "!" ++ path ∧
      LoaderRequest.srcset path settings format =
        "-!webpack-image-srcset-loader?" ++ (Json.object srcset).text ++
          "!webpack-image-resize-loader?" ++ (Json.object resize).text ++ "!" ++ path ∧
      IsResizeOptions path settings format resize ∧ IsSrcsetOptions settings srcset := by
  refine ⟨rfl, ?_, isResizeOptions_resizeMembers path settings format hResize,
    isSrcsetOptions_srcsetMembers settings hSrcset⟩
  have hMark : "!webpack-image-resize-loader?" = "!" ++ (resizeLoader ++ "?") := by decide
  rw [hMark]
  simp only [LoaderRequest.srcset, behindLoader, String.append_assoc]
  rfl

/-- The settings have members in the place of a quality and of the sizes. A quality is not to be
named here, so that theirs keeps its place among them. -/
theorem requests_options_overlaid :
    let path := "./a.PNG"
    let settings :=
      { Settings.default with
        resizeMembers := [("esModule", .bool false), ("quality", .null)]
        srcsetMembers := [("placeholder", .bool true), ("sizes", .array [])] }
    let resize := resizeMembers path settings (some .avif)
    let srcset := srcsetMembers settings
    (settings.resizeMembers.Distinct ∧ settings.srcsetMembers.Distinct) ∧
      (resize.names = ["format", "esModule", "quality"] ∧
        srcset.names = ["sizes", "placeholder"]) ∧
      LoaderRequest.compress path settings (some .avif) =
        "-!webpack-image-resize-loader?" ++ (Json.object resize).text ++ "!" ++ path ∧
      LoaderRequest.srcset path settings (some .avif) =
        "-!webpack-image-srcset-loader?" ++ (Json.object srcset).text ++
          "!webpack-image-resize-loader?" ++ (Json.object resize).text ++ "!" ++ path ∧
      IsResizeOptions path settings (some .avif) resize ∧ IsSrcsetOptions settings srcset := by
  intro path settings resize srcset
  have hResize : settings.resizeMembers.Distinct := by decide
  have hSrcset : settings.srcsetMembers.Distinct := by decide
  exact ⟨⟨hResize, hSrcset⟩, by decide +kernel,
    requests_options path settings (some .avif) hResize hSrcset⟩

/-- The format does not come first if only the settings name it: the image has no format that a
loader can write, and the settings have another member in front. -/
theorem names_resizeMembers_unnamed :
    let settings :=
      { Settings.default with
        resizeMembers := [("esModule", .bool false), ("format", .string "webp")] }
    let names := (resizeMembers "./a.svg" settings none).names
    settings.resizeMembers.Distinct ∧ names = ["esModule", "format"] ∧
      names ≠ ["format", "quality"].filter (· ∈ names) ++
        settings.resizeMembers.names.filter (· ∉ ["format", "quality"]) := by
  decide +kernel

end LoaderRequest

end ResponsiveImages
