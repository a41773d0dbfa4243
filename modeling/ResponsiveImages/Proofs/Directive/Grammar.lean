import ResponsiveImages.Directive.Parse
import ResponsiveImages.Proofs.Directive.Payloads
import ResponsiveImages.Proofs.Results
import ResponsiveImages.Proofs.Text.Words

/-! What a directive value says. Flags are words, the other options have payloads, and everything that
can be refused is checked in a fixed order. -/
namespace ResponsiveImages

namespace Directive

/-- The options that are set by a word of their own. -/
inductive Flag where
  | compressOnly
  | onlyUseImg
  | noLazy
  deriving DecidableEq, Repr

def Flag.name : Flag → String
  | compressOnly => "compressOnly"
  | onlyUseImg => "onlyUseImg"
  | noLazy => "noLazy"

/-- What the payload of a key stands for. -/
def Key.Value : Key → Type
  | quality => Quality
  | imageFormats => List SourceFormat
  | sizes => List String
  | imageSrcsetLoaderOptions => Members
  | imageResizeLoaderOptions => Members

/-- The reader for the payload of a key. -/
def Key.reader : (key : Key) → Json.Reader key.Value
  | quality => qualityTable
  | imageFormats => formatList
  | sizes => stringList
  | imageSrcsetLoaderOptions => memberTable
  | imageResizeLoaderOptions => memberTable

end Directive

namespace Options

open Directive (Flag Key)

def flag? (options : Options) : Flag → Option Bool
  | .compressOnly => options.compressOnly
  | .onlyUseImg => options.onlyUseImg
  | .noLazy => options.noLazy

def value? (options : Options) : (key : Key) → Option key.Value
  | .quality => options.quality
  | .imageFormats => options.imageFormats
  | .sizes => options.sizes
  | .imageSrcsetLoaderOptions => options.srcsetMembers
  | .imageResizeLoaderOptions => options.resizeMembers

/-- The options consist of flags and values of keys. -/
theorem ext_flag_value {left right : Options} (hFlags : ∀ flag, left.flag? flag = right.flag? flag)
    (hValues : ∀ key, left.value? key = right.value? key) : left = right := by
  obtain ⟨_, _, _, _, _, _, _, _⟩ := left
  obtain ⟨_, _, _, _, _, _, _, _⟩ := right
  cases hFlags .compressOnly
  cases hFlags .onlyUseImg
  cases hFlags .noLazy
  cases hValues .quality
  cases hValues .imageFormats
  cases hValues .sizes
  cases hValues .imageSrcsetLoaderOptions
  cases hValues .imageResizeLoaderOptions
  rfl

end Options

namespace Directive

open Json (Failure)
open Json.Reader (readAll)
open Text (IsWordIn byteLength lower)

variable {text : List Char}

theorem flag_eq_some_iff {name : String} :
    flag name text = some true ↔ IsWordIn (lower name.toList) (lower text) := by
  simp [flag, Text.mem_words_iff]

theorem flag_eq_none_iff {name : String} :
    flag name text = none ↔ ¬ IsWordIn (lower name.toList) (lower text) := by
  simp [flag, Text.mem_words_iff]

/-- The value of the payload that a text has for a key, if it has one. -/
def valueOf (key : Key) (text : List Char) : Except Error (Option key.Value) :=
  extract key key.reader text

/-- The value that a text gives to a key: that of the payload, or none if there is no payload. -/
inductive Gives (key : Key) (text : List Char) : Option key.Value → Prop
  | absent (hAbsent : ∀ payload, ¬ Takes key text payload) : Gives key text none
  | payload {payload : List Char} {value : key.Value} (hTakes : Takes key text payload)
      (hRead : readAll key.reader payload = .ok value) : Gives key text (some value)

theorem valueOf_eq_ok_iff {key : Key} {value : Option key.Value} :
    valueOf key text = .ok value ↔ Gives key text value := by
  constructor
  · intro h
    unfold valueOf extract at h
    split at h
    · rename_i hNone
      cases h
      exact .absent (payload?_eq_none_iff.mp hNone)
    · rename_i payload hPayload
      split at h
      · rename_i read hRead
        cases h
        exact .payload (payload?_eq_some_iff.mp hPayload) hRead
      · cases h
  · intro h
    cases h with
    | absent hAbsent => rw [valueOf, extract, payload?_eq_none_iff.mpr hAbsent]
    | payload hTakes hRead =>
        rw [valueOf, extract, payload?_eq_some_iff.mpr hTakes]
        simp only [hRead]

theorem valueOf_eq_error_iff {key : Key} {error : Error} :
    valueOf key text = .error error ↔
      ∃ payload failure, Takes key text payload ∧ readAll key.reader payload = .error failure ∧
        error = .payload key failure.fault (byteLength payload - failure.left) := by
  constructor
  · intro h
    unfold valueOf extract at h
    split at h
    · cases h
    · rename_i payload hPayload
      split at h
      · cases h
      · rename_i failure hRead
        cases h
        exact ⟨payload, failure, payload?_eq_some_iff.mp hPayload, hRead, rfl⟩
  · rintro ⟨payload, failure, hTakes, hRead, rfl⟩
    rw [valueOf, extract, payload?_eq_some_iff.mpr hTakes]
    simp only [hRead]

end Directive

theorem Quality.mem_toList_iff {quality : Quality} {format : Format} {value : Nat} :
    (format, value) ∈ quality.toList ↔ quality.get? format = some value := by
  simp only [toList, List.mem_filterMap, Option.map_eq_some_iff, Prod.mk.injEq]
  constructor
  · rintro ⟨_, -, _, hGet, rfl, rfl⟩
    exact hGet
  · intro hGet
    exact ⟨format, Format.mem_all format, value, hGet, rfl, rfl⟩

/-- No entry of a quality is above 100. -/
def Quality.InRange (quality : Quality) : Prop :=
  ∀ format value, quality.get? format = some value → value ≤ 100

theorem Quality.excess?_eq_none_iff {quality : Quality} :
    quality.excess? = none ↔ quality.InRange := by
  simp only [excess?, List.find?_eq_none, Prod.forall, mem_toList_iff, InRange, decide_eq_true_eq,
    Nat.not_lt]

theorem Quality.validate_eq_ok_iff {quality : Quality} :
    quality.validate = .ok () ↔ quality.InRange := by
  rw [← excess?_eq_none_iff, validate]
  split <;> simp [*]

theorem Quality.validate_eq_error_iff {quality : Quality} {excess : QualityExcess} :
    quality.validate = .error excess ↔ quality.excess? = some (excess.format, excess.value) := by
  obtain ⟨format, value⟩ := excess
  rw [validate]
  split <;> simp [*]

namespace Directive

open Json (Failure)
open Json.Reader (readAll)
open Text (IsWordIn byteLength lower)

variable {text : List Char}

/-- What a directive value can be refused for. -/
inductive Check where
  /-- The payload of the key has to read as a value for it. -/
  | payload (key : Key)
  /-- No quality may be above 100. -/
  | range
  deriving DecidableEq, Repr

/-- The checks in the order in which they are made. -/
def Check.all : List Check :=
  [payload .quality, range, payload .imageFormats, payload .sizes,
    payload .imageSrcsetLoaderOptions, payload .imageResizeLoaderOptions]

/-- How a check fails. Of several qualities above 100 the first in the order of the formats is
named. -/
inductive Check.Fails (text : List Char) : Check → Error → Prop
  | payload {key : Key} {payload : List Char} {failure : Failure} (hTakes : Takes key text payload)
      (hRead : readAll key.reader payload = .error failure) :
      Check.Fails text (.payload key)
        (.payload key failure.fault (byteLength payload - failure.left))
  | range {quality : Quality} {format : Format} {value : Nat}
      (hGives : Gives .quality text (some quality))
      (hExcess : quality.excess? = some (format, value)) :
      Check.Fails text .range (.quality ⟨format, value⟩)

/-- What a directive value says: each flag that is a word of the value, in any case, and for each key
the value that its payload gives. -/
structure Describes (text : List Char) (options : Options) : Prop where
  set : ∀ flag, options.flag? flag = some true ↔ IsWordIn (lower flag.name.toList) (lower text)
  unset : ∀ flag, options.flag? flag = none ↔ ¬ IsWordIn (lower flag.name.toList) (lower text)
  values : ∀ key, Gives key text (options.value? key)
  range : ∀ quality, options.quality = some quality → quality.InRange

/-- The check of the qualities that a text gives. -/
def rangeOf (quality : Option Quality) : Except Error Unit :=
  match quality with
  | some table => (table.validate).mapError Error.quality
  | none => .ok ()

theorem rangeOf_eq_ok_iff {quality : Option Quality} :
    rangeOf quality = .ok () ↔ ∀ table, quality = some table → table.InRange := by
  cases quality with
  | none => simp [rangeOf]
  | some table =>
      rw [rangeOf]
      simp only [Option.some.injEq, forall_eq', ← Quality.validate_eq_ok_iff]
      cases table.validate <;> simp [Except.mapError]

/-- Reading a directive value is nothing but these checks in a row. -/
theorem parse_eq (value : String) :
    parse value = do
      let text := value.toList
      let quality ← valueOf .quality text
      rangeOf quality
      let imageFormats ← valueOf .imageFormats text
      let sizes ← valueOf .sizes text
      let srcsetMembers ← valueOf .imageSrcsetLoaderOptions text
      let resizeMembers ← valueOf .imageResizeLoaderOptions text
      return {
        compressOnly := flag Flag.compressOnly.name text
        onlyUseImg := flag Flag.onlyUseImg.name text
        noLazy := flag Flag.noLazy.name text
        imageFormats, sizes, quality, srcsetMembers, resizeMembers } := by
  refine congrArg (valueOf .quality value.toList >>= ·) (funext fun quality => ?_)
  cases quality <;> rfl

/-- The error of a check, if it fails. -/
def Check.failure? (text : List Char) : Check → Option Error
  | payload key => error? (valueOf key text)
  | range =>
    match valueOf .quality text with
    | .ok quality => error? (rangeOf quality)
    | .error _ => none

theorem Check.failure?_eq_some_iff {check : Check} {error : Error} :
    check.failure? text = some error ↔ check.Fails text error := by
  cases check with
  | payload key =>
      rw [failure?, error?_eq_some_iff, valueOf_eq_error_iff]
      constructor
      · rintro ⟨payload, failure, hTakes, hRead, rfl⟩
        exact .payload hTakes hRead
      · rintro ⟨hTakes, hRead⟩
        exact ⟨_, _, hTakes, hRead, rfl⟩
  | range =>
      constructor
      · intro h
        rw [failure?] at h
        split at h
        · rename_i quality hQuality
          cases quality with
          | none => cases h
          | some table =>
              have hRange : (Quality.validate table).mapError Error.quality = .error error :=
                error?_eq_some_iff.mp h
              cases hValid : Quality.validate table with
              | ok => simp [hValid, Except.mapError] at hRange
              | error excess =>
                  simp only [hValid, Except.mapError, Except.error.injEq] at hRange
                  subst hRange
                  exact .range (valueOf_eq_ok_iff.mp hQuality)
                    (Quality.validate_eq_error_iff.mp hValid)
        · cases h
      · intro h
        cases h with
        | range hGives hExcess =>
            rw [failure?, valueOf_eq_ok_iff.mpr hGives]
            simp only [rangeOf, Quality.validate, hExcess]
            rfl

theorem Check.failure?_eq_none_iff {check : Check} :
    check.failure? text = none ↔ ∀ error, ¬ check.Fails text error := by
  simp only [Option.eq_none_iff_forall_ne_some, ne_eq, failure?_eq_some_iff]

/-- The first check that fails decides the error. -/
theorem error?_parse (value : String) :
    error? (parse value) = Check.all.findSome? (Check.failure? value.toList) := by
  rw [parse_eq]
  simp only [Check.all, List.findSome?_cons, List.findSome?_nil, Check.failure?, error?_bind]
  cases valueOf .quality value.toList with
  | error error => rfl
  | ok quality =>
      dsimp only [error?]
      cases rangeOf quality with
      | error error => rfl
      | ok _ =>
          dsimp only [error?]
          cases valueOf .imageFormats value.toList with
          | error error => rfl
          | ok formats =>
              dsimp only [error?]
              cases valueOf .sizes value.toList with
              | error error => rfl
              | ok sizes =>
                  dsimp only [error?]
                  cases valueOf .imageSrcsetLoaderOptions value.toList with
                  | error error => rfl
                  | ok srcset =>
                      dsimp only [error?]
                      cases valueOf .imageResizeLoaderOptions value.toList <;> rfl

theorem Describes.flag?_eq {options : Options} (h : Describes text options) (flag : Flag) :
    options.flag? flag = Directive.flag flag.name text := by
  by_cases hWord : IsWordIn (lower flag.name.toList) (lower text)
  · rw [(h.set flag).mpr hWord, flag_eq_some_iff.mpr hWord]
  · rw [(h.unset flag).mpr hWord, flag_eq_none_iff.mpr hWord]

theorem parse_eq_ok_iff {value : String} {options : Options} :
    parse value = .ok options ↔ Describes value.toList options := by
  simp only [parse_eq, bind_eq_ok, valueOf_eq_ok_iff]
  constructor
  · rintro ⟨quality, hQuality, _, hRange, formats, hFormats, sizes, hSizes, srcset, hSrcset, resize,
      hResize, h⟩
    cases h
    refine ⟨fun flag => ?_, fun flag => ?_, fun key => ?_, rangeOf_eq_ok_iff.mp hRange⟩
    · cases flag <;> exact flag_eq_some_iff
    · cases flag <;> exact flag_eq_none_iff
    · cases key with
      | quality => exact hQuality
      | imageFormats => exact hFormats
      | sizes => exact hSizes
      | imageSrcsetLoaderOptions => exact hSrcset
      | imageResizeLoaderOptions => exact hResize
  · intro h
    refine ⟨options.quality, h.values .quality, (), rangeOf_eq_ok_iff.mpr h.range,
      options.imageFormats, h.values .imageFormats, options.sizes, h.values .sizes,
      options.srcsetMembers, h.values .imageSrcsetLoaderOptions,
      options.resizeMembers, h.values .imageResizeLoaderOptions, ?_⟩
    refine congrArg Except.ok (Options.ext_flag_value (fun flag => ?_) fun key => ?_)
    · rw [h.flag?_eq]
      cases flag <;> rfl
    · cases key <;> rfl

theorem parse_eq_error_iff {value : String} {error : Error} :
    parse value = .error error ↔
      ∃ early check late, Check.all = early ++ check :: late ∧
        (∀ other ∈ early, ∀ error, ¬ other.Fails value.toList error) ∧
        check.Fails value.toList error := by
  rw [← error?_eq_some_iff, error?_parse, List.findSome?_eq_some_iff]
  simp only [Check.failure?_eq_some_iff, Check.failure?_eq_none_iff]
  constructor
  · rintro ⟨early, check, late, hSplit, hFails, hEarly⟩
    exact ⟨early, check, late, hSplit, hEarly, hFails⟩
  · rintro ⟨early, check, late, hSplit, hEarly, hFails⟩
    exact ⟨early, check, late, hSplit, hFails, hEarly⟩

theorem Check.mem_all (check : Check) : check ∈ Check.all := by
  cases check with
  | range => decide
  | payload key => cases key <;> decide

theorem exists_parse_iff_no_failure {value : String} :
    (∃ options, parse value = .ok options) ↔
      ∀ (check : Check) error, ¬ check.Fails value.toList error := by
  simp only [← error?_eq_none_iff, error?_parse, List.findSome?_eq_none_iff,
    Check.failure?_eq_none_iff, Check.mem_all, forall_const]

/-- A directive value is read exactly if every payload reads as a value for its key and no quality is
above 100. -/
theorem exists_parse_iff {value : String} :
    (∃ options, parse value = .ok options) ↔
      (∀ key payload, Takes key value.toList payload → ∃ read, readAll key.reader payload = .ok read) ∧
      ∀ quality, Gives .quality value.toList (some quality) → Quality.InRange quality := by
  rw [exists_parse_iff_no_failure]
  constructor
  · intro hPasses
    constructor
    · intro key payload hTakes
      cases hRead : readAll key.reader payload with
      | ok read => exact ⟨read, rfl⟩
      | error failure => exact absurd (.payload hTakes hRead) (hPasses _ _)
    · intro quality hGives
      cases hExcess : Quality.excess? quality with
      | none => exact Quality.excess?_eq_none_iff.mp hExcess
      | some excess => exact absurd (.range hGives hExcess) (hPasses _ _)
  · rintro ⟨hReads, hRange⟩ check error hFails
    cases hFails with
    | payload hTakes hRead =>
        obtain ⟨read, hOther⟩ := hReads _ _ hTakes
        rw [hRead] at hOther
        cases hOther
    | range hGives hExcess =>
        rw [Quality.excess?_eq_none_iff.mpr (hRange _ hGives)] at hExcess
        cases hExcess

/-- The grammar of directive values. A key has a payload exactly if it occurs, and then that of its
first occurrence. A value that is read says which flags stand in it as words and what its payloads
give. It is read exactly if every payload can be read and no quality is above 100; otherwise the
first check that fails decides the error. -/
theorem parse_grammar (value : String) :
    (∀ key, (∃ payload, Takes key value.toList payload) ↔
      ∃ before rest, value.toList = before ++ rest ∧ Occurs key rest) ∧
    (∀ options, parse value = .ok options ↔ Describes value.toList options) ∧
    ((∃ options, parse value = .ok options) ↔
      (∀ key payload, Takes key value.toList payload →
        ∃ read, readAll key.reader payload = .ok read) ∧
      ∀ quality, Gives .quality value.toList (some quality) → Quality.InRange quality) ∧
    ∀ error, parse value = .error error ↔
      ∃ early check late, Check.all = early ++ check :: late ∧
        (∀ other ∈ early, ∀ error, ¬ other.Fails value.toList error) ∧
        check.Fails value.toList error :=
  ⟨fun _ => exists_takes_iff, fun _ => parse_eq_ok_iff, exists_parse_iff,
    fun _ => parse_eq_error_iff⟩

end Directive

end ResponsiveImages
