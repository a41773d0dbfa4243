import ResponsiveImages.Proofs.Config.Fields
import ResponsiveImages.Proofs.Conversion.Layers
import ResponsiveImages.Proofs.Directive.Grammar
import ResponsiveImages.Proofs.Requests.Options

/-! The range of qualities. Configurations and directives are checked apart from each other, and what
passes the checks stays in range when the layers are merged, up to the requests. -/
namespace ResponsiveImages

namespace Quality

theorem inRange_empty : Quality.empty.InRange := by
  intro format value h
  cases format <;> cases h

theorem InRange.merge {base layer : Quality} (hBase : base.InRange) (hLayer : layer.InRange) :
    (base.merge layer).InRange := by
  intro format value h
  rw [get?_merge] at h
  cases hValue : layer.get? format with
  | none =>
      rw [hValue] at h
      exact hBase format value h
  | some number =>
      rw [hValue] at h
      exact hLayer format value (hValue.trans h)

/-- A layer takes no quality away. -/
theorem exists_get?_merge {base : Quality} {format : Format} (layer : Quality)
    (h : ∃ value, base.get? format = some value) :
    ∃ value, (base.merge layer).get? format = some value := by
  obtain ⟨value, hValue⟩ := h
  rw [get?_merge, hValue]
  cases layer.get? format with
  | none => exact ⟨value, rfl⟩
  | some number => exact ⟨number, rfl⟩

end Quality

/-- The qualities of complete settings: none is above 100, and the formats with a default have
one. -/
structure Settings.HasQualities (settings : Settings) : Prop where
  inRange : settings.quality.InRange
  defaults : ∀ format ∈ [Format.jpeg, .png, .webp],
    ∃ value, settings.quality.get? format = some value

namespace Settings.HasQualities

theorem default : Settings.default.HasQualities where
  inRange := by
    intro format value h
    cases format <;> cases h <;> decide
  defaults := by
    intro format h
    simp only [List.mem_cons, List.not_mem_nil, or_false] at h
    rcases h with rfl | rfl | rfl <;> exact ⟨_, rfl⟩

theorem apply {settings : Settings} (h : settings.HasQualities) {options : Options}
    (hOptions : ∀ quality, options.quality = some quality → quality.InRange) :
    (settings.apply options).HasQualities where
  inRange := by
    refine h.inRange.merge ?_
    cases hQuality : options.quality with
    | none => exact Quality.inRange_empty
    | some quality => exact hOptions quality hQuality
  defaults format hFormat := Quality.exists_get?_merge _ (h.defaults format hFormat)

end Settings.HasQualities

theorem Config.validate_eq_ok_iff {config : Config} :
    config.validate = .ok () ↔
      ∀ quality, config.options.quality = some quality → quality.InRange := by
  rw [validate]
  split
  · rename_i hQuality
    simp only [Quality.validate_eq_ok_iff, hQuality, Option.some.injEq, forall_eq']
  · rename_i hQuality
    simp [hQuality]

theorem Config.hasQualities_settings {config : Config} (h : config.validate = .ok ()) :
    config.settings.HasQualities :=
  have hApplied := Settings.HasQualities.default.apply (Config.validate_eq_ok_iff.mp h)
  ⟨hApplied.inRange, hApplied.defaults⟩

theorem Converter.hasQualities_of_resolve {converter : Converter}
    (h : converter.settings.HasQualities) {value : String} {settings : Settings}
    (hSettings : converter.resolve value = .ok settings) : settings.HasQualities := by
  rw [resolve_eq] at hSettings
  obtain ⟨options, hOptions, rfl⟩ := map_eq_ok.mp hSettings
  exact h.apply (Directive.parse_eq_ok_iff.mp hOptions).range

namespace LoaderRequest

/-- A quality that is written is one that is to be named, unless the settings have a member of that
name. -/
theorem namesQuality_of_mem {path : String} {settings : Settings} {format : Option Format}
    (h : settings.resizeMembers.get? "quality" = none) {written : Json}
    (hWritten : ("quality", written) ∈ resizeMembers path settings format) :
    ∃ number : Nat, NamesQuality path settings format number ∧ written = .number (.int number) := by
  rw [resizeMembers_eq] at hWritten
  have hGet := Members.get?_of_mem ((distinct_namedMembers _ _).merge _) hWritten
  rw [Members.get?_merge_of_none h, get?_quality_namedMembers] at hGet
  obtain ⟨number, hNamed, hSame⟩ := Option.map_eq_some_iff.mp hGet
  exact ⟨number, namedQuality?_eq_some_iff.mp hNamed, hSame.symm⟩

theorem le_of_mem_resizeMembers {path : String} {settings : Settings} {format : Option Format}
    (hQualities : settings.HasQualities) (h : settings.resizeMembers.get? "quality" = none)
    {written : Json} (hWritten : ("quality", written) ∈ resizeMembers path settings format) :
    ∃ number : Nat, number ≤ 100 ∧ written = .number (.int number) := by
  obtain ⟨number, ⟨target, -, hValue⟩, hSame⟩ := namesQuality_of_mem h hWritten
  exact ⟨number, hQualities.inRange target number hValue, hSame⟩

/-- The sizes are all that the other loader is told, apart from its further members. -/
theorem mem_of_mem_srcsetMembers {settings : Settings} {written : Json}
    (h : ("quality", written) ∈ srcsetMembers settings) :
    ("quality", written) ∈ settings.srcsetMembers := by
  rcases Members.mem_of_mem_merge h with hSizes | hFurther
  · simp at hSizes
  · exact hFurther

/-- Requests that are made by the rules of this library, and that name no quality above 100. The
further members for the loader that resizes may replace the quality; the other loader is told none
but what is among its own further members. -/
structure InRange (converter : Converter) (settings : Settings) (path : String)
    (format : Option Format) : Prop where
  compress : converter.compress path settings format =
    "-!" ++ behindLoader resizeLoader (resizeMembers path settings format) path
  srcset : converter.srcset path settings format =
    "-!" ++ behindLoader srcsetLoader (srcsetMembers settings)
      (behindLoader resizeLoader (resizeMembers path settings format) path)
  resize : settings.resizeMembers.get? "quality" = none →
    ∀ written, ("quality", written) ∈ resizeMembers path settings format →
      ∃ number : Nat, number ≤ 100 ∧ written = .number (.int number)
  others : ∀ written, ("quality", written) ∈ srcsetMembers settings →
    ("quality", written) ∈ settings.srcsetMembers

theorem inRange_of_hasQualities {converter : Converter} {settings : Settings}
    (h : settings.HasQualities) (hCompress : converter.compress = LoaderRequest.compress)
    (hSrcset : converter.srcset = LoaderRequest.srcset) (path : String) (format : Option Format) :
    InRange converter settings path format where
  compress := by
    rw [hCompress]
    rfl
  srcset := by
    rw [hSrcset]
    rfl
  resize hNone _ hWritten := le_of_mem_resizeMembers h hNone hWritten
  others _ := mem_of_mem_srcsetMembers

end LoaderRequest

/-- What a configuration text and a directive are accepted for. -/
theorem Config.hasQualities_of_ofText {text : String} {config : Config}
    (hText : (ofText text).value = .ok config) :
    config.settings.HasQualities ∧ config.compress = none ∧ config.srcset = none := by
  obtain ⟨entries, hParse⟩ := exists_parse_of_ofText hText
  rw [ofText_of_parse hParse] at hText
  obtain ⟨hMembers, hValid⟩ := accept_eq_ok_iff.mp hText
  exact ⟨hasQualities_settings hValid, transformers_setMembers hMembers⟩

theorem Config.ofText_of_excess {text : String} {entries : List (String × Toml.Value)}
    (hText : Toml.parse text = some entries) {value : Toml.Value}
    (hEntry : ("quality", value) ∈ entries) {quality : Quality}
    (hQuality : decodeQuality (.ofToml value) = .ok quality) (hExcess : ¬ quality.InRange) :
    ∃ error, (ofText text).value = .error error := by
  cases hValue : (ofText text).value with
  | error error => exact ⟨error, rfl⟩
  | ok config =>
      obtain ⟨decoded, hDecoded, hField⟩ := value?_of_ofText .quality hText hValue hEntry
      cases hDecoded.symm.trans hQuality
      rw [ofText_of_parse hText] at hValue
      have hValid := (accept_eq_ok_iff.mp hValue).2
      exact absurd (validate_eq_ok_iff.mp hValid quality hField) hExcess

/-- The range is checked as soon as the qualities are read, so that no other error comes first. -/
theorem Directive.parse_of_excess {value : String} {payload : List Char}
    (hTakes : Takes .quality value.toList payload) {quality : Quality}
    (hRead : Json.Reader.readAll qualityTable payload = .ok quality)
    (hExcess : ¬ quality.InRange) : ∃ excess, parse value = .error (.quality excess) := by
  have hGives : Gives .quality value.toList (some quality) := .payload hTakes hRead
  have hPasses : Check.failure? value.toList (.payload .quality) = none := by
    rw [Check.failure?, valueOf_eq_ok_iff.mpr hGives]
    rfl
  cases hFirst : quality.excess? with
  | none => exact absurd (Quality.excess?_eq_none_iff.mp hFirst) hExcess
  | some entry =>
      refine ⟨⟨entry.1, entry.2⟩, parse_eq_error_iff.mpr
        ⟨[.payload .quality], .range, _, rfl, fun other hOther => ?_, .range hGives hFirst⟩⟩
      rw [List.mem_singleton.mp hOther]
      exact Check.failure?_eq_none_iff.mp hPasses

theorem Converter.resolve_of_excess {value : String} {payload : List Char}
    (hTakes : Directive.Takes .quality value.toList payload) {quality : Quality}
    (hRead : Json.Reader.readAll Directive.qualityTable payload = .ok quality)
    (hExcess : ¬ quality.InRange) (converter : Converter) :
    ∃ excess, converter.resolve value = .error (.quality excess) := by
  obtain ⟨excess, hParse⟩ := Directive.parse_of_excess hTakes hRead hExcess
  exact ⟨excess, by rw [resolve_eq, hParse]; rfl⟩

namespace LoaderRequest

/-- Qualities stay in range. A configuration text and a directive that are accepted lead to settings
in which no quality is above 100 and every format with a default has one, and so to requests that
name none above 100. A document or a directive whose qualities, read on their own, have one above
100 is refused, whatever else it contains. -/
theorem requests_qualityInRange (text value : String) :
    (∀ config settings, (Config.ofText text).value = .ok config →
      (Converter.ofConfig config).resolve value = .ok settings →
      (∀ format number, settings.quality.get? format = some number → number ≤ 100) ∧
      (∀ format ∈ [Format.jpeg, .png, .webp],
        ∃ number, settings.quality.get? format = some number) ∧
      ∀ path format, InRange (Converter.ofConfig config) settings path format) ∧
    (∀ entries member quality format number, Toml.parse text = some entries →
      ("quality", member) ∈ entries → Config.decodeQuality (.ofToml member) = .ok quality →
      quality.get? format = some number → 100 < number →
      ∃ error, (Config.ofText text).value = .error error) ∧
    ∀ payload quality format number, Directive.Takes .quality value.toList payload →
      Json.Reader.readAll Directive.qualityTable payload = .ok quality →
      quality.get? format = some number → 100 < number →
      ∀ converter : Converter, ∃ excess, converter.resolve value = .error (.quality excess) := by
  refine ⟨fun config settings hText hSettings => ?_, ?_, ?_⟩
  · obtain ⟨hConfig, hCompress, hSrcset⟩ := Config.hasQualities_of_ofText hText
    have hQualities := Converter.hasQualities_of_resolve hConfig hSettings
    exact ⟨hQualities.inRange, hQualities.defaults, inRange_of_hasQualities hQualities
      (by rw [Converter.ofConfig, hCompress]; rfl) (by rw [Converter.ofConfig, hSrcset]; rfl)⟩
  · intro entries member quality format number hParse hEntry hQuality hValue hAbove
    exact Config.ofText_of_excess hParse hEntry hQuality fun hRange =>
      absurd (hRange format number hValue) (Nat.not_le.mpr hAbove)
  · intro payload quality format number hTakes hRead hValue hAbove
    exact Converter.resolve_of_excess hTakes hRead fun hRange =>
      absurd (hRange format number hValue) (Nat.not_le.mpr hAbove)

/-- A configuration and a directive that both decide qualities, up to the bounds, and a document and
a directive that go too far. The latter two have other faults as well. -/
theorem requests_qualityInRange_layered :
    let text := "noLazy = true\n[quality]\navif = 100\njpeg = 0\n" ++
      "[imageResizeLoaderOptions]\nesModule = false\n"
    let value := "quality=\x7b\x22webp\x22:7\x7d onlyUseImg"
    let document := "sizes = 3\nquality.png = 101\n"
    let directive := "sizes=[1] quality=\x7b\x22png\x22:101\x7d"
    (∃ config settings, (Config.ofText text).value = .ok config ∧
      (Converter.ofConfig config).resolve value = .ok settings ∧
      settings.quality = ⟨some 0, some 100, some 7, some 100⟩ ∧
      settings.resizeMembers.get? "quality" = none ∧
      (∀ format number, settings.quality.get? format = some number → number ≤ 100) ∧
      (∀ format ∈ [Format.jpeg, .png, .webp],
        ∃ number, settings.quality.get? format = some number) ∧
      ∀ path format, InRange (Converter.ofConfig config) settings path format) ∧
    (∃ error, (Config.ofText document).value = .error error) ∧
    ∀ converter : Converter, ∃ excess, converter.resolve directive = .error (.quality excess) := by
  intro text value document directive
  obtain ⟨hAccepted, -, -⟩ := requests_qualityInRange text value
  obtain ⟨-, hDocument, hDirective⟩ := requests_qualityInRange document directive
  refine ⟨?_, ?_, ?_⟩
  · have hRun : ((Config.ofText text).value.toOption.bind fun config =>
        ((Converter.ofConfig config).resolve value).toOption.map fun settings =>
          (settings.quality, settings.resizeMembers.names)) =
        some (⟨some 0, some 100, some 7, some 100⟩, ["esModule"]) := by
      decide +kernel
    obtain ⟨config, hConfig, hResolved⟩ := Option.bind_eq_some_iff.mp hRun
    obtain ⟨settings, hSettings, hSame⟩ := map_toOption_eq_some_iff.mp hResolved
    rw [Prod.mk.injEq] at hSame
    obtain ⟨hQuality, hNames⟩ := hSame
    have hText := toOption_eq_some_iff.mp hConfig
    have hNone : settings.resizeMembers.get? "quality" = none :=
      Members.get?_eq_none_iff.mpr (by simp [hNames])
    exact ⟨config, settings, hText, hSettings, hQuality, hNone,
      hAccepted config settings hText hSettings⟩
  · exact hDocument [("sizes", .integer 3), ("quality", .table [("png", .integer 101)])] _
      ⟨none, some 101, none, none⟩ .png 101 (by decide +kernel)
      (List.mem_cons_of_mem _ List.mem_cons_self) rfl rfl (by decide)
  · have hRead : (Json.Reader.readAll Directive.qualityTable
        "\x7b\x22png\x22:101\x7d".toList).toOption = some ⟨none, some 101, none, none⟩ := by
      decide +kernel
    exact hDirective _ ⟨none, some 101, none, none⟩ .png 101
      (Directive.payload?_eq_some_iff.mp (by decide +kernel)) (toOption_eq_some_iff.mp hRead) rfl
      (by decide)

end LoaderRequest

end ResponsiveImages
