import ResponsiveImages.Conversion.Converter
import ResponsiveImages.Proofs.Directive.Grammar
import ResponsiveImages.Proofs.Json.Members

/-! The layers that the settings of one image come from: what its directive says, over what the
configuration says, over the defaults. -/
namespace ResponsiveImages

/-- No name stands twice among the members for a loader. -/
structure Options.Distinct (options : Options) : Prop where
  srcset : (options.srcsetMembers.getD []).Distinct
  resize : (options.resizeMembers.getD []).Distinct

namespace Converter

/-- The converter of a project that configures nothing. -/
def default : Converter :=
  ⟨Settings.default, LoaderRequest.compress, LoaderRequest.srcset⟩

/-- A converter with a configuration over it. What the configuration leaves open stays. -/
def withConfig (base : Converter) (config : Config) : Converter where
  settings :=
    { compressOnly := config.options.compressOnly.getD base.settings.compressOnly
      onlyUseImg := config.options.onlyUseImg.getD base.settings.onlyUseImg
      noLazy := config.options.noLazy.getD base.settings.noLazy
      attributeName := config.attributeName.getD base.settings.attributeName
      imageFormats := config.options.imageFormats.getD base.settings.imageFormats
      sizes := config.options.sizes.getD base.settings.sizes
      quality :=
        match config.options.quality with
        | some quality => base.settings.quality.merge quality
        | none => base.settings.quality
      srcsetMembers :=
        match config.options.srcsetMembers with
        | some members => base.settings.srcsetMembers.merge members
        | none => base.settings.srcsetMembers
      resizeMembers :=
        match config.options.resizeMembers with
        | some members => base.settings.resizeMembers.merge members
        | none => base.settings.resizeMembers }
  compress := config.compress.getD base.compress
  srcset := config.srcset.getD base.srcset

/-- A converter with the options of one image over it. Its rules for requests stay. -/
def withOptions (base : Converter) (options : Options) : Converter :=
  { base with settings := base.settings.apply options }

/-- The converter for one image: the settings that its directive leads to, and the rules. -/
def resolved (converter : Converter) (value : String) : Except Directive.Error Converter :=
  (converter.resolve value).map fun settings => { converter with settings }

end Converter

/-- All layers at once. -/
def Config.resolve (config : Config) (inline : Options) : Converter :=
  (Converter.default.withConfig config).withOptions inline

namespace Converter

/-- A configuration that decides nothing but options is a layer like that of an image. -/
theorem withConfig_options (base : Converter) (options : Options) :
    base.withConfig ⟨options, none, none, none⟩ = base.withOptions options := by
  obtain ⟨_, _, _, _, _, quality, srcset, resize⟩ := options
  cases quality <;> cases srcset <;> cases resize <;> rfl

/-- The converter of a configuration is that configuration over the defaults. -/
theorem ofConfig_eq (config : Config) : ofConfig config = default.withConfig config := by
  obtain ⟨⟨_, _, _, _, _, quality, srcset, resize⟩, _, _, _⟩ := config
  cases quality <;> cases srcset <;> cases resize <;> rfl

end Converter

namespace Directive

/-- An empty directive value says nothing. -/
theorem parse_empty : parse "" = .ok .none := by
  rfl

theorem distinct_of_readAll_memberTable {cs : List Char} {members : Members}
    (h : Json.Reader.readAll memberTable cs = .ok members) : members.Distinct := by
  obtain ⟨⟨read, rest⟩, hRead, hAll⟩ := bind_eq_ok.mp h
  obtain ⟨⟨entries, _⟩, -, hEntries⟩ := bind_eq_ok.mp hRead
  cases hEntries
  dsimp only at hAll
  split at hAll
  · cases hAll
    exact Members.distinct_ofList entries
  · cases hAll

theorem distinct_of_extract {key : Key} {text : List Char} {members : Option Members}
    (h : extract key memberTable text = .ok members) : (members.getD []).Distinct := by
  unfold extract at h
  split at h
  · cases h
    exact List.nodup_nil
  · split at h
    · rename_i hRead
      cases h
      exact distinct_of_readAll_memberTable hRead
    · cases h

/-- Members that a directive gives have distinct names, also if some are written twice. -/
theorem distinct_of_parse {value : String} {options : Options} (h : parse value = .ok options) :
    options.Distinct := by
  have hValues := (parse_eq_ok_iff.mp h).values
  exact
    { srcset := distinct_of_extract (valueOf_eq_ok_iff.mpr (hValues .imageSrcsetLoaderOptions))
      resize := distinct_of_extract (valueOf_eq_ok_iff.mpr (hValues .imageResizeLoaderOptions)) }

end Directive

namespace Converter

/-- The short way for an empty value comes to the same. -/
theorem resolve_eq (converter : Converter) (value : String) :
    converter.resolve value = (Directive.parse value).map converter.settings.apply := by
  rw [resolve]
  split
  · rename_i hEmpty
    rw [String.isEmpty_iff.mp hEmpty, Directive.parse_empty]
    rfl
  · rfl

theorem resolved_eq {converter : Converter} {value : String} {options : Options}
    (h : Directive.parse value = .ok options) :
    converter.resolved value = .ok (converter.withOptions options) := by
  rw [resolved, resolve_eq, h]
  rfl

end Converter

/-- Members come from the upper layer or else from the lower one. The names of the lower layer come
first, and then those that only the upper layer has. -/
structure Members.Layered (lower upper : Option Members) (members : Members) : Prop where
  get? : ∀ name,
    members.get? name = (upper.bind (·.get? name) <|> lower.bind (·.get? name))
  names : members.names =
    (lower.getD []).names ++ (upper.getD []).names.filter (· ∉ (lower.getD []).names)

/-- Every setting comes from the options of the image, or else from the configuration, or else from
the defaults. Quality is decided by format, and members are by name. The name of the directive and
the rules do not depend on the image. -/
structure Converter.Layered (config : Config) (inline : Options) (resolved : Converter) : Prop where
  compressOnly : resolved.settings.compressOnly =
    (inline.compressOnly <|> config.options.compressOnly).getD Settings.default.compressOnly
  onlyUseImg : resolved.settings.onlyUseImg =
    (inline.onlyUseImg <|> config.options.onlyUseImg).getD Settings.default.onlyUseImg
  noLazy : resolved.settings.noLazy =
    (inline.noLazy <|> config.options.noLazy).getD Settings.default.noLazy
  imageFormats : resolved.settings.imageFormats =
    (inline.imageFormats <|> config.options.imageFormats).getD Settings.default.imageFormats
  sizes : resolved.settings.sizes =
    (inline.sizes <|> config.options.sizes).getD Settings.default.sizes
  quality : ∀ format, resolved.settings.quality.get? format =
    (inline.quality.bind (·.get? format) <|> config.options.quality.bind (·.get? format) <|>
      Settings.default.quality.get? format)
  srcsetMembers : resolved.settings.srcsetMembers.Layered config.options.srcsetMembers
    inline.srcsetMembers
  resizeMembers : resolved.settings.resizeMembers.Layered config.options.resizeMembers
    inline.resizeMembers
  attributeName : resolved.settings.attributeName =
    config.attributeName.getD Settings.default.attributeName
  compress : resolved.compress = config.compress.getD LoaderRequest.compress
  srcset : resolved.srcset = config.srcset.getD LoaderRequest.srcset

/-- To say nothing about members is to give none. -/
theorem Members.get?_getD (layer : Option Members) (name : String) :
    (layer.getD []).get? name = layer.bind (·.get? name) := by
  cases layer <;> rfl

theorem Members.layered_merge {lower upper : Option Members} (hLower : (lower.getD []).Distinct)
    (hUpper : (upper.getD []).Distinct) :
    Members.Layered lower upper
      ((Settings.default.srcsetMembers.merge (lower.getD [])).merge (upper.getD [])) := by
  have hBase : Settings.default.srcsetMembers.merge (lower.getD []) = lower.getD [] :=
    Members.ofList_eq hLower
  rw [hBase]
  exact
    { get? := fun name => by
        rw [Members.get?_merge _ hUpper, Members.get?_getD, Members.get?_getD]
      names := Members.names_merge _ hUpper }

theorem Quality.get?_getD (layer : Option Quality) (format : Format) :
    (layer.getD .empty).get? format = layer.bind (·.get? format) := by
  cases layer with
  | none => cases format <;> rfl
  | some quality => rfl

theorem getD_getD {α : Type} (upper lower : Option α) (value : α) :
    upper.getD (lower.getD value) = (upper <|> lower).getD value := by
  cases upper <;> rfl

/-- The layers decide what they are meant to decide. -/
theorem Config.resolve_layered {config : Config} {inline : Options}
    (hConfig : config.options.Distinct) (hInline : inline.Distinct) :
    Converter.Layered config inline (config.resolve inline) := by
  rw [resolve, ← Converter.ofConfig_eq]
  exact
    { compressOnly := getD_getD _ _ _
      onlyUseImg := getD_getD _ _ _
      noLazy := getD_getD _ _ _
      imageFormats := getD_getD _ _ _
      sizes := getD_getD _ _ _
      quality := fun format => by
        simp only [Converter.withOptions, Converter.ofConfig, Settings.apply, Config.settings,
          Quality.get?_merge, Quality.get?_getD]
      srcsetMembers := Members.layered_merge hConfig.srcset hInline.srcset
      resizeMembers := Members.layered_merge hConfig.resize hInline.resize
      attributeName := rfl
      compress := rfl
      srcset := rfl }

namespace Converter

/-- The converter of a configuration makes of a directive value what all layers make of its options,
also if the value is empty. Each layer decides what the layers above it leave open. The two kinds of
layers do not differ where they have the same to say. -/
theorem resolved_layered (config : Config) (value : String) (inline : Options)
    (hConfig : config.options.Distinct) (hParse : Directive.parse value = .ok inline) :
    (ofConfig config).resolved value = .ok (config.resolve inline) ∧
      Layered config inline (config.resolve inline) ∧
      ∀ (base : Converter) (options : Options),
        base.withConfig ⟨options, none, none, none⟩ = base.withOptions options := by
  refine ⟨?_, Config.resolve_layered hConfig (Directive.distinct_of_parse hParse),
    withConfig_options⟩
  rw [resolved_eq hParse, ofConfig_eq, Config.resolve]

/-- Layers that overlap: in a quality, in the members for a loader, and in a list that the directive
empties. The directive gives one of its members twice. -/
theorem resolved_layered_overlapping :
    let options : Options :=
      { Options.none with
        noLazy := some true
        sizes := some ["640w"]
        quality := some ⟨none, none, some 60, some 50⟩
        resizeMembers := some [("esModule", .bool true), ("cacheDir", .string ".cache")] }
    let config : Config := ⟨options, some "image", some fun path _ _ => path, none⟩
    let value := "quality=\x7b\x22jpeg\x22:70\x7d sizes\n=[]\nOnlyUseImg\n" ++
      "imageResizeLoaderOptions=\x7b\x22a\x22:1,\x22esModule\x22:false,\x22a\x22:2\x7d"
    ∃ inline, config.options.Distinct ∧ Directive.parse value = .ok inline ∧
      (let settings := (config.resolve inline).settings
       settings.onlyUseImg = true ∧ settings.noLazy = true ∧ settings.sizes = [] ∧
        settings.quality = ⟨some 70, some 100, some 60, some 50⟩ ∧
        settings.resizeMembers.names = ["esModule", "cacheDir", "a"]) ∧
      (ofConfig config).resolved value = .ok (config.resolve inline) ∧
      Layered config inline (config.resolve inline) ∧
      ∀ (base : Converter) (options : Options),
        base.withConfig ⟨options, none, none, none⟩ = base.withOptions options := by
  intro options config value
  have hConfig : config.options.Distinct := ⟨List.nodup_nil, by decide⟩
  have hRun : (Directive.parse value).toOption.map (fun inline =>
      let settings := (config.resolve inline).settings
      (settings.onlyUseImg, settings.noLazy, settings.sizes, settings.quality,
        settings.resizeMembers.names)) =
      some (true, true, [], ⟨some 70, some 100, some 60, some 50⟩, ["esModule", "cacheDir", "a"]) := by
    decide +kernel
  obtain ⟨inline, hParse, hSettings⟩ := map_toOption_eq_some_iff.mp hRun
  simp only [Prod.mk.injEq] at hSettings
  exact ⟨inline, hConfig, hParse, hSettings,
    resolved_layered config value inline hConfig hParse⟩

end Converter

end ResponsiveImages
