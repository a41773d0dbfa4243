import ResponsiveImages.Conversion.Converter
import ResponsiveImages.Proofs.Directive.Grammar
import ResponsiveImages.Proofs.Json.CanonicalValues

/-! Settings in which all numbers are in the form in which they are kept. What a directive says
keeps them so, since the payloads are read into that form. -/
namespace ResponsiveImages

/-- All numbers in the further members for the loaders are in the form in which they are kept. There
is one such form for every number, so that no settings are left out but second copies. -/
structure Settings.IsCanonical (settings : Settings) : Prop where
  srcsetMembers : settings.srcsetMembers.IsCanonical
  resizeMembers : settings.resizeMembers.IsCanonical

/-- All numbers in the options are in the form in which they are kept. -/
structure Options.IsCanonical (options : Options) : Prop where
  srcsetMembers : ∀ members, options.srcsetMembers = some members → members.IsCanonical
  resizeMembers : ∀ members, options.resizeMembers = some members → members.IsCanonical

theorem Settings.isCanonical_default : Settings.default.IsCanonical :=
  ⟨List.forall_mem_nil _, List.forall_mem_nil _⟩

theorem Members.IsCanonical.merge_getD {base : Members} (hBase : base.IsCanonical)
    {layer? : Option Members} (hLayer : ∀ layer, layer? = some layer → layer.IsCanonical) :
    (base.merge (layer?.getD [])).IsCanonical := by
  cases layer? with
  | none => exact hBase
  | some layer => exact hBase.merge (hLayer layer rfl)

theorem Settings.IsCanonical.apply {settings : Settings} (h : settings.IsCanonical)
    {options : Options} (hOptions : options.IsCanonical) : (settings.apply options).IsCanonical :=
  ⟨h.srcsetMembers.merge_getD hOptions.srcsetMembers,
    h.resizeMembers.merge_getD hOptions.resizeMembers⟩

namespace Directive

open Json.Reader (Yields readAll)

theorem yields_memberTable : Yields memberTable Members.IsCanonical := by
  intro cs read rest hRead
  obtain ⟨⟨entries, behind⟩, hEntries, hSame⟩ := bind_eq_ok.mp hRead
  cases hSame
  have hMembers := Json.Reader.yields_members _ (Json.Reader.yields_value _) _ _ _ hEntries
  exact Members.isCanonical_ofList hMembers

theorem isCanonical_of_readAll {payload : List Char} {members : Members}
    (h : readAll memberTable payload = .ok members) : members.IsCanonical := by
  obtain ⟨⟨read, behind⟩, hRead, hEnd⟩ := bind_eq_ok.mp h
  dsimp only at hEnd
  split at hEnd
  · cases hEnd
    exact yields_memberTable _ _ _ hRead
  · cases hEnd

theorem isCanonical_of_parse {value : String} {options : Options}
    (h : parse value = .ok options) : options.IsCanonical := by
  obtain ⟨-, -, hValues, -⟩ := parse_eq_ok_iff.mp h
  obtain ⟨_, _, _, _, _, _, srcsetMembers, resizeMembers⟩ := options
  refine ⟨fun members hMembers => ?_, fun members hMembers => ?_⟩
  · cases hMembers
    cases hValues .imageSrcsetLoaderOptions with
    | payload hTakes hRead => exact isCanonical_of_readAll hRead
  · cases hMembers
    cases hValues .imageResizeLoaderOptions with
    | payload hTakes hRead => exact isCanonical_of_readAll hRead

end Directive

/-- The settings of a converter are canonical if the options of its configuration are. -/
theorem Converter.isCanonical_ofConfig {config : Config} (h : config.options.IsCanonical) :
    (Converter.ofConfig config).settings.IsCanonical := by
  obtain ⟨hSrcset, hResize⟩ := Settings.isCanonical_default.apply h
  exact ⟨hSrcset, hResize⟩

/-- The settings for every directive are canonical if those of the converter are. -/
theorem Converter.isCanonical_of_resolve {converter : Converter}
    (h : converter.settings.IsCanonical) {value : String} {settings : Settings}
    (hSettings : converter.resolve value = .ok settings) : settings.IsCanonical := by
  unfold resolve at hSettings
  split at hSettings
  · cases hSettings
    exact h
  · obtain ⟨options, hOptions, rfl⟩ := map_eq_ok.mp hSettings
    exact h.apply (Directive.isCanonical_of_parse hOptions)

end ResponsiveImages
