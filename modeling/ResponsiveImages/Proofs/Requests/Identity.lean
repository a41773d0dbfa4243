import ResponsiveImages.Proofs.Requests.Options
import ResponsiveImages.Proofs.Requests.Settings

/-! What a request shows. The objects in it end where they end whatever stands around them, so that
the image and its options can be told from the request alone. -/
namespace ResponsiveImages

theorem Format.mediaType_injective {left right : Format} (h : left.mediaType = right.mediaType) :
    left = right := by
  have hFormat := ofMediaType?_mediaType left
  rw [h, ofMediaType?_mediaType] at hFormat
  exact (Option.some.inj hFormat).symm

theorem Format.name_injective {left right : Format} (h : left.name = right.name) :
    left = right := by
  have hFormat := ofName?_name left
  rw [h, ofName?_name] at hFormat
  exact (Option.some.inj hFormat).symm

namespace LoaderRequest

theorem isCanonical_namedMembers (format? : Option Format) (quality? : Option Nat) :
    (namedMembers format? quality?).IsCanonical := by
  intro member hMember
  rcases List.mem_append.mp hMember with hFormat | hQuality
  · cases format? with
    | none => cases hFormat
    | some format =>
        cases List.mem_singleton.mp hFormat
        exact .string _
  · cases quality? with
    | none => cases hQuality
    | some value =>
        cases List.mem_singleton.mp hQuality
        exact .number trivial

theorem isCanonical_resizeMembers {settings : Settings} (h : settings.IsCanonical) (path : String)
    (format : Option Format) : (resizeMembers path settings format).IsCanonical := by
  rw [resizeMembers_eq]
  exact (isCanonical_namedMembers _ _).merge h.resizeMembers

theorem isCanonical_srcsetMembers {settings : Settings} (h : settings.IsCanonical) :
    (srcsetMembers settings).IsCanonical := by
  refine Members.IsCanonical.merge (List.forall_mem_singleton.mpr (.array ?_)) h.srcsetMembers
  exact List.forall_mem_map.mpr fun size _ => .string size

theorem stopsNumber_mark (rest : List Char) : Json.StopsNumber ('!' :: rest) :=
  Json.stopsNumber_cons (by decide) rest

/-- What stands behind the name of a loader is its options and what it is applied to. -/
theorem behindLoader_inj {loader : String} {members others : Members} {rest otherRest : String}
    (h : members.IsCanonical) (hOthers : others.IsCanonical)
    (hText : behindLoader loader members rest = behindLoader loader others otherRest) :
    members = others ∧ rest = otherRest := by
  have hChars := congrArg String.toList hText
  simp only [behindLoader, String.toList_append, List.append_assoc, List.append_cancel_left_eq,
    Json.text, String.toList_ofList] at hChars
  obtain ⟨hObject, hEnd⟩ := Json.isBounded_chars (.object h) _ (.object hOthers) _ _
    (stopsNumber_mark rest.toList) (stopsNumber_mark otherRest.toList) hChars
  exact ⟨Json.object.inj hObject, String.toList_inj.mp (List.cons.inj hEnd).2⟩

/-- The two kinds of requests begin with different loaders, which have names of one length. -/
theorem compress_ne_srcset (path other : String) (settings otherSettings : Settings)
    (format otherFormat : Option Format) :
    compress path settings format ≠ srcset other otherSettings otherFormat := by
  intro hText
  have hChars := congrArg String.toList ((String.append_right_inj _).mp hText)
  simp only [behindLoader, String.toList_append, List.append_assoc] at hChars
  have hLoaders := (List.append_inj hChars (by decide)).1
  exact absurd hLoaders (by decide)

section Requests

variable {path other : String} {settings otherSettings : Settings}
  {format otherFormat : Option Format} (h : settings.IsCanonical)
  (hOther : otherSettings.IsCanonical)

include h hOther

theorem compress_inj
    (hText : compress path settings format = compress other otherSettings otherFormat) :
    path = other ∧
      resizeMembers path settings format = resizeMembers other otherSettings otherFormat := by
  obtain ⟨hMembers, hPath⟩ := behindLoader_inj (isCanonical_resizeMembers h path format)
    (isCanonical_resizeMembers hOther other otherFormat) ((String.append_right_inj _).mp hText)
  exact ⟨hPath, hMembers⟩

theorem srcset_inj
    (hText : srcset path settings format = srcset other otherSettings otherFormat) :
    path = other ∧ srcsetMembers settings = srcsetMembers otherSettings ∧
      resizeMembers path settings format = resizeMembers other otherSettings otherFormat := by
  obtain ⟨hSrcset, hRest⟩ := behindLoader_inj (isCanonical_srcsetMembers h)
    (isCanonical_srcsetMembers hOther) ((String.append_right_inj _).mp hText)
  obtain ⟨hMembers, hPath⟩ := behindLoader_inj (isCanonical_resizeMembers h path format)
    (isCanonical_resizeMembers hOther other otherFormat) hRest
  exact ⟨hPath, hSrcset, hMembers⟩

end Requests

theorem namesFormat_none {path : String} {target : Format} :
    NamesFormat path none target ↔ MediaType.ofPath? path = some target.mediaType := by
  simp [NamesFormat, Targets]

theorem namesFormat_some {path : String} {format target : Format} :
    NamesFormat path (some format) target ↔
      format = target ∧ MediaType.ofPath? path ≠ some format.mediaType := by
  simp only [NamesFormat, Targets, Option.some.injEq, reduceCtorEq, false_and, or_false, false_or]
  exact and_congr_right fun hSame => by rw [hSame]

/-- The format that a request is for can be told from the one that is named in it, if any is. -/
theorem namedFormat?_injective {path : String} {format otherFormat : Option Format}
    (h : namedFormat? path format = namedFormat? path otherFormat) : format = otherFormat := by
  have hNames (target : Format) :
      NamesFormat path format target ↔ NamesFormat path otherFormat target := by
    rw [← namedFormat?_eq_some_iff, ← namedFormat?_eq_some_iff, h]
  cases format with
  | none =>
      cases otherFormat with
      | none => rfl
      | some other =>
          -- The format of the image is named when none is asked for, and only then.
          have hOther := hNames other
          simp [namesFormat_none, namesFormat_some] at hOther
  | some format =>
      cases otherFormat with
      | none =>
          have hFormat := hNames format
          simp [namesFormat_none, namesFormat_some] at hFormat
      | some other =>
          by_contra hDifferent
          have hFormats : format ≠ other := fun hSame => hDifferent (congrArg some hSame)
          have hFormat := hNames format
          have hOther := hNames other
          simp only [namesFormat_some, true_and, hFormats, hFormats.symm, false_and, iff_false,
            false_iff, not_not] at hFormat hOther
          exact hFormats (Format.mediaType_injective (Option.some.inj (hFormat.symm.trans hOther)))

/-- Where the settings name no format, the options show which one the request is for. -/
theorem format_eq_of_resizeMembers {settings : Settings}
    (h : settings.resizeMembers.get? "format" = none) {path : String}
    {format otherFormat : Option Format}
    (hMembers : resizeMembers path settings format = resizeMembers path settings otherFormat) :
    format = otherFormat := by
  have hNamed := congrArg (Members.get? · "format") hMembers
  simp only [resizeMembers_eq, Members.get?_merge_of_none h, get?_format_namedMembers] at hNamed
  have hName : Function.Injective fun format : Format => Json.string format.name := fun _ _ hSame =>
    Format.name_injective (Json.string.inj hSame)
  exact namedFormat?_injective (Option.map_injective hName hNamed)

/-- Where the settings name no format, requests in different formats are different. -/
theorem requests_ne_of_formats {path : String} {settings : Settings}
    {format otherFormat : Option Format} (h : settings.IsCanonical)
    (hNone : settings.resizeMembers.get? "format" = none) (hFormats : format ≠ otherFormat) :
    compress path settings format ≠ compress path settings otherFormat ∧
      srcset path settings format ≠ srcset path settings otherFormat := by
  constructor
  · intro hText
    exact hFormats (format_eq_of_resizeMembers hNone (compress_inj h h hText).2)
  · intro hText
    exact hFormats (format_eq_of_resizeMembers hNone (srcset_inj h h hText).2.2)

/-- Requests are equal only if they are for one image, with equal options for every loader, and of
one kind. For one image and settings that name no format, the formats are equal as well. -/
theorem requests_unambiguous (path other : String) (settings otherSettings : Settings)
    (format otherFormat : Option Format) (h : settings.IsCanonical)
    (hOther : otherSettings.IsCanonical) :
    (compress path settings format = compress other otherSettings otherFormat →
        path = other ∧
          resizeMembers path settings format = resizeMembers other otherSettings otherFormat) ∧
      (srcset path settings format = srcset other otherSettings otherFormat →
        path = other ∧ srcsetMembers settings = srcsetMembers otherSettings ∧
          resizeMembers path settings format = resizeMembers other otherSettings otherFormat) ∧
      compress path settings format ≠ srcset other otherSettings otherFormat ∧
      (settings.resizeMembers.get? "format" = none → format ≠ otherFormat →
        compress path settings format ≠ compress path settings otherFormat ∧
          srcset path settings format ≠ srcset path settings otherFormat) := by
  have hKinds := compress_ne_srcset path other settings otherSettings format otherFormat
  exact ⟨compress_inj h hOther, srcset_inj h hOther, hKinds, requests_ne_of_formats h⟩

/-- The marks of a request stand in the path and in the options, and one option is not whole. -/
theorem requests_unambiguous_marked :
    let path := "./a!?\x7b\"b\"\x7d!.png"
    let settings :=
      { Settings.default with
        sizes := ["!", "\"", "\x7d!./a.png"]
        srcsetMembers := [("?", .object [("!", .string "\x7d!\\")])]
        resizeMembers := [("scale", .number (.double ⟨true, ⟨3 * 2 ^ 51, 1022⟩⟩))] }
    let other := { settings with onlyUseImg := true }
    (settings.IsCanonical ∧ other.IsCanonical) ∧
      srcset path settings none = srcset path other none ∧
      srcsetMembers settings = srcsetMembers other ∧
      compress path settings none ≠ srcset path other none ∧
      compress path settings none ≠ compress path settings (some .png) := by
  intro path settings other
  have hDouble : Number.IsCanonical (.double ⟨true, ⟨3 * 2 ^ 51, 1022⟩⟩) :=
    show Decimal.Magnitude.IsCanonical _ by decide
  have hSrcset : settings.srcsetMembers.IsCanonical :=
    List.forall_mem_singleton.mpr (.object (List.forall_mem_singleton.mpr (.string _)))
  have hSettings : settings.IsCanonical :=
    ⟨hSrcset, List.forall_mem_singleton.mpr (.number hDouble)⟩
  have hOther : other.IsCanonical := ⟨hSettings.srcsetMembers, hSettings.resizeMembers⟩
  have hSame : srcset path settings none = srcset path other none := rfl
  have hNone : settings.resizeMembers.get? "format" = none := rfl
  obtain ⟨-, hSrcsets, hKinds, -⟩ :=
    requests_unambiguous path path settings other none none hSettings hOther
  obtain ⟨-, -, -, hFormats⟩ :=
    requests_unambiguous path path settings settings none (some .png) hSettings hSettings
  exact ⟨⟨hSettings, hOther⟩, hSame, (hSrcsets hSame).2.1, hKinds, (hFormats hNone (by decide)).1⟩

/-- Two directives lead to one request exactly if they are for one image and come to equal options
for every loader. One of them that names no format has a request of its own for each format. -/
theorem requests_of_directives {config otherConfig : Config} (h : config.options.IsCanonical)
    (hOther : otherConfig.options.IsCanonical) {value otherValue : String}
    {settings otherSettings : Settings}
    (hSettings : (Converter.ofConfig config).resolve value = .ok settings)
    (hOtherSettings : (Converter.ofConfig otherConfig).resolve otherValue = .ok otherSettings)
    (path other : String) (format otherFormat : Option Format) :
    (compress path settings format = compress other otherSettings otherFormat ↔
        path = other ∧
          resizeMembers path settings format = resizeMembers other otherSettings otherFormat) ∧
      (srcset path settings format = srcset other otherSettings otherFormat ↔
        path = other ∧ srcsetMembers settings = srcsetMembers otherSettings ∧
          resizeMembers path settings format = resizeMembers other otherSettings otherFormat) ∧
      (settings.resizeMembers.get? "format" = none → format ≠ otherFormat →
        compress path settings format ≠ compress path settings otherFormat ∧
          srcset path settings format ≠ srcset path settings otherFormat) := by
  have hCanonical : settings.IsCanonical :=
    Converter.isCanonical_of_resolve (Converter.isCanonical_ofConfig h) hSettings
  have hOtherCanonical : otherSettings.IsCanonical :=
    Converter.isCanonical_of_resolve (Converter.isCanonical_ofConfig hOther) hOtherSettings
  refine ⟨⟨compress_inj hCanonical hOtherCanonical, ?_⟩,
    ⟨srcset_inj hCanonical hOtherCanonical, ?_⟩, requests_ne_of_formats hCanonical⟩
  · rintro ⟨rfl, hResize⟩
    rw [compress, compress, hResize]
  · rintro ⟨rfl, hSrcset, hResize⟩
    rw [srcset, srcset, hSrcset, hResize]

end LoaderRequest

end ResponsiveImages
