import ResponsiveImages.Config.Load
import ResponsiveImages.Proofs.Results
import ResponsiveImages.Proofs.Toml.Statements

/-! The fields of a configuration and the members of a document that they come from. Each member
decides one field, or none if its name is not known, so that the fields can be told one by one. -/
namespace ResponsiveImages.Config

namespace Field

/-- What a field holds. -/
def Value : Field → Type
  | compressOnly => Bool
  | onlyUseImg => Bool
  | noLazy => Bool
  | attributeName => String
  | imageFormats => List SourceFormat
  | sizes => List String
  | quality => Quality
  | imageSrcsetLoaderOptions => Members
  | imageResizeLoaderOptions => Members

def decode : (field : Field) → Datum → Except Mismatch field.Value
  | compressOnly => decodeBoolean
  | onlyUseImg => decodeBoolean
  | noLazy => decodeBoolean
  | attributeName => decodeString
  | imageFormats => decodeList decodeFormat
  | sizes => decodeList decodeString
  | quality => decodeQuality
  | imageSrcsetLoaderOptions => decodeMembers
  | imageResizeLoaderOptions => decodeMembers

theorem ofName?_eq_some_iff {name : String} {field : Field} :
    ofName? name = some field ↔ name = field.name := by
  constructor
  · intro h
    have hSame := List.find?_some h
    exact (beq_iff_eq.mp hSame).symm
  · rintro rfl
    cases field <;> decide

/-- The names that have a meaning. -/
theorem ofName?_eq_none_iff {name : String} : ofName? name = none ↔ name ∉ all.map Field.name := by
  simp [ofName?]

end Field

def value? (config : Config) : (field : Field) → Option field.Value
  | .compressOnly => config.options.compressOnly
  | .onlyUseImg => config.options.onlyUseImg
  | .noLazy => config.options.noLazy
  | .attributeName => config.attributeName
  | .imageFormats => config.options.imageFormats
  | .sizes => config.options.sizes
  | .quality => config.options.quality
  | .imageSrcsetLoaderOptions => config.options.srcsetMembers
  | .imageResizeLoaderOptions => config.options.resizeMembers

/-- A member that is taken decides the field that it names, and nothing else. -/
theorem setField_eq_ok {config later : Config} {field : Field} {datum : Datum}
    (h : setField config field datum = .ok later) :
    decodeOptional field.decode datum = .ok (later.value? field) ∧
      (∀ other, other ≠ field → later.value? other = config.value? other) ∧
      later.compress = config.compress ∧ later.srcset = config.srcset := by
  cases field <;>
  · obtain ⟨value, hValue, rfl⟩ := map_eq_ok.mp h
    refine ⟨hValue, fun other hOther => ?_, rfl, rfl⟩
    cases other <;> first | rfl | exact absurd rfl hOther

theorem setMember_of_unknown {config : Config} {member : String × Datum}
    (h : Field.ofName? member.1 = none) : setMember config member = .ok config := by
  rw [setMember, h]

theorem setMember_of_name (config : Config) (field : Field) (datum : Datum) :
    setMember config (field.name, datum) = setField config field datum := by
  rw [setMember, Field.ofName?_eq_some_iff.mpr rfl]

/-- A member with another name leaves a field as it is. -/
theorem value?_setMember {config later : Config} {member : String × Datum} {field : Field}
    (h : setMember config member = .ok later) (hOther : member.1 ≠ field.name) :
    later.value? field = config.value? field := by
  cases hField : Field.ofName? member.1 with
  | none =>
      rw [setMember_of_unknown hField] at h
      cases h
      rfl
  | some other =>
      rw [setMember, hField] at h
      refine (setField_eq_ok h).2.1 field ?_
      rintro rfl
      exact hOther (Field.ofName?_eq_some_iff.mp hField)

theorem value?_setMembers {config later : Config} {members : List (String × Datum)}
    {field : Field} (h : members.foldlM setMember config = .ok later)
    (hOther : field.name ∉ members.map Prod.fst) : later.value? field = config.value? field := by
  induction members generalizing config with
  | nil =>
      cases h
      rfl
  | cons member members ih =>
      rw [List.foldlM_cons] at h
      obtain ⟨middle, hFirst, hRest⟩ := bind_eq_ok.mp h
      obtain ⟨hName, hNames⟩ := not_or.mp (mt List.mem_cons.mpr hOther)
      rw [ih hRest hNames, value?_setMember hFirst (Ne.symm hName)]

/-- The field of a member holds what the member says. -/
theorem value?_ofMembers {config : Config} {members : List (String × Datum)}
    (h : ofMembers members = .ok config) (hNodup : (members.map Prod.fst).Nodup) {field : Field}
    {datum : Datum} (hMember : (field.name, datum) ∈ members) :
    decodeOptional field.decode datum = .ok (config.value? field) := by
  obtain ⟨before, after, rfl⟩ := List.append_of_mem hMember
  rw [ofMembers, List.foldlM_append] at h
  obtain ⟨first, -, hRest⟩ := bind_eq_ok.mp h
  rw [List.foldlM_cons, setMember_of_name] at hRest
  obtain ⟨middle, hSet, hAfter⟩ := bind_eq_ok.mp hRest
  rw [List.map_append, List.map_cons] at hNodup
  have hNew := (List.nodup_cons.mp (List.nodup_append.mp hNodup).2.1).1
  rw [(setField_eq_ok hSet).1, value?_setMembers hAfter hNew]

/-- Rules for requests do not come out of documents. -/
theorem transformers_setMembers {config later : Config} {members : List (String × Datum)}
    (h : members.foldlM setMember config = .ok later) :
    later.compress = config.compress ∧ later.srcset = config.srcset := by
  induction members generalizing config with
  | nil =>
      cases h
      exact ⟨rfl, rfl⟩
  | cons member members ih =>
      rw [List.foldlM_cons] at h
      obtain ⟨middle, hFirst, hRest⟩ := bind_eq_ok.mp h
      rw [(ih hRest).1, (ih hRest).2]
      unfold setMember at hFirst
      split at hFirst
      · exact (setField_eq_ok hFirst).2.2
      · cases hFirst
        exact ⟨rfl, rfl⟩

/-- The configuration that members give, unless one of them is refused or a quality is out of
range. -/
def accept (members : List (String × Datum)) : Except LoadError Config := do
  let config ← (ofMembers members).mapError LoadError.mismatch
  (config.validate).mapError LoadError.quality
  return config

theorem accept_eq_ok_iff {members : List (String × Datum)} {config : Config} :
    accept members = .ok config ↔ ofMembers members = .ok config ∧ config.validate = .ok () := by
  rw [accept, bind_eq_ok]
  constructor
  · rintro ⟨middle, hMembers, hRest⟩
    obtain ⟨_, hValid, hSame⟩ := bind_eq_ok.mp hRest
    cases hSame
    exact ⟨mapError_eq_ok.mp hMembers, mapError_eq_ok.mp hValid⟩
  · rintro ⟨hMembers, hValid⟩
    refine ⟨config, mapError_eq_ok.mpr hMembers, ?_⟩
    rw [hValid]
    rfl

/-- The members are refused one by one, and only then the range of the qualities counts. -/
theorem accept_eq_error_iff {members : List (String × Datum)} {error : LoadError} :
    accept members = .error error ↔
      (∃ cause, ofMembers members = .error cause ∧ error = .mismatch cause) ∨
        ∃ config excess, ofMembers members = .ok config ∧ config.validate = .error excess ∧
          error = .quality excess := by
  rw [accept]
  cases ofMembers members with
  | error cause => simp [mapError_error, bind, Except.bind, eq_comm]
  | ok config =>
      cases hValid : config.validate with
      | error excess => simp [mapError_ok, mapError_error, hValid, bind, Except.bind, eq_comm]
      | ok => simp [mapError_ok, hValid, bind, Except.bind, pure, Except.pure]

/-- A document that is accepted is reported on, if it has names that mean nothing. -/
theorem ofText_of_parse {text : String} {entries : List (String × Toml.Value)}
    (h : Toml.parse text = some entries) :
    ofText text =
      let members := Datum.entriesOfToml entries
      ⟨accept members,
        match accept members with
        | .ok _ => unknownEvents fileName (unknownNames members)
        | .error _ => []⟩ := by
  rw [ofText, read, h]
  simp only [accept]
  cases ofMembers (Datum.entriesOfToml entries) with
  | error error => rfl
  | ok config =>
      cases hValid : config.validate with
      | error error => simp [mapError_ok, mapError_error, hValid, bind, Except.bind]
      | ok => simp [mapError_ok, hValid, bind, Except.bind, pure, Except.pure]

theorem entriesOfToml_eq_map (entries : List (String × Toml.Value)) :
    Datum.entriesOfToml entries = entries.map fun entry => (entry.1, .ofToml entry.2) := by
  induction entries with
  | nil => rfl
  | cons entry entries ih => rw [Datum.entriesOfToml, ih, List.map_cons]

theorem names_entriesOfToml (entries : List (String × Toml.Value)) :
    (Datum.entriesOfToml entries).map Prod.fst = entries.map Prod.fst := by
  rw [entriesOfToml_eq_map, List.map_map]
  rfl

/-- Every value of a document is there, so that nothing is left open by a value. -/
theorem decodeOptional_ofToml {α : Type} (decode : Datum → Except Mismatch α)
    (value : Toml.Value) :
    decodeOptional decode (.ofToml value) = (decode (.ofToml value)).map some := by
  cases value with
  | float number => cases number <;> rfl
  | _ => rfl

/-- What a text is accepted for: its entries decide the fields. -/
theorem value?_of_ofText (field : Field) {text : String} {entries : List (String × Toml.Value)}
    {config : Config} (hText : Toml.parse text = some entries)
    (hValue : (ofText text).value = .ok config) {value : Toml.Value}
    (hEntry : (field.name, value) ∈ entries) :
    ∃ decoded, field.decode (.ofToml value) = .ok decoded ∧ config.value? field = some decoded := by
  rw [ofText_of_parse hText] at hValue
  have hMember : (field.name, .ofToml value) ∈ Datum.entriesOfToml entries := by
    rw [entriesOfToml_eq_map]
    exact List.mem_map.mpr ⟨_, hEntry, rfl⟩
  have hNodup : ((Datum.entriesOfToml entries).map Prod.fst).Nodup := by
    rw [names_entriesOfToml]
    exact Toml.nodup_of_parse hText
  have hDecoded := value?_ofMembers (accept_eq_ok_iff.mp hValue).1 hNodup hMember
  rw [decodeOptional_ofToml] at hDecoded
  obtain ⟨decoded, hDecode, hSome⟩ := map_eq_ok.mp hDecoded
  exact ⟨decoded, hDecode, hSome.symm⟩

/-- Texts that are no documents are never accepted. -/
theorem exists_parse_of_ofText {text : String} {config : Config}
    (h : (ofText text).value = .ok config) : ∃ entries, Toml.parse text = some entries := by
  cases hText : Toml.parse text with
  | some entries => exact ⟨entries, rfl⟩
  | none =>
      rw [ofText, read, hText] at h
      cases h

end ResponsiveImages.Config
