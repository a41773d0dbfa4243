import ResponsiveImages.Proofs.Config.Fields

/-! Names in a configuration file that mean nothing. A document with such names gives what it would
give without them, and the names are reported. The options for the loaders may have any names. -/
namespace ResponsiveImages.Config

/-- The names that a configuration file can use. -/
def documentedNames : List String :=
  ["compressOnly", "onlyUseImg", "noLazy", "attributeName", "imageFormats", "sizes", "quality",
    "imageSrcsetLoaderOptions", "imageResizeLoaderOptions"]

def isDocumented (name : String) : Bool :=
  documentedNames.contains name

theorem isNone_ofName? (name : String) : (Field.ofName? name).isNone = !isDocumented name := by
  have hNames : documentedNames = Field.all.map Field.name := rfl
  rw [Bool.eq_iff_iff, Option.isNone_iff_eq_none, Field.ofName?_eq_none_iff, isDocumented, hNames]
  simp

/-- Members that mean nothing can be left out, and then the same one is the first to be refused. -/
theorem setMembers_filter (config : Config) (members : List (String × Datum)) :
    (members.filter (isDocumented ·.1)).foldlM setMember config =
      members.foldlM setMember config := by
  induction members generalizing config with
  | nil => rfl
  | cons member members ih =>
      rw [List.filter_cons]
      split
      · rw [List.foldlM_cons, List.foldlM_cons]
        exact congrArg _ (funext ih)
      · rename_i hUnknown
        have hName : Field.ofName? member.1 = none := by
          simpa [hUnknown] using isNone_ofName? member.1
        rw [List.foldlM_cons, setMember_of_unknown hName]
        exact ih config

theorem accept_filter (members : List (String × Datum)) :
    accept (members.filter (isDocumented ·.1)) = accept members := by
  rw [accept, accept, ofMembers, ofMembers, setMembers_filter]

theorem entriesOfToml_filter (entries : List (String × Toml.Value)) :
    Datum.entriesOfToml (entries.filter (isDocumented ·.1)) =
      (Datum.entriesOfToml entries).filter (isDocumented ·.1) := by
  simp only [entriesOfToml_eq_map, List.filter_map, Function.comp_def]

theorem unknownNames_eq (entries : List (String × Toml.Value)) :
    unknownNames (Datum.entriesOfToml entries) =
      (entries.map Prod.fst).filter (!isDocumented ·) := by
  rw [unknownNames, names_entriesOfToml]
  exact List.filter_congr fun name _ => isNone_ofName? name

theorem unknownNames_filter (members : List (String × Datum)) :
    unknownNames (members.filter (isDocumented ·.1)) = [] := by
  rw [unknownNames, List.filter_eq_nil_iff]
  intro name hName
  obtain ⟨member, hMember, rfl⟩ := List.mem_map.mp hName
  have hDocumented := (List.mem_filter.mp hMember).2
  rw [isNone_ofName?, hDocumented]
  exact Bool.false_ne_true

/-- Without the names that mean nothing a document gives the same, and nothing is reported. -/
theorem ofText_filter {text shorter : String} {entries : List (String × Toml.Value)}
    (hText : Toml.parse text = some entries)
    (hShorter : Toml.parse shorter = some (entries.filter (isDocumented ·.1))) :
    ofText shorter = ⟨(ofText text).value, []⟩ := by
  rw [ofText_of_parse hText, ofText_of_parse hShorter]
  simp only [entriesOfToml_filter, accept_filter, unknownNames_filter]
  cases accept (Datum.entriesOfToml entries) <;> rfl

/-- What is written about names that mean nothing. -/
def warning (names : List String) : String :=
  if names = [] then ""
  else Log.line "warning"
    ("unknown fields in modernize.toml, ignoring: " ++ String.intercalate ", " names)

/-- A warning is written whether or not details are asked for. -/
theorem write_unknownFields (verbose : Bool) (file : String) (names : List String) :
    Log.write verbose [.unknownFields file names] =
      Log.line "warning"
        ("unknown fields in " ++ file ++ ", ignoring: " ++ String.intercalate ", " names) := by
  rw [Log.write, List.filter_cons_of_pos (by simp [Event.isDetail]), List.filter_nil, List.map_cons,
    List.map_nil]
  simp only [String.join_cons, String.join_nil, String.append_empty]
  rfl

theorem write_unknownEvents (verbose : Bool) (names : List String) :
    Log.write verbose (unknownEvents fileName names) = warning names := by
  cases names with
  | nil => simp [Log.write, unknownEvents, warning]
  | cons name names =>
      have hMark : "unknown fields in " ++ fileName ++ ", ignoring: " =
          "unknown fields in modernize.toml, ignoring: " := by decide
      rw [unknownEvents, if_neg (by simp), write_unknownFields, hMark, warning, if_neg (by simp)]

theorem events_of_ok {text : String} {entries : List (String × Toml.Value)}
    (hText : Toml.parse text = some entries) {config : Config}
    (hValue : (ofText text).value = .ok config) :
    (ofText text).events =
      unknownEvents fileName ((entries.map Prod.fst).filter (!isDocumented ·)) := by
  rw [ofText_of_parse hText] at hValue ⊢
  have hAccept : accept (Datum.entriesOfToml entries) = .ok config := hValue
  simp only [hAccept, unknownNames_eq]

theorem events_of_error {text : String} {error : LoadError}
    (hValue : (ofText text).value = .error error) : (ofText text).events = [] := by
  unfold ofText at hValue ⊢
  split
  · rfl
  · rename_i hRead
    rw [hRead] at hValue
    cases hValue

/-- The options for a loader that a table gives: all of them, under their names. -/
def loaderOptions (table : List (String × Toml.Value)) : Members :=
  table.map fun entry => (entry.1, (Datum.ofToml entry.2).toJson)

theorem decodeMembers_table (table : List (String × Toml.Value)) :
    decodeMembers (.ofToml (.table table)) = .ok (loaderOptions table) := by
  have hMembers (members : List (String × Datum)) :
      Datum.membersToJson members = members.map fun member => (member.1, member.2.toJson) := by
    induction members with
    | nil => rfl
    | cons member members ih => rw [Datum.membersToJson, ih, List.map_cons]
  rw [Datum.ofToml, decodeMembers, hMembers, entriesOfToml_eq_map, loaderOptions, List.map_map]
  rfl

/-- No name is refused among the options for a loader, and none is left out. -/
theorem loaderOptions_of_ofText {text : String} {entries : List (String × Toml.Value)}
    (hText : Toml.parse text = some entries) {config : Config}
    (hValue : (ofText text).value = .ok config) (table : List (String × Toml.Value)) :
    (("imageSrcsetLoaderOptions", .table table) ∈ entries →
      config.options.srcsetMembers = some (loaderOptions table)) ∧
    (("imageResizeLoaderOptions", .table table) ∈ entries →
      config.options.resizeMembers = some (loaderOptions table)) := by
  constructor
  · intro hEntry
    obtain ⟨decoded, hDecoded, hField⟩ :=
      value?_of_ofText .imageSrcsetLoaderOptions hText hValue hEntry
    cases (decodeMembers_table table).symm.trans hDecoded
    exact hField
  · intro hEntry
    obtain ⟨decoded, hDecoded, hField⟩ :=
      value?_of_ofText .imageResizeLoaderOptions hText hValue hEntry
    cases (decodeMembers_table table).symm.trans hDecoded
    exact hField

/-- Names that are not documented are reported and mean nothing else. Every text that has the
statements of a document without those under such names reads as that document without their
entries, and such a text gives the same configuration or the same error, with nothing reported. What
is reported of an accepted document are exactly these names, each one once, in one line, or nothing
if there are none. Options for the loaders may have any names: none is refused or left out. -/
theorem ofText_ignores_unknown {text : String} {entries : List (String × Toml.Value)}
    (h : Toml.parse text = some entries) :
    let unknown := (entries.map Prod.fst).filter (!isDocumented ·)
    let documented := entries.filter (isDocumented ·.1)
    (∀ shorter, Toml.IsRestriction isDocumented text shorter →
      Toml.parse shorter = some documented) ∧
    (∀ shorter, Toml.parse shorter = some documented →
      ofText shorter = ⟨(ofText text).value, []⟩) ∧
    unknown.Nodup ∧
    (∀ config, (ofText text).value = .ok config →
      (ofText text).events =
        (if unknown = [] then [] else [.unknownFields "modernize.toml" unknown]) ∧
      (∀ verbose, Log.write verbose (ofText text).events = warning unknown) ∧
      ∀ table,
        (("imageSrcsetLoaderOptions", .table table) ∈ entries →
          config.options.srcsetMembers = some (loaderOptions table)) ∧
        (("imageResizeLoaderOptions", .table table) ∈ entries →
          config.options.resizeMembers = some (loaderOptions table))) ∧
    (∀ error, (ofText text).value = .error error → (ofText text).events = []) ∧
    ∀ table, decodeMembers (.ofToml (.table table)) = .ok (loaderOptions table) := by
  intro unknown documented
  refine ⟨fun shorter hShorter => hShorter.parse h, fun shorter => ofText_filter h,
    (Toml.nodup_of_parse h).filter _, fun config hConfig => ⟨?_, fun verbose => ?_,
      loaderOptions_of_ofText h hConfig⟩, fun error => events_of_error, decodeMembers_table⟩
  · rw [events_of_ok h hConfig, unknownEvents]
    simp only [List.isEmpty_iff]
    rfl
  · rw [events_of_ok h hConfig, write_unknownEvents]

/-- Unknown names around known ones: as a dotted key, in quotes, and as a table that was passed through
before. Among the options for a loader stands a name that would have a meaning at the top. -/
theorem ofText_ignores_unknown_nested :
    let text := "a.sizes = [1]\nnoLazy = true\n'b.c' = 2\n[d.e]\n" ++
      "[imageResizeLoaderOptions]\nsizes = 3\n[d]\n"
    let shorter := "noLazy = true\n[imageResizeLoaderOptions]\nsizes = 3\n"
    let entries : List (String × Toml.Value) :=
      [("a", .table [("sizes", .array [.integer 1])]), ("noLazy", .boolean true),
        ("b.c", .integer 2), ("imageResizeLoaderOptions", .table [("sizes", .integer 3)]),
        ("d", .table [("e", .table [])])]
    Toml.parse text = some entries ∧ Toml.IsRestriction isDocumented text shorter ∧
      Toml.parse shorter = some [("noLazy", .boolean true),
        ("imageResizeLoaderOptions", .table [("sizes", .integer 3)])] ∧
      ∃ config, ofText text = ⟨.ok config, [.unknownFields "modernize.toml" ["a", "b.c", "d"]]⟩ ∧
        ofText shorter = ⟨.ok config, []⟩ ∧
        config.options.resizeMembers = some [("sizes", .number (.int 3))] := by
  intro text shorter entries
  have hText : Toml.parse text = some entries := by decide +kernel
  have hShorter : Toml.IsRestriction isDocumented text shorter := by decide +kernel
  have hAccepts : (accept (Datum.entriesOfToml entries)).isOk = true := by decide +kernel
  have hUnknown : (entries.map Prod.fst).filter (!isDocumented ·) = ["a", "b.c", "d"] := by
    decide +kernel
  obtain ⟨config, hAccept⟩ := isOk_iff.mp hAccepts
  obtain ⟨hRestriction, hSame, -, hAccepted, -⟩ := ofText_ignores_unknown hText
  have hValue : (ofText text).value = .ok config := by
    rw [ofText_of_parse hText]
    exact hAccept
  have hParse := hRestriction shorter hShorter
  obtain ⟨hEvents, -, hOptions⟩ := hAccepted config hValue
  rw [hUnknown, if_neg (by simp)] at hEvents
  have hResize := (hOptions [("sizes", .integer 3)]).2 (by simp [entries])
  refine ⟨hText, hShorter, hParse, config, ?_, ?_, hResize⟩
  · rw [← hValue, ← hEvents]
  · rw [hSame shorter hParse, hValue]

end ResponsiveImages.Config
