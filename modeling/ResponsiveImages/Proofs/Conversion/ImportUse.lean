import ResponsiveImages.Proofs.Conversion.ParsedTemplates

/-! What the imports of a template are for. Each one was requested for a candidate, each reference
in the converted tree leads to the import that it names, and no import is without a reference. -/
namespace ResponsiveImages.Converter

open Markup (Attribute Element Node elementsAll parse targetsAll)

variable {converter : Converter}

/-- Every import was requested, the attribute that it was requested for refers to its path, and no
other import has that path. -/
theorem exists_target_of_lt {imports : Imports} {targets : List ImportRef}
    {requests : List String} (hImports : imports = Imports.empty.requestAll requests)
    (hTargets : targets.Perm (Imports.empty.references requests)) {index : Nat}
    (hIndex : index < imports.size) : ∃ target ∈ targets, target.index = index := by
  have hPath : imports.paths[index]? = some imports.paths[index] :=
    List.getElem?_eq_getElem hIndex
  have hRequested : imports.paths[index] ∈ requests := by
    rw [← List.mem_eraseDups, ← Imports.paths_requestAll_empty, ← hImports]
    exact List.getElem_mem hIndex
  rw [← Imports.map_path_references Imports.empty requests] at hRequested
  obtain ⟨target, hMem, hSame⟩ := List.mem_map.mp hRequested
  have hHolds : imports.Holds target :=
    hImports ▸ Imports.holds_references Imports.empty requests target hMem
  rw [Imports.Holds, hSame, ← hPath] at hHolds
  have hDistinct : imports.paths.Nodup :=
    hImports ▸ Imports.nodup_requestAll requests List.nodup_nil
  refine ⟨target, hTargets.mem_iff.mpr hMem, ?_⟩
  exact ((List.getElem?_inj hIndex hDistinct).mp hHolds.symm).symm

/-- Trees that were read refer to no imports, and a walk comes to all their elements. In a tree
without references that is converted with no imports at first, the imports are what the candidates
that the walk comes to request, each path once and in the order of the first requests. Every
reference in the converted tree leads to the import that it names, and every import is referred
to. -/
theorem visitAll_imports (converter : Converter) :
    (∀ source nodes, parse source = .ok nodes →
      targetsAll nodes = [] ∧ converter.metAll nodes = elementsAll nodes) ∧
    ∀ nodes summary, targetsAll nodes = [] →
      (converter.visitAll Imports.empty nodes).result = .ok summary →
      let visit := converter.visitAll Imports.empty nodes
      visit.imports.paths = (converter.requestsAll (converter.metAll nodes)).eraseDups ∧
        (∀ target ∈ targetsAll visit.left,
          visit.imports.paths[target.index]? = some target.path) ∧
        ∀ index < visit.imports.size, ∃ target ∈ targetsAll visit.left, target.index = index := by
  refine ⟨fun source nodes hParse => ⟨Markup.targetsAll_parse hParse, metAll_parse hParse⟩, ?_⟩
  intro nodes summary hNone hSummary visit
  obtain ⟨hImports, hTargets, -⟩ := visitAll_targets hNone hSummary
  refine ⟨?_, fun target hTarget => ?_, fun index hIndex => ?_⟩
  · rw [hImports, Imports.paths_requestAll_empty]
  · have hHolds := Imports.holds_references Imports.empty
      (converter.requestsAll (converter.metAll nodes)) target (hTargets.mem_iff.mp hTarget)
    rwa [← hImports] at hHolds
  · exact exists_target_of_lt hImports hTargets hIndex

/-- Two pictures with one source image, and an image in place that asks for no source set. -/
theorem visitAll_imports_shared :
    let converter := Converter.ofConfig Config.empty
    let source := "<p><img src='a.png' modernize><img src='a.png' modernize='noLazy'></p>" ++
      "<img modernize='compressOnly' src='a.png'>"
    ∃ nodes summary, parse source = .ok nodes ∧ targetsAll nodes = [] ∧
      (converter.visitAll Imports.empty nodes).result = .ok summary ∧
      let visit := converter.visitAll Imports.empty nodes
      visit.imports.paths = (converter.requestsAll (elementsAll nodes)).eraseDups ∧
        (∀ target ∈ targetsAll visit.left,
          visit.imports.paths[target.index]? = some target.path) ∧
        ∀ index < visit.imports.size, ∃ target ∈ targetsAll visit.left, target.index = index := by
  intro converter source
  obtain ⟨hTrees, hImports⟩ := visitAll_imports converter
  obtain ⟨nodes, hParse⟩ := isOk_iff.mp (by decide +kernel : (parse source).isOk = true)
  obtain ⟨hNone, hMet⟩ := hTrees source nodes hParse
  have hOk : (parse source).toOption.map
      (fun nodes => (converter.visitAll Imports.empty nodes).result.isOk) = some true := by
    decide +kernel
  rw [hParse] at hOk
  obtain ⟨summary, hSummary⟩ := isOk_iff.mp (Option.some.inj hOk)
  have hAll := hImports nodes summary hNone hSummary
  rw [hMet] at hAll
  exact ⟨nodes, summary, hParse, hNone, hSummary, hAll⟩

/-- A candidate that stands in an image which becomes a picture is dropped, and nothing is requested
for it. -/
theorem imports_ne_requests_nested :
    let config : Config :=
      { Config.empty with
        options := { Options.none with
          imageFormats := some [.named .webp]
          sizes := some ["1x"] }
        compress := some fun path settings format =>
          "compress:" ++ (format.map Format.name).getD "native" ++ ":" ++ settings.mode.label ++
            ":" ++ path
        srcset := some fun path settings format =>
          "srcset:" ++ (format.map Format.name).getD "native" ++ ":" ++
            String.intercalate "," settings.sizes ++ ":" ++ path }
    let converter := Converter.ofConfig config
    let inner : Node := .element
      ⟨"img", [⟨"src", .text "b.png", none⟩, ⟨"modernize", .text "compressOnly", none⟩],
        .endTag, none, none⟩ []
    let outer : Node := .element
      ⟨"img", [⟨"src", .text "a.png", none⟩, ⟨"modernize", .text "", none⟩],
        .endTag, none, none⟩ [inner]
    targetsAll [outer] = [] ∧ (converter.visitAll Imports.empty [outer]).result.isOk = true ∧
      (converter.visitAll Imports.empty [outer]).imports.paths ≠
        (converter.requestsAll (elementsAll [outer])).eraseDups := by
  decide +kernel

end ResponsiveImages.Converter
