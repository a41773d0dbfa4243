import ResponsiveImages.Proofs.Conversion.ParsedTemplates
import ResponsiveImages.Proofs.Markup.Escaping
import ResponsiveImages.Proofs.Markup.ScriptLiteral

/-! The two styles of a template. They differ only in how an import is written where it is used: as
a call with a literal for its path, or as a name that is declared with the same literal on a line of
its own. -/
namespace ResponsiveImages.Markup

/-- The import of an expression, and what is taken from it. -/
def Expression.import? : Expression → Option (ImportRef × String)
  | .raw _ => none
  | .module target => some (target, "")
  | .moduleDefault target => some (target, ".default")

theorem Expression.write_of_import? (style : ImportStyle) {expression : Expression}
    {target : ImportRef} {member : String} (h : expression.import? = some (target, member)) :
    expression.write style = style.write target ++ member := by
  cases expression <;> cases h
  · exact (String.append_empty).symm
  · rfl

/-- The start tag is written from its attributes. What stands between the quotes of this one ends at
the second quote, and stands for the script text. -/
def Tag.Binds (style : ImportStyle) (tag : Tag) (attr : Attribute) (script : String) : Prop :=
  tag.writeStart style =
      "<" ++ tag.name ++ String.join (tag.attrs.map (·.write style)) ++ tag.closing.startEnd ∧
    ∃ quoted : String, attr.write style = " :" ++ attr.name ++ "=\"" ++ quoted ++ "\"" ∧
      '"' ∉ quoted.toList ∧ unescape quoted.toList = script.toList

theorem Tag.binds {style : ImportStyle} {tag : Tag} {attr : Attribute} {expression : Expression}
    {target : ImportRef} {member : String} (hRaw : tag.raw = none)
    (hValue : attr.value = .bound expression)
    (hImport : expression.import? = some (target, member)) :
    tag.Binds style attr (style.write target ++ member) := by
  refine ⟨by rw [writeStart, hRaw], escape (style.write target ++ member), ?_,
    quote_not_mem_escape _, unescape_escape _⟩
  rw [Attribute.write, hValue, ← expression.write_of_import? style hImport]

theorem Tag.mem_targets {tag : Tag} {attr : Attribute} {expression : Expression}
    {target : ImportRef} {member : String} (hAttr : attr ∈ tag.attrs)
    (hValue : attr.value = .bound expression)
    (hImport : expression.import? = some (target, member)) : target ∈ tag.targets := by
  refine List.mem_filterMap.mpr ⟨attr, hAttr, ?_⟩
  rw [hValue]
  cases expression <;> cases hImport <;> rfl

/-- The text has exactly these lines, each one with a line feed behind it. -/
def HasLines (text : String) (lines : List String) : Prop :=
  text = String.join (lines.map (· ++ "\n")) ∧ ∀ line ∈ lines, '\n' ∉ line.toList

theorem lineFeed_not_mem_toString (number : Nat) : '\n' ∉ (toString number).toList := by
  rw [Nat.toString_eq_repr, Nat.toList_repr]
  intro hMem
  exact absurd (Nat.isDigit_of_mem_toDigits (by decide) (by decide) hMem) (by decide)

/-- Imports with different numbers have different names. -/
theorem binding_injective {first second : Nat}
    (h : "_imports_" ++ toString first = "_imports_" ++ toString second) : first = second := by
  have hDigits := congrArg String.toList h
  rw [String.toList_append, String.toList_append, List.append_cancel_left_eq,
    Nat.toString_eq_repr, Nat.toString_eq_repr, Nat.toList_repr, Nat.toList_repr] at hDigits
  have hNumber := congrArg (Nat.ofDigitChars 10 · 0) hDigits
  simpa using hNumber

/-- There is one line for each import, in the order of the numbers. -/
theorem preamble_hasLines (imports : Imports) :
    HasLines (preamble .hoisted imports) (imports.paths.mapIdx fun index path =>
      "import _imports_" ++ toString index ++ " from " ++ literal path) := by
  constructor
  · have hLines : (imports.paths.mapIdx fun index path => declaration ⟨index, path⟩) =
        (imports.paths.mapIdx fun index path =>
          "import _imports_" ++ toString index ++ " from " ++ literal path).map (· ++ "\n") := by
      apply List.ext_getElem?
      intro index
      cases hPath : imports.paths[index]? with
      | none => simp [hPath]
      | some path =>
          rw [List.getElem?_map, List.getElem?_mapIdx, List.getElem?_mapIdx, hPath]
          simp [declaration, ImportRef.binding, ← String.toList_inj]
    rw [← hLines]
    rfl
  · intro line hLine
    obtain ⟨index, hIndex, rfl⟩ := List.mem_mapIdx.mp hLine
    have hNumber := lineFeed_not_mem_toString index
    simp only [String.toList_append, List.mem_append, not_or]
    exact ⟨⟨⟨by decide, hNumber⟩, by decide⟩, lineFeed_not_mem_literal _⟩

end ResponsiveImages.Markup

namespace ResponsiveImages.Template

open Markup (HasLines ImportStyle elementsAll literal parse readLiteral writeAll)

/-- The style decides about the markup only, once a template was read and visited. -/
theorem compile_of_visit {converter : Converter} {source : String} {nodes : List Markup.Node}
    {summary : Summary} (style : ImportStyle) (hParse : parse source = .ok nodes)
    (hSummary : (converter.visitAll Imports.empty nodes).result = .ok summary) :
    (compile converter style source).value =
      .ok ⟨writeAll style (converter.visitAll Imports.empty nodes).left,
        (converter.visitAll Imports.empty nodes).imports, style, summary⟩ := by
  simp [compile, hParse, hSummary]

/-- Two compiled templates, one in each style, are written from the same nodes and refer to the same
modules. Wherever an attribute refers to an import, the call and the name stand for the same path,
and the name is the one that is declared for this path. -/
structure SameModules (nodes : List Markup.Node) (required hoisted : Compiled) : Prop where
  imports : required.imports = hoisted.imports
  summary : required.summary = hoisted.summary
  required_markup : required.markup = writeAll .require nodes
  hoisted_markup : hoisted.markup = writeAll .hoisted nodes
  references : ∀ element ∈ elementsAll nodes, ∀ attr ∈ element.tag.attrs,
    ∀ expression target member, attr.value = .bound expression →
      expression.import? = some (target, member) →
        hoisted.imports.paths[target.index]? = some target.path ∧
        element.tag.Binds .require attr ("require(" ++ literal target.path ++ ")" ++ member) ∧
        element.tag.Binds .hoisted attr ("_imports_" ++ toString target.index ++ member)
  /-- Every path can be read from its literal, in calls and in declarations. -/
  literals : ∀ path : String, readLiteral (literal path).toList = some (path.toList, [])
  /-- There is one line for each import, in the order of the numbers. -/
  declarations : HasLines hoisted.preamble (hoisted.imports.paths.mapIdx fun index path =>
    "import _imports_" ++ toString index ++ " from " ++ literal path)
  /-- No name is declared twice. -/
  names : ((List.range hoisted.imports.size).map fun index =>
    "_imports_" ++ toString index).Nodup

/-- A template that compiles in one style does so in the other, and both refer to the same modules,
whatever characters there are in their paths. -/
theorem compile_styles (converter : Converter) (style : ImportStyle) (source : String)
    (compiled : Compiled) (h : (compile converter style source).value = .ok compiled) :
    ∃ read required hoisted, parse source = .ok read ∧
      (compile converter .require source).value = .ok required ∧
      (compile converter .hoisted source).value = .ok hoisted ∧
      SameModules (converter.visitAll Imports.empty read).left required hoisted := by
  obtain ⟨read, hParse, hSummary, -⟩ := compile_eq_ok h
  obtain ⟨hImports, hTargets, hRaw⟩ :=
    Converter.visitAll_targets (Markup.targetsAll_parse hParse) hSummary
  refine ⟨read, _, _, hParse, compile_of_visit .require hParse hSummary,
    compile_of_visit .hoisted hParse hSummary, rfl, rfl, rfl, rfl, ?_, fun path => ?_,
    Markup.preamble_hasLines _, ?_⟩
  · intro element hElement attr hAttr expression target member hValue hImport
    have hTarget := Markup.Tag.mem_targets hAttr hValue hImport
    have hUnwritten := hRaw element hElement (List.ne_nil_of_mem hTarget)
    refine ⟨?_, Markup.Tag.binds hUnwritten hValue hImport,
      Markup.Tag.binds hUnwritten hValue hImport⟩
    have hMem := hTargets.mem_iff.mp (List.mem_flatMap.mpr ⟨element, hElement, hTarget⟩)
    have hHolds := Imports.holds_references _ _ target hMem
    rwa [← hImports] at hHolds
  · simpa using Markup.readLiteral_literal path []
  · exact List.Pairwise.map _ (fun _ _ hNe => mt Markup.binding_injective hNe) List.nodup_range

/-- Quotes, brackets, ends of lines and backslashes in the paths, and a source that two images
share. -/
theorem compile_styles_hostile :
    let converter := Converter.ofConfig { Config.empty with
      compress := some fun path _ _ => "it's \\ \"\n\r<&>" ++ path
      srcset := some fun path _ _ => "');//" ++ path }
    let source := "<img src='a.png' modernize><p><img src=\"a.png\" modernize=onlyUseImg></p>"
    ∃ compiled, (compile converter .require source).value = .ok compiled ∧
      ∃ read required hoisted, parse source = .ok read ∧
        (compile converter .require source).value = .ok required ∧
        (compile converter .hoisted source).value = .ok hoisted ∧
        SameModules (converter.visitAll Imports.empty read).left required hoisted := by
  intro converter source
  obtain ⟨compiled, hCompiled⟩ := isOk_iff.mp
    (by decide +kernel : (compile converter .require source).value.isOk = true)
  exact ⟨compiled, hCompiled, compile_styles converter .require source compiled hCompiled⟩

end ResponsiveImages.Template
