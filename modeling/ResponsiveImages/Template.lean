import ResponsiveImages.FileSystem
import ResponsiveImages.Markup.Parser
import ResponsiveImages.Markup.Printer
import ResponsiveImages.Conversion.Walk

/-!
Templates compiled from markup to markup: read, converted and written again, with the imports that
the converted values refer to.
-/
namespace ResponsiveImages

open Markup (ImportStyle)

namespace Template

inductive CompileError where
  /-- The path leads to no readable text. -/
  | unreadable (path : String)
  | parse (error : Markup.ParseError)
  | element (error : WalkError)
  deriving DecidableEq, Repr

namespace CompileError

def message : CompileError → String
  | unreadable path => FileSystem.unreadableMessage path
  | parse error => error.message
  | element error => error.message

end CompileError

structure Compiled where
  markup : String
  /-- The imports, in the order of their numbers. -/
  imports : Imports
  style : ImportStyle
  summary : Summary
  deriving DecidableEq, Repr

/-- The declarations that the markup needs in front of it. -/
def Compiled.preamble (compiled : Compiled) : String :=
  Markup.preamble compiled.style compiled.imports

/-- Reads, converts and writes a template. -/
def compile (converter : Converter) (style : ImportStyle) (source : String) :
    Reported (Except CompileError Compiled) :=
  match Markup.parse source with
  | .error error => ⟨.error (.parse error), []⟩
  | .ok nodes =>
    let visit := converter.visitAll Imports.empty nodes
    match visit.result with
    | .error error => ⟨.error (.element error), visit.events⟩
    | .ok summary =>
      let compiled : Compiled :=
        ⟨Markup.writeAll style visit.left, visit.imports, style, summary⟩
      let closing :=
        if 0 < summary.total then [.compiled summary.total visit.imports.size] else []
      ⟨.ok compiled, visit.events ++ closing⟩

/-- A template that is compiled was read, visited to the end, and written from what the visit
left. -/
theorem compile_eq_ok {converter : Converter} {style : ImportStyle} {source : String}
    {compiled : Compiled} (h : (compile converter style source).value = .ok compiled) :
    ∃ nodes, Markup.parse source = .ok nodes ∧
      (converter.visitAll Imports.empty nodes).result = .ok compiled.summary ∧
      compiled.markup = Markup.writeAll style (converter.visitAll Imports.empty nodes).left ∧
      compiled.imports = (converter.visitAll Imports.empty nodes).imports ∧
      compiled.style = style := by
  unfold compile at h
  split at h
  · cases h
  · rename_i nodes hParse
    dsimp only at h
    split at h
    · cases h
    · rename_i summary hSummary
      cases h
      exact ⟨nodes, hParse, hSummary, rfl, rfl, rfl⟩

/-- Compiles a template out of a file. -/
def compileFile (files : FileSystem) (converter : Converter) (style : ImportStyle)
    (path : String) : Reported (Except CompileError Compiled) :=
  match files.readText? path with
  | none => ⟨.error (.unreadable path), []⟩
  | some source => compile converter style source

end Template

end ResponsiveImages
