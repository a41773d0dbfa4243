import ResponsiveImages.Markup.Node

/-!
Script text for the values of bound attributes, and for the declarations of imports.
-/
namespace ResponsiveImages.Markup

/-- How an import is written in the template. -/
inductive ImportStyle where
  /-- As a call at the place of use. -/
  | require
  /-- As a name that is declared in front of the template. -/
  | hoisted
  deriving DecidableEq, Repr

/-- One character of a literal in single quotes. -/
def literalChar : Char → List Char
  | '\\' => ['\\', '\\']
  | '\'' => ['\\', '\'']
  | '\n' => ['\\', 'n']
  | '\r' => ['\\', 'r']
  | c => [c]

/-- A text as a literal in single quotes. -/
def literal (text : String) : String :=
  String.ofList (['\''] ++ text.toList.flatMap literalChar ++ ['\''])

/-- The script text of an import. -/
def ImportStyle.write (style : ImportStyle) (target : ImportRef) : String :=
  match style with
  | require => "require(" ++ literal target.path ++ ")"
  | hoisted => target.binding

/-- The script text of a bound value. -/
def Expression.write (style : ImportStyle) : Expression → String
  | raw text => text
  | module target => style.write target
  | moduleDefault target => style.write target ++ ".default"

/-- The declaration of one import, on a line of its own. -/
def declaration (target : ImportRef) : String :=
  "import " ++ target.binding ++ " from " ++ literal target.path ++ "\n"

/-- The declarations that a template needs in front of it. Calls need none. -/
def preamble (style : ImportStyle) (imports : Imports) : String :=
  match style with
  | .require => ""
  | .hoisted =>
    String.join (imports.paths.mapIdx fun index path => declaration ⟨index, path⟩)

end ResponsiveImages.Markup
