/-!
The modules that a template imports. A module is known by its request path, and two requests with
one path share one import.
-/
namespace ResponsiveImages

/-- A reference to an import: its place in the order of registration, and its path. -/
structure ImportRef where
  index : Nat
  path : String
  deriving DecidableEq, Repr

/-- The name that an import is bound to when imports are declared in front of the template. -/
def ImportRef.binding (reference : ImportRef) : String :=
  "_imports_" ++ toString reference.index

/-- The imported paths in the order of their first request. -/
structure Imports where
  paths : List String
  deriving DecidableEq, Repr

namespace Imports

def empty : Imports := ⟨[]⟩

def size (imports : Imports) : Nat := imports.paths.length

def isEmpty (imports : Imports) : Bool := imports.paths.isEmpty

/-- The place of a path that was requested before. -/
def index? (imports : Imports) (path : String) : Option Nat :=
  imports.paths.idxOf? path

/-- The import of a path: the known one, or a new one behind all others. -/
def request (imports : Imports) (path : String) : ImportRef × Imports :=
  match imports.index? path with
  | some index => (⟨index, path⟩, imports)
  | none => (⟨imports.size, path⟩, ⟨imports.paths ++ [path]⟩)

end Imports

end ResponsiveImages
