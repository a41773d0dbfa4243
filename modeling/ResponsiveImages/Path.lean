import ResponsiveImages.Text.Character

/-!
Paths as texts: what they begin with, their pieces between slashes, their ancestors, and the name
and extension of the last piece. Empty pieces and single dots inside a path count for nothing; a dot
at the very start is a piece of its own. No file system is consulted.
-/
namespace ResponsiveImages.Path

/-- The pieces of a path between its slashes, as written. There is always at least one. -/
def pieces (path : String) : List String :=
  (path.toList.splitOn '/').map String.ofList

def isAbsolute (path : String) : Bool :=
  path.toList.head? == some '/'

/-- A piece that does not move: an empty one or a single dot. -/
def isStill (piece : String) : Bool :=
  piece == "" || piece == "."

/-- What a path begins with: a slash, a dot of its own, or nothing. -/
def anchor (path : String) : String :=
  if isAbsolute path then "/" else if (pieces path).head? == some "." then "." else ""

/-- The pieces behind the anchor, the last one first. -/
def bodyReversed (path : String) : List String :=
  let all := pieces path
  (if anchor path == "" then all else all.drop 1).reverse

/-- The path with the given anchor and pieces, the last piece first. -/
def assemble (anchor : String) (reversed : List String) : String :=
  let body := String.intercalate "/" reversed.reverse
  if anchor == "." && !reversed.isEmpty then "./" ++ body else anchor ++ body

/-- The pieces that are left when one moving piece after the other is taken off the end. -/
def shortenings : List String → List (List String)
  | [] => []
  | piece :: rest =>
    if isStill piece then shortenings rest else rest.dropWhile isStill :: shortenings rest

/-- The path itself and the paths of the directories above it, nearest first. A relative path ends
in the empty path, an absolute one in the root. -/
def ancestors (path : String) : List String :=
  path :: (shortenings (bodyReversed path)).map (assemble (anchor path))
    ++ (if anchor path == "." then [""] else [])

/-- The name of what the path leads to. A path that ends in two dots has none. -/
def fileName? (path : String) : Option String :=
  match (bodyReversed path).dropWhile isStill with
  | [] => none
  | name :: _ => if name == ".." then none else some name

/-- What follows the last dot of the name, unless that dot is the first character. -/
def extension? (path : String) : Option String :=
  (fileName? path).bind fun name =>
    let reversed := name.toList.reverse
    match reversed.dropWhile (· ≠ '.') with
    | [] => none
    | [_] => none
    | _ :: _ => some (String.ofList (reversed.takeWhile (· ≠ '.')).reverse)

/-- A name placed under a directory. An absolute name stays as it is. -/
def join (directory name : String) : String :=
  if isAbsolute name then name
  else if directory.isEmpty || directory.toList.getLast? == some '/' then directory ++ name
  else directory ++ "/" ++ name

end ResponsiveImages.Path
