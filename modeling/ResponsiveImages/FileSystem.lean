import ResponsiveImages.Path

/-!
A file system as seen from the working directory: what stands at a path. A concrete one is put
together from lists of directories and files.
-/
namespace ResponsiveImages

inductive FileEntry where
  | directory
  | file (content : ByteArray)

/-- Whatever stands at each path, seen from the working directory. -/
structure FileSystem where
  entry? : String → Option FileEntry

namespace FileSystem

def isFile (files : FileSystem) (path : String) : Bool :=
  match files.entry? path with
  | some (.file _) => true
  | _ => false

def exists? (files : FileSystem) (path : String) : Bool :=
  (files.entry? path).isSome

/-- The text of a file. There is none if the path leads to no file or the bytes are not UTF-8. -/
def readText? (files : FileSystem) (path : String) : Option String :=
  match files.entry? path with
  | some (.file content) => String.fromUTF8? content
  | _ => none

/-- What is said of a path that leads to no readable text. -/
def unreadableMessage (path : String) : String :=
  "IO error when reading `" ++ path ++ "`"

/-- Where a path has led so far: to a place inside the working directory, given by names from the
innermost outwards, or to a directory outside it. -/
inductive Place where
  | inside (names : List String)
  | outside
  deriving DecidableEq, Repr

/-- Directories and files inside the working directory, by their names from the innermost
outwards. -/
structure Listing where
  directories : List (List String)
  files : List (List String × ByteArray)

namespace Listing

/-- What stands at a place. The working directory and everything above it are directories. -/
def at? (listing : Listing) : Place → Option FileEntry
  | .outside => some .directory
  | .inside [] => some .directory
  | .inside names =>
    match listing.files.lookup names with
    | some content => some (.file content)
    | none => if listing.directories.contains names then some .directory else none

/-- One piece of a path, taken from a directory. From outside only further directories above can be
reached. -/
def move (place : Place) (piece : String) : Option Place :=
  if Path.isStill piece then some place
  else
    match place with
    | .inside [] => if piece == ".." then some .outside else some (.inside [piece])
    | .inside (name :: names) =>
      if piece == ".." then some (.inside names) else some (.inside (piece :: name :: names))
    | .outside => if piece == ".." then some .outside else none

/-- The place that pieces lead to. Every step starts from a directory. -/
def follow (listing : Listing) (place : Place) : List String → Option Place
  | [] => some place
  | piece :: pieces =>
    match listing.at? place with
    | some .directory =>
      match move place piece with
      | some next => listing.follow next pieces
      | none => none
    | _ => none

/-- The entry at a path. The empty path leads nowhere. -/
def entry? (listing : Listing) (path : String) : Option FileEntry :=
  if path.isEmpty then none
  else
    let start := if Path.isAbsolute path then Place.outside else Place.inside []
    (listing.follow start (Path.pieces path)).bind listing.at?

/-- The names of a path that has no dots in it, from the innermost outwards. -/
def names (path : String) : List String :=
  ((Path.pieces path).filter fun piece => !Path.isStill piece).reverse

/-- A directory and all directories above it. -/
def addDirectory (listing : Listing) : List String → Listing
  | [] => listing
  | name :: outer =>
    { listing with directories := (name :: outer) :: listing.directories }.addDirectory outer

/-- A file, and all directories above it. A file that was there before is replaced. -/
def addFile (listing : Listing) (names : List String) (content : ByteArray) : Listing :=
  let listing := listing.addDirectory names.tail
  { listing with files := (names, content) :: listing.files }

def empty : Listing := ⟨[], []⟩

end Listing

/-- The file system that a listing describes. -/
def ofListing (listing : Listing) : FileSystem := ⟨listing.entry?⟩

end FileSystem

end ResponsiveImages
