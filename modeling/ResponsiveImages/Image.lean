import ResponsiveImages.Path

/-!
The image formats that can be requested by name, the entries of a format list, where the image's own
format may stand as well, and the media type of an image. That is read off the extension of its
path. Nothing is opened: a path with a query or a fragment behind the extension has no known type.
-/
namespace ResponsiveImages

/-- A format that the loaders can write. -/
inductive Format where
  | jpeg
  | png
  | webp
  | avif
  deriving DecidableEq, Repr

namespace Format

/-- Every format, in the order in which quality values are listed. -/
def all : List Format := [jpeg, png, webp, avif]

def name : Format → String
  | jpeg => "jpeg"
  | png => "png"
  | webp => "webp"
  | avif => "avif"

def mediaType : Format → String
  | jpeg => "image/jpeg"
  | png => "image/png"
  | webp => "image/webp"
  | avif => "image/avif"

/-- The format of that name. Case matters. -/
def ofName? (name : String) : Option Format :=
  all.find? (·.name == name)

/-- The format of that media type. There is none for other types. -/
def ofMediaType? (mediaType : String) : Option Format :=
  all.find? (·.mediaType == mediaType)

theorem mem_all (format : Format) : format ∈ all := by
  cases format <;> decide

theorem ofName?_name (format : Format) : ofName? format.name = some format := by
  cases format <;> decide

theorem ofMediaType?_mediaType (format : Format) :
    ofMediaType? format.mediaType = some format := by
  cases format <;> decide

end Format

/-- An entry of a format list: a named format, or the format that the image already has. -/
inductive SourceFormat where
  | native
  | named (format : Format)
  deriving DecidableEq, Repr

namespace SourceFormat

/-- The format to ask for. The image's own format asks for none. -/
def format? : SourceFormat → Option Format
  | native => none
  | named format => some format

def name : SourceFormat → String
  | native => "original"
  | named format => format.name

def ofName? (name : String) : Option SourceFormat :=
  if name == "original" then some native else (Format.ofName? name).map named

theorem ofName?_name (entry : SourceFormat) : ofName? entry.name = some entry := by
  cases entry with
  | native => decide
  | named format => cases format <;> decide

end SourceFormat

/-- What is said of a name that is no entry of a format list. -/
def unknownFormatMessage (name : String) : String :=
  "unknown image format `" ++ name
    ++ "` (expected one of: jpeg, png, webp, avif, original)"

namespace MediaType

/-- The media type for a lower-case extension. -/
def ofExtension? : String → Option String
  | "png" => some "image/png"
  | "jpg" | "jpeg" | "jpe" => some "image/jpeg"
  | "gif" => some "image/gif"
  | "webp" => some "image/webp"
  | "avif" => some "image/avif"
  | "svg" | "svgz" => some "image/svg+xml"
  | "ico" => some "image/x-icon"
  | "bmp" => some "image/bmp"
  | "tif" | "tiff" => some "image/tiff"
  | _ => none

/-- The media type for the extension of a path, in any ASCII case. -/
def ofPath? (path : String) : Option String :=
  (Path.extension? path).bind fun extension => ofExtension? (Text.asciiLower extension)

end MediaType

end ResponsiveImages
