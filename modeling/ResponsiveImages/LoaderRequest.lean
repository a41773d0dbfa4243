import ResponsiveImages.Image
import ResponsiveImages.Json.Printer
import ResponsiveImages.Settings

/-!
Requests to a bundler: the path of an image behind the loaders that are to process it, each with an
object of options. A request is an opaque module path to everything else in this library.
-/
namespace ResponsiveImages

namespace LoaderRequest

def resizeLoader : String := "webpack-image-resize-loader"

def srcsetLoader : String := "webpack-image-srcset-loader"

/-- The format that the loader writes: the one asked for, or else that of the image. -/
def target? (path : String) (format : Option Format) : Option Format :=
  match format with
  | some format => some format
  | none => (MediaType.ofPath? path).bind Format.ofMediaType?

/-- Nothing is converted when the format asked for is the one that the image has. -/
def isNative (path : String) (format : Option Format) : Bool :=
  match format with
  | some format => some format.mediaType == MediaType.ofPath? path
  | none => false

/-- The options of the loader that resizes: the format unless nothing is converted, the quality for
that format, and the further members over both. -/
def resizeMembers (path : String) (settings : Settings) (format : Option Format) : Members :=
  let target := target? path format
  let formatMember : Members :=
    match target with
    | some target => if isNative path format then [] else [("format", .string target.name)]
    | none => []
  let qualityMember : Members :=
    match target.bind settings.quality.get? with
    | some value => [("quality", .number (.int value))]
    | none => []
  Members.merge (formatMember ++ qualityMember) settings.resizeMembers

/-- The options of the loader that writes source sets: the sizes, and the further members over
them. -/
def srcsetMembers (settings : Settings) : Members :=
  Members.merge [("sizes", .array (settings.sizes.map .string))] settings.srcsetMembers

/-- A loader with its options, and what it is applied to. -/
def behindLoader (loader : String) (members : Members) (rest : String) : String :=
  loader ++ "?" ++ (Json.object members).text ++ "!" ++ rest

/-- The request for the image alone. -/
def compress : Transformer := fun path settings format =>
  "-!" ++ behindLoader resizeLoader (resizeMembers path settings format) path

/-- The request for a source set of the image. -/
def srcset : Transformer := fun path settings format =>
  "-!" ++ behindLoader srcsetLoader (srcsetMembers settings)
    (behindLoader resizeLoader (resizeMembers path settings format) path)

end LoaderRequest

end ResponsiveImages
