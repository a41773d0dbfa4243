import ResponsiveImages.Options

/-!
Complete settings for one image: the defaults with layers of options over them. A later layer wins
option by option; quality is merged by format, and members for the loaders by name. The first layer
is that of a configuration for all images of a project.
-/
namespace ResponsiveImages

/-- What is written for one image. -/
inductive OutputMode where
  /-- The image with a compressed source. -/
  | compressed
  /-- The image with a compressed source and a source set. -/
  | withSrcset
  /-- A picture element with one source for each format, and the image in it. -/
  | picture
  deriving DecidableEq, Repr

/-- The name that messages use. -/
def OutputMode.label : OutputMode → String
  | compressed => "CompressOnly"
  | withSrcset => "ImgWithSrcset"
  | picture => "Picture"

structure Settings where
  compressOnly : Bool
  /-- Of no effect when the image is only compressed. -/
  onlyUseImg : Bool
  noLazy : Bool
  /-- The name of the directive attribute. -/
  attributeName : String
  /-- The formats of the sources in a picture. -/
  imageFormats : List SourceFormat
  sizes : List String
  quality : Quality
  srcsetMembers : Members
  resizeMembers : Members

namespace Settings

def defaultAttributeName : String := "modernize"

/-- The settings of an image when no layer says anything. -/
def default : Settings where
  compressOnly := false
  onlyUseImg := false
  noLazy := false
  attributeName := defaultAttributeName
  imageFormats := [.named .webp, .native]
  sizes := ["480w", "1024w", "1920w", "2560w", "original"]
  quality := ⟨some 80, some 100, some 80, none⟩
  srcsetMembers := []
  resizeMembers := []

/-- The settings with a layer of options over them. -/
def apply (settings : Settings) (options : Options) : Settings where
  compressOnly := options.compressOnly.getD settings.compressOnly
  onlyUseImg := options.onlyUseImg.getD settings.onlyUseImg
  noLazy := options.noLazy.getD settings.noLazy
  attributeName := settings.attributeName
  imageFormats := options.imageFormats.getD settings.imageFormats
  sizes := options.sizes.getD settings.sizes
  quality := settings.quality.merge (options.quality.getD .empty)
  srcsetMembers := settings.srcsetMembers.merge (options.srcsetMembers.getD [])
  resizeMembers := settings.resizeMembers.merge (options.resizeMembers.getD [])

/-- Compression alone wins over the single element. -/
def mode (settings : Settings) : OutputMode :=
  if settings.compressOnly then .compressed
  else if settings.onlyUseImg then .withSrcset
  else .picture

end Settings

/-- A rule that makes the request for an image path and settings, and a format if one is asked for.
Without one the image keeps the format that it has. -/
abbrev Transformer := String → Settings → Option Format → String

/-- A configuration for all images of a project. The rules for requests are functions, so they are
never read from a document. -/
structure Config where
  options : Options
  attributeName : Option String
  compress : Option Transformer
  srcset : Option Transformer

namespace Config

/-- A configuration that decides nothing. -/
def empty : Config := ⟨.none, none, none, none⟩

/-- Nothing, or the first quality above 100. -/
def validate (config : Config) : Except QualityExcess Unit :=
  match config.options.quality with
  | some quality => quality.validate
  | none => .ok ()

/-- The defaults with the configuration over them. -/
def settings (config : Config) : Settings :=
  { Settings.default.apply config.options with
    attributeName := config.attributeName.getD Settings.defaultAttributeName }

end Config

end ResponsiveImages
