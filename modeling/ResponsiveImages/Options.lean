import ResponsiveImages.Quality
import ResponsiveImages.Json.Value

/-!
The options that a directive and a configuration have in common. An absent option leaves the
decision to the layer below.
-/
namespace ResponsiveImages

structure Options where
  /-- Compress the image and do nothing else. -/
  compressOnly : Option Bool
  /-- Write one element with a source set, and no element around it. -/
  onlyUseImg : Option Bool
  /-- Do not ask for lazy loading. -/
  noLazy : Option Bool
  imageFormats : Option (List SourceFormat)
  sizes : Option (List String)
  quality : Option Quality
  /-- Further members for the loader that writes source sets. -/
  srcsetMembers : Option Members
  /-- Further members for the loader that resizes. -/
  resizeMembers : Option Members

namespace Options

/-- No option is present. -/
def none : Options :=
  ⟨.none, .none, .none, .none, .none, .none, .none, .none⟩

/-- No option is present. -/
def isEmpty (options : Options) : Bool :=
  options.compressOnly.isNone && options.onlyUseImg.isNone && options.noLazy.isNone
    && options.imageFormats.isNone && options.sizes.isNone && options.quality.isNone
    && options.srcsetMembers.isNone && options.resizeMembers.isNone

end Options

end ResponsiveImages
