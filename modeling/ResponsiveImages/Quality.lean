import ResponsiveImages.Image

/-!
Compression quality by format. A layer says nothing about the formats that it leaves out.
-/
namespace ResponsiveImages

/-- A quality for some of the formats. Values are bytes; only those up to 100 are meaningful. -/
structure Quality where
  jpeg : Option Nat
  png : Option Nat
  webp : Option Nat
  avif : Option Nat
  deriving DecidableEq, Repr

namespace Quality

def empty : Quality := ⟨none, none, none, none⟩

def get? (quality : Quality) : Format → Option Nat
  | .jpeg => quality.jpeg
  | .png => quality.png
  | .webp => quality.webp
  | .avif => quality.avif

def set (quality : Quality) (format : Format) (value : Nat) : Quality :=
  match format with
  | .jpeg => { quality with jpeg := some value }
  | .png => { quality with png := some value }
  | .webp => { quality with webp := some value }
  | .avif => { quality with avif := some value }

/-- The entries set one after the other: of two for one format the later counts. -/
def ofList (entries : List (Format × Nat)) : Quality :=
  entries.foldl (fun quality entry => quality.set entry.1 entry.2) empty

/-- The entries in the order of the formats. -/
def toList (quality : Quality) : List (Format × Nat) :=
  Format.all.filterMap fun format => (quality.get? format).map (format, ·)

/-- The second layer over the first, format by format. -/
def merge (base layer : Quality) : Quality :=
  ⟨layer.jpeg <|> base.jpeg, layer.png <|> base.png, layer.webp <|> base.webp,
    layer.avif <|> base.avif⟩

/-- The first entry above 100, if there is one. -/
def excess? (quality : Quality) : Option (Format × Nat) :=
  quality.toList.find? fun entry => 100 < entry.2

@[simp] theorem get?_merge (base layer : Quality) (format : Format) :
    (base.merge layer).get? format = (layer.get? format <|> base.get? format) := by
  cases format <;> rfl

end Quality

/-- A quality above 100. -/
structure QualityExcess where
  format : Format
  value : Nat
  deriving DecidableEq, Repr

namespace QualityExcess

def message (excess : QualityExcess) : String :=
  "Invalid value for quality: " ++ excess.format.name ++ " quality " ++ toString excess.value
    ++ " is out of range 0..=100"

end QualityExcess

/-- Nothing, or the first entry above 100. -/
def Quality.validate (quality : Quality) : Except QualityExcess Unit :=
  match quality.excess? with
  | some (format, value) => .error ⟨format, value⟩
  | none => .ok ()

end ResponsiveImages
