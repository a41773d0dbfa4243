import ResponsiveImages.Config.Datum
import ResponsiveImages.Settings

/-!
Configurations out of documents. Fields are looked at in the order in which they were written, and
the first that is refused decides the error. Fields that are not known mean nothing.
-/
namespace ResponsiveImages.Config

/-- The fields that have a meaning. -/
inductive Field where
  | compressOnly
  | onlyUseImg
  | noLazy
  | attributeName
  | imageFormats
  | sizes
  | quality
  | imageSrcsetLoaderOptions
  | imageResizeLoaderOptions
  deriving DecidableEq, Repr

namespace Field

def all : List Field :=
  [compressOnly, onlyUseImg, noLazy, attributeName, imageFormats, sizes, quality,
    imageSrcsetLoaderOptions, imageResizeLoaderOptions]

def name : Field → String
  | compressOnly => "compressOnly"
  | onlyUseImg => "onlyUseImg"
  | noLazy => "noLazy"
  | attributeName => "attributeName"
  | imageFormats => "imageFormats"
  | sizes => "sizes"
  | quality => "quality"
  | imageSrcsetLoaderOptions => "imageSrcsetLoaderOptions"
  | imageResizeLoaderOptions => "imageResizeLoaderOptions"

def ofName? (name : String) : Option Field :=
  all.find? (·.name == name)

end Field

def refuse {α : Type} (expected : Expected) (datum : Datum) : Except Mismatch α :=
  .error (.kind datum.found expected)

def decodeBoolean : Datum → Except Mismatch Bool
  | .boolean value => .ok value
  | datum => refuse .boolean datum

def decodeString : Datum → Except Mismatch String
  | .string value => .ok value
  | datum => refuse .string datum

def decodeFormat (datum : Datum) : Except Mismatch SourceFormat := do
  let name ← decodeString datum
  match SourceFormat.ofName? name with
  | some entry => .ok entry
  | none => .error (.format name)

def decodeList {α : Type} (item : Datum → Except Mismatch α) : Datum → Except Mismatch (List α)
  | .list items => items.mapM item
  | datum => refuse .sequence datum

def decodeByte : Datum → Except Mismatch Nat
  | .integer value =>
    if 0 ≤ value ∧ value ≤ 255 then .ok value.toNat else .error (.range value)
  | datum => refuse .byte datum

/-- One entry of a quality table. The name is looked at before the value. -/
def decodeQualityEntry (member : String × Datum) : Except Mismatch (Format × Nat) :=
  match Format.ofName? member.1 with
  | some format => (decodeByte member.2).map (format, ·)
  | none => .error (.key member.1)

def decodeQuality : Datum → Except Mismatch Quality
  | .map members => (members.mapM decodeQualityEntry).map Quality.ofList
  | datum => refuse .map datum

def decodeMembers : Datum → Except Mismatch Members
  | .map members => .ok (Datum.membersToJson members)
  | datum => refuse .map datum

/-- A value, unless there is none. -/
def decodeOptional {α : Type} (decode : Datum → Except Mismatch α) :
    Datum → Except Mismatch (Option α)
  | .null => .ok none
  | datum => (decode datum).map some

/-- The configuration with one field decided. -/
def setField (config : Config) (field : Field) (datum : Datum) : Except Mismatch Config :=
  let set {α : Type} (decode : Datum → Except Mismatch α) (use : Option α → Options) :=
    (decodeOptional decode datum).map fun value => { config with options := use value }
  let options := config.options
  match field with
  | .compressOnly => set decodeBoolean fun value => { options with compressOnly := value }
  | .onlyUseImg => set decodeBoolean fun value => { options with onlyUseImg := value }
  | .noLazy => set decodeBoolean fun value => { options with noLazy := value }
  | .attributeName =>
    (decodeOptional decodeString datum).map fun value => { config with attributeName := value }
  | .imageFormats =>
    set (decodeList decodeFormat) fun value => { options with imageFormats := value }
  | .sizes => set (decodeList decodeString) fun value => { options with sizes := value }
  | .quality => set decodeQuality fun value => { options with quality := value }
  | .imageSrcsetLoaderOptions =>
    set decodeMembers fun value => { options with srcsetMembers := value }
  | .imageResizeLoaderOptions =>
    set decodeMembers fun value => { options with resizeMembers := value }

/-- The configuration with one member of a document over it. -/
def setMember (config : Config) (member : String × Datum) : Except Mismatch Config :=
  match Field.ofName? member.1 with
  | some field => setField config field member.2
  | none => .ok config

/-- The configuration that the members of a document give. -/
def ofMembers (members : List (String × Datum)) : Except Mismatch Config :=
  members.foldlM setMember empty

/-- The names of the members that mean nothing, in their order. -/
def unknownNames (members : List (String × Datum)) : List String :=
  (members.map (·.1)).filter fun name => (Field.ofName? name).isNone

/-- The configuration of a document. A list gives the fields in their fixed order, and those behind
its end are left open. -/
def ofDatum : Datum → Except Mismatch Config
  | .map members => ofMembers members
  | .list items => do
    let config ← ofMembers ((Field.all.map (·.name)).zip items)
    if Field.all.length < items.length then .error (.length items.length) else .ok config
  | datum => refuse .configuration datum

end ResponsiveImages.Config
