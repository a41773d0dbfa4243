import ResponsiveImages.Config.Decode
import ResponsiveImages.FileSystem
import ResponsiveImages.Json.Message
import ResponsiveImages.Log
import ResponsiveImages.Toml.Document

/-!
Configurations from text and from files. The file for a template is the nearest one of the usual
name, in the directory of the template or one above it.
-/
namespace ResponsiveImages.Config

/-- Why a configuration cannot be had. -/
inductive LoadError where
  /-- The path leads to no readable text. -/
  | unreadable (path : String)
  /-- The text is no document. -/
  | malformed
  /-- A field has a value of the wrong kind. -/
  | mismatch (cause : Mismatch)
  | quality (excess : QualityExcess)
  deriving DecidableEq, Repr

namespace LoadError

/-- The wording, if there is one of this library. -/
def message? : LoadError → Option String
  | unreadable path => some (FileSystem.unreadableMessage path)
  | malformed => none
  | mismatch cause => some cause.message
  | quality excess => some excess.message

end LoadError

/-- The usual name of a configuration file. -/
def fileName : String := "modernize.toml"

/-- The configuration that a document gives, and the names in it that mean nothing. -/
def read (text : String) : Except LoadError (Config × List String) :=
  match Toml.parse text with
  | none => .error .malformed
  | some entries => do
    let members := Datum.entriesOfToml entries
    let config ← (ofMembers members).mapError LoadError.mismatch
    (config.validate).mapError LoadError.quality
    return (config, unknownNames members)

/-- The report on names that mean nothing, if there are any. -/
def unknownEvents (file : String) (names : List String) : List Event :=
  if names.isEmpty then [] else [.unknownFields file names]

/-- The configuration that a text gives. -/
def ofText (text : String) : Reported (Except LoadError Config) :=
  match read text with
  | .error error => ⟨.error error, []⟩
  | .ok (config, unknown) => ⟨.ok config, unknownEvents fileName unknown⟩

/-- The configuration in a file. -/
def load (files : FileSystem) (path : String) : Reported (Except LoadError Config) :=
  match files.readText? path with
  | none => ⟨.error (.unreadable path), []⟩
  | some text =>
    match read text with
    | .error error => ⟨.error error, []⟩
    | .ok (config, unknown) =>
      ⟨.ok config, unknownEvents ((Path.fileName? path).getD path) unknown ++ [.loaded path]⟩

/-- The nearest file of that name in the directory or one above it. An absolute name is taken as it
is if anything is there. -/
def find? (files : FileSystem) (start name : String) : Option String :=
  if Path.isAbsolute name then
    if files.exists? name then some name else none
  else ((Path.ancestors start).map (Path.join · name)).find? files.isFile

/-- The configuration for a directory: the nearest file, or nothing decided. -/
def discover (files : FileSystem) (start : String) : Reported (Except LoadError Config) :=
  match find? files start fileName with
  | some path => load files path
  | none => ⟨.ok empty, []⟩

end ResponsiveImages.Config
