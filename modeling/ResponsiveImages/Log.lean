import ResponsiveImages.Settings
import ResponsiveImages.Text.Character

/-!
What is reported while templates and configurations are processed, and the lines that it is reported
with. Each line begins with the name of a module in bold and in a color.
-/
namespace ResponsiveImages

/-- The color code for a module, whatever the case of its name. -/
def Log.colorCode (module : String) : String :=
  match Text.asciiLower module with
  | "modernize" => "94"
  | "config" => "92"
  | "error" => "91"
  | _ => "93"

/-- One line of the log. -/
def Log.line (module message : String) : String :=
  "\x1b[1m\x1b[" ++ Log.colorCode module ++ "m[" ++ module ++ "]\x1b[39m\x1b[0m " ++ message ++ "\n"

inductive Event where
  /-- An image was converted in its place. -/
  | inPlace (path : String) (mode : OutputMode)
  /-- An image was put into a picture with that many sources. -/
  | replaced (path : String) (sources : Nat)
  /-- A template was compiled in which something was converted. -/
  | compiled (images imports : Nat)
  /-- A configuration was read from a file. -/
  | loaded (path : String)
  /-- A configuration has fields that mean nothing. -/
  | unknownFields (file : String) (names : List String)
  deriving DecidableEq, Repr

namespace Event

/-- The progress of conversion is reported on request only. -/
def isDetail : Event → Bool
  | inPlace .. | replaced .. | compiled .. => true
  | loaded .. | unknownFields .. => false

def module : Event → String
  | inPlace .. | replaced .. | compiled .. => "modernize"
  | loaded .. => "config"
  | unknownFields .. => "warning"

def message : Event → String
  | inPlace path mode => path ++ " → <img> (" ++ mode.label ++ ")"
  | replaced path sources =>
    path ++ " → <picture> with " ++ toString sources ++ " <source>"
  | compiled images imports =>
    toString images ++ " image(s) rewritten, " ++ toString imports ++ " import(s)"
  | loaded path => "loaded " ++ path
  | unknownFields file names =>
    "unknown fields in " ++ file ++ ", ignoring: " ++ String.intercalate ", " names

end Event

/-- A result, and what was reported on the way to it. -/
structure Reported (α : Type) where
  value : α
  events : List Event

/-- The log of some events. Details are left out unless they are asked for. -/
def Log.write (verbose : Bool) (events : List Event) : String :=
  String.join ((events.filter fun event => verbose || !event.isDetail).map fun event =>
    Log.line event.module event.message)

end ResponsiveImages
