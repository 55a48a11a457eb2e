import TenantLoad.Config.Environment
import TenantLoad.Config.Record
import TenantLoad.Config.Validation
import TenantLoad.Yaml.Printer
import TenantLoad.Yaml.Record

/-!
# Loading settings

Settings come from a file, if there is one, and are then overridden by the
environment.  They are used only if all of them are within bounds.
-/

namespace TenantLoad
namespace Config

/-- What reading a file gives: its bytes, or why it cannot be read. -/
abbrev FileContent := Except String ByteArray

/-- The settings that a text is a record of. -/
def ofText? (text : String) : Option Config := Yaml.readRecord? Config.read? text

/-- The text of settings. -/
def toText (config : Config) : String := Yaml.Printer.document config.toJson

/-- The text of the settings that hold when nothing is given. -/
def sampleText : String := standard.toText

/-- What is said of a file that is not encoded as text. -/
def encodingFault : String := "stream did not contain valid UTF-8"

/-- The text of a file. -/
def decode (content : FileContent) : Except Error String :=
  match content with
  | .error reason => .error (.unreadable reason)
  | .ok bytes =>
    match String.fromUTF8? bytes with
    | some text => .ok text
    | none => .error (.unreadable encodingFault)

/-- The settings of a file, or those that hold without one. -/
def ofFile (file : Option FileContent) : Except Error Config :=
  match file with
  | none => .ok standard
  | some content => do
    match ofText? (← decode content) with
    | some config => .ok config
    | none => .error .malformed

/-- The settings of a file and the environment, whether they are within
bounds or not. -/
def assemble (file : Option FileContent) (environment : Environment) : Except Error Config := do
  environment.override (← ofFile file)

/-- The settings of a file and the environment; `isDirectory` tells which
paths are directories. -/
def load (isDirectory : String → Bool) (file : Option FileContent) (environment : Environment) :
    Except Error Config := do
  let config ← assemble file environment
  config.validate isDirectory
  return config

end Config
end TenantLoad
