/-!
# Why settings cannot be used

Settings fail because their file cannot be read, because its text is no
record of settings, because of a variable of the environment or because a
value is out of bounds.
-/

namespace TenantLoad
namespace Config

/-- Why settings cannot be used. -/
inductive Error where
  /-- The file cannot be read. -/
  | unreadable (reason : String)
  /-- The text of the file is no record of settings. -/
  | malformed
  /-- A variable has no usable value. -/
  | variable (message : String)
  /-- A value of a section is out of bounds. -/
  | invalid (domain message : String)
  deriving Repr, DecidableEq

namespace Error

/-- What is said of a text that is no record of settings. -/
def textFault : String := "<yaml>"

/-- The text of an error. -/
def message : Error → String
  | .unreadable reason => s!"Failed to read config file: {reason}"
  | .malformed => s!"Failed to parse config: {textFault}"
  | .variable message => s!"Environment variable error: {message}"
  | .invalid domain message => s!"Domain configuration error in {domain}: {message}"

end Error
end Config
end TenantLoad
