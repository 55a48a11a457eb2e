import TenantLoad.Program.Tasks

/-!
# The executable

The program in its real surroundings.  It has no sockets of its own, so every
request ends as on a network that reaches nothing.
-/

namespace TenantLoad
namespace Program

/-- What the system says of a path that cannot be used. -/
def systemFault : IO.Error → String
  | .noFileOrDirectory .. => Surroundings.missingFault
  | .inappropriateType .. => Surroundings.directoryFault
  | .permissionDenied .. => "Permission denied (os error 13)"
  | error => toString error

/-- Whether something at a path can be opened. -/
def opens (path : String) : IO Bool := do
  try
    let _ ← IO.FS.Handle.mk path .read
    return true
  catch
    | .noFileOrDirectory .. | .inappropriateType .. => return false
    | _ => return true

/-- The result of an action that may fail. -/
def attempt (action : IO Value) : IO (Except String Value) := do
  try
    return .ok (← action)
  catch error => return .error (systemFault error)

instance : Host IO where
  environment := do
    let names := Config.Environment.names.map
      (Config.Environment.fullName Config.Environment.standardPrefix)
    let present ← names.filterMapM fun name => do
      return (← IO.getEnv name).map fun value => (name, value)
    return fun name => present.lookup name
  isPresent := opens
  isDirectory path := if path.isEmpty then return false else opens s!"{path}/."
  readFile path := attempt (IO.FS.readBinFile path)
  writeFile path text := attempt (IO.FS.writeFile path text)
  print text := IO.print text
  complain text := IO.eprint text
  network := return .unreachable
  chance := do
    let bytes ← IO.getRandomBytes 8
    return bytes.foldl (fun value byte => value * 256 + byte.toUInt64) 0

end Program
end TenantLoad

/-- Run the program. -/
def main (words : List String) : IO UInt32 := TenantLoad.Program.run words
