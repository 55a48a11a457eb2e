import TenantLoad.Api.Client
import TenantLoad.Config.Environment
import TenantLoad.Config.Load

/-!
# The surroundings of the program

What the program needs from where it runs: variables, files, a network, a
source of chance and a place to print to.  Surroundings in memory have a
directory of files and keep what is printed.
-/

namespace TenantLoad
namespace Program

/-- What the program can do to its surroundings. -/
class Host (m : Type → Type) where
  /-- The variables that are set. -/
  environment : m Config.Environment
  /-- Whether there is something at a path. -/
  isPresent : String → m Bool
  /-- Whether there is a directory at a path. -/
  isDirectory : String → m Bool
  /-- The content of the file at a path. -/
  readFile : String → m Config.FileContent
  /-- Write a file; the result is why it cannot be written. -/
  writeFile : (path text : String) → m (Except String Unit)
  /-- Print a text. -/
  print : String → m Unit
  /-- Print a text about a fault. -/
  complain : String → m Unit
  /-- The network that requests are sent over. -/
  network : m Api.Network
  /-- A number by chance. -/
  chance : m UInt64

/-- Surroundings in memory. -/
structure Surroundings where
  environment : Config.Environment := fun _ => none
  /-- The files by their paths. -/
  files : List (String × ByteArray) := []
  /-- Which paths are directories. -/
  areDirectories : String → Bool := fun _ => false
  network : Api.Network := .unreachable
  /-- What has been printed. -/
  printed : String := ""
  /-- What has been said about faults. -/
  complaints : String := ""

namespace Surroundings

/-- What is said of a path with nothing at it. -/
def missingFault : String := "No such file or directory (os error 2)"

/-- What is said of a directory where a file is wanted. -/
def directoryFault : String := "Is a directory (os error 21)"

/-- The path without the steps that stay where they are; one at its end, which
asks for a directory, is kept. -/
def direct (path : String) : String :=
  match (path.toList.splitOn '/').map String.ofList with
  | [] => path
  | first :: rest =>
    let steps := (first :: rest).dropLast.filter fun step => step != "" && step != "."
    let root := if first.isEmpty && !rest.isEmpty then "/" else ""
    root ++ "/".intercalate (steps ++ [rest.getLastD first])

/-- The directory that a path lies in. -/
def parent (path : String) : String :=
  match path.toList.reverse.dropWhile (· != '/') with
  | '/' :: rest => if rest.isEmpty then "/" else String.ofList rest.reverse
  | _ => "."

/-- The bytes of the file at a path. -/
def file? (surroundings : Surroundings) (path : String) : Option ByteArray :=
  surroundings.files.lookup (direct path)

/-- The content of the file at a path. -/
def read (surroundings : Surroundings) (path : String) : Config.FileContent :=
  if surroundings.areDirectories path then .error directoryFault
  else
    match surroundings.file? path with
    | some bytes => .ok bytes
    | none => .error missingFault

/-- The surroundings after a file is written. -/
def write (surroundings : Surroundings) (path text : String) :
    Except String Unit × Surroundings :=
  if surroundings.areDirectories path || path.endsWith "/" then
    (.error directoryFault, surroundings)
  else if path.isEmpty || !surroundings.areDirectories (parent path) then
    (.error missingFault, surroundings)
  else
    let others := surroundings.files.filter fun file => file.1 != direct path
    (.ok (), { surroundings with files := (direct path, text.toUTF8) :: others })

instance : Host (StateM Surroundings) where
  environment := do return (← get).environment
  isPresent path := do
    return (← get).areDirectories path || ((← get).file? path).isSome
  isDirectory path := do return (← get).areDirectories path
  readFile path := do return (← get).read path
  writeFile path text := modifyGet fun surroundings => surroundings.write path text
  print text :=
    modify fun surroundings => { surroundings with printed := surroundings.printed ++ text }
  complain text :=
    modify fun surroundings => { surroundings with complaints := surroundings.complaints ++ text }
  network := do return (← get).network
  chance := pure 0

end Surroundings
end Program
end TenantLoad
