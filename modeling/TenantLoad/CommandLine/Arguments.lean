import TenantLoad.CommandLine.Grammar

/-!
# The command line of the load generator

Without a command, or with `run`, a load run is asked for; `config sample`
writes a sample of the settings and `config validate` checks a file.  The
flags for the file and the level of logging may stand at every command, and
the innermost one counts.
-/

namespace TenantLoad
namespace CommandLine

/-- The flags of a load run. -/
structure RunFlags where
  baseUrl : Option String := none
  tenants : Option UInt64 := none
  tablesPerTenant : Option UInt64 := none
  rowsPerTable : Option UInt64 := none
  rowConcurrency : Option UInt64 := none
  searchRequests : Option UInt64 := none
  searchConcurrency : Option UInt64 := none
  seed : Option UInt64 := none
  output : Option String := none
  deriving Repr, DecidableEq

/-- What is asked for. -/
inductive Task where
  /-- A load run with the flags that stand before any command. -/
  | standard
  /-- A load run with flags of its own. -/
  | run (flags : RunFlags)
  /-- A sample of the settings, on the terminal or in a file. -/
  | sample (output : Option String) (force : Bool)
  /-- A check of the settings in a file. -/
  | validate (path : String)
  deriving Repr, DecidableEq

/-- A command line that can be used. -/
structure Arguments where
  configPath : Option String := none
  logLevel : Option String := none
  /-- The flags before any command. -/
  outer : RunFlags := {}
  task : Task := .standard
  deriving Repr, DecidableEq

/-- The text of a flag. -/
def Values.text? (values : Values) (name : String) : Option String :=
  match values.lookup name with
  | some (.text value) => some value
  | _ => none

/-- The number of a flag. -/
def Values.count? (values : Values) (name : String) : Option UInt64 :=
  match values.lookup name with
  | some (.count value) => some (UInt64.ofNat value)
  | _ => none

namespace RunFlags

/-- The flags of a load run among values. -/
def ofValues (values : Values) : RunFlags :=
  { baseUrl := Values.text? values "base-url"
    tenants := Values.count? values "tenants"
    tablesPerTenant := Values.count? values "tables-per-tenant"
    rowsPerTable := Values.count? values "rows-per-table"
    rowConcurrency := Values.count? values "row-concurrency"
    searchRequests := Values.count? values "search-requests"
    searchConcurrency := Values.count? values "search-concurrency"
    seed := Values.count? values "seed"
    output := Values.text? values "output" }

/-- The flags of a load run as they are written. -/
def grammar : List Flag :=
  let count := FlagKind.value (.count 64)
  [{ name := "base-url", kind := .value .text },
    { name := "tenants", kind := count, aliases := ["users"] },
    { name := "tables-per-tenant", kind := count, aliases := ["tables-per-user"] },
    { name := "rows-per-table", kind := count },
    { name := "row-concurrency", kind := count },
    { name := "search-requests", kind := count },
    { name := "search-concurrency", kind := count },
    { name := "seed", kind := count },
    { name := "output", kind := .value .path }]

end RunFlags

namespace Arguments

/-- The flags that may stand at every command. -/
def sharedFlags : List Flag :=
  [{ name := "config", kind := .value .path }, { name := "log-level", kind := .value .text },
    { name := "help", kind := .help, letter := some 'h' }]

/-- The command that writes a sample. -/
def sampleCommand : Command :=
  { flags := sharedFlags ++
      [{ name := "output", kind := .value .path }, { name := "force", kind := .switch }] }

/-- The command that checks a file. -/
def validateCommand : Command :=
  { flags := sharedFlags ++ [{ name := "config-file", kind := .value .path }]
    required := ["config-file"] }

/-- The command of a load run. -/
def runCommand : Command := { flags := sharedFlags ++ RunFlags.grammar }

/-- The command above those on settings. -/
def configCommand : Command :=
  { flags := sharedFlags
    mustChoose := true
    commands := [("sample", sampleCommand), ("validate", validateCommand)] }

/-- The whole command line. -/
def grammar : Command :=
  { flags := sharedFlags ++ RunFlags.grammar ++
      [{ name := "version", kind := .version, letter := some 'V' }]
    commands := [("run", runCommand), ("config", configCommand)] }

/-- The task that the commands below the first level choose. -/
def chosenTask : List (String × Values) → Task
  | [("run", values)] => .run (RunFlags.ofValues values)
  | [_, ("sample", values)] =>
    .sample (Values.text? values "output") (values.lookup "force").isSome
  | [_, ("validate", values)] => .validate ((Values.text? values "config-file").getD "")
  | _ => .standard

/-- The value of a flag at the innermost level that has one. -/
def innermost? (levels : List (String × Values)) (name : String) : Option String :=
  levels.reverse.findSome? fun level => Values.text? level.2 name

/-- Read a command line. -/
def read (words : List String) : Except Fault Arguments := do
  let levels ← grammar.parse "" {} words
  return {
    configPath := innermost? levels "config"
    logLevel := innermost? levels "log-level"
    outer := RunFlags.ofValues ((levels.head?.map Prod.snd).getD [])
    task := chosenTask (levels.drop 1) }

/-- The flags that are in effect for a load run. -/
def runFlags? (arguments : Arguments) : Option RunFlags :=
  match arguments.task with
  | .standard => some arguments.outer
  | .run flags => some flags
  | .sample .. | .validate _ => none

end Arguments
end CommandLine
end TenantLoad
