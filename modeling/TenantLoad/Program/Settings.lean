import TenantLoad.CommandLine.Arguments
import TenantLoad.Config.Load

/-!
# The settings in effect

A flag overrides the environment, which overrides the file, which overrides
the defaults.  The settings must be within bounds both before and after the
flags.
-/

namespace TenantLoad
namespace CommandLine

/-- The settings with the flags of a load run. -/
def RunFlags.apply (flags : RunFlags) (config : Config) : Config :=
  { config with
    target := { baseUrl := flags.baseUrl.getD config.target.baseUrl }
    workload :=
      { tenants := flags.tenants.getD config.workload.tenants
        tablesPerTenant := flags.tablesPerTenant.getD config.workload.tablesPerTenant
        rowsPerTable := flags.rowsPerTable.getD config.workload.rowsPerTable
        rowConcurrency := flags.rowConcurrency.getD config.workload.rowConcurrency
        searchRequests := flags.searchRequests.getD config.workload.searchRequests
        searchConcurrency := flags.searchConcurrency.getD config.workload.searchConcurrency
        seed := flags.seed.or config.workload.seed }
    output := { config.output with path := flags.output.or config.output.path } }

end CommandLine

namespace Program

/-- Why there are no settings to work with. -/
inductive SettingsFault where
  /-- The file or the environment gives none. -/
  | load (error : Config.Error)
  /-- The text of a flag is no level of logging. -/
  | level (text : String)
  /-- The flags lead out of bounds. -/
  | flags (error : Config.Error)
  deriving Repr, DecidableEq

namespace SettingsFault

/-- The texts about a fault, from the outermost to its cause. -/
def chain : SettingsFault → List String
  | .load error => ["Failed to load configuration", error.message]
  | .level text => [Config.LogLevel.fault text]
  | .flags error => ["Invalid configuration after applying command line flags", error.message]

end SettingsFault

/-- The settings with the level of logging that a flag asks for. -/
def applyLevel (level : Option String) (config : Config) : Except SettingsFault Config :=
  match level with
  | none => .ok config
  | some text =>
    match Config.LogLevel.ofText? text with
    | none => .error (.level text)
    | some level => .ok { config with logging := { config.logging with level } }

/-- The settings in effect; `isDirectory` tells which paths are directories. -/
def resolve (isDirectory : String → Bool) (file : Option Config.FileContent)
    (environment : Config.Environment) (level : Option String) (flags : CommandLine.RunFlags) :
    Except SettingsFault Config := do
  let loaded ← (Config.load isDirectory file environment).mapError .load
  let config ← applyLevel level (flags.apply loaded)
  (config.validate isDirectory).mapError .flags
  return config

/-- The paths that must not be directories for the settings to be within
bounds. -/
def checkedPaths (file : Option Config.FileContent) (environment : Config.Environment)
    (flags : CommandLine.RunFlags) : List String :=
  let loaded :=
    match Config.assemble file environment with
    | .ok config => config.output.path.toList
    | .error _ => []
  loaded ++ flags.output.toList

end Program
end TenantLoad
