import TenantLoad.Program.Host
import TenantLoad.Program.Settings
import TenantLoad.Run.TimedRun
import TenantLoad.Text.Quoted

/-!
# The tasks of the program

A load run prints its report and may write its summary to a file; it fails if
it was interrupted or a tenant failed.  The other tasks write a sample of the
settings or check those of a file.  A task that fails says why, from the
outermost text to the cause.
-/

namespace TenantLoad
namespace Program

/-- How a task ends: well, or with the texts about a fault. -/
abbrev Ending := Except (List String) Unit

/-- The service that is reached over a network: every tenant has a connection
of its own. -/
def service (network : Api.Network) (config : Config) : Run.Service Unit :=
  match Api.Client.connect config.target.baseUrl config.connection.userAgent with
  | .error error =>
    { connect := fun _ => .failed error
      respond := fun _ _ _ => ({ attempt := .failed error }, ()) }
  | .ok client =>
    { connect := fun _ => .returned ()
      respond := fun _ _ call =>
        let attempt :=
          match network.perform client call with
          | .ok reply => .returned reply
          | .error error => .failed error
        ({ attempt }, ()) }

/-- The report of a load run over a network.  Without a seed, the choices of
the run follow from a number by chance. -/
def runReport (network : Api.Network) (chance : UInt64) (config : Config)
    (settings : Tenant.Settings) : Run.Report :=
  let entropy (tenant : Nat) : Random.Generator :=
    .ofSeed (Run.tenantSeed chance (UInt64.ofNat tenant))
  (Run.TimedRun.ofService settings (service network config) ()
    (Run.generator entropy config.workload.seed) .empty false).report

/-- How a load run with a report ends. -/
def verdict (report : Run.Report) : Ending :=
  if report.interrupted then .error ["Interrupted before the workload completed"]
  else
    let failed := report.failedTenants.length
    if failed > 0 then .error [s!"{failed} of {report.tenants.length} tenant(s) failed"]
    else .ok ()

variable {m : Type → Type} [Monad m] [Host m]

/-- Write the summary of a report to the file that the settings ask for. -/
def writeSummary (report : Run.Report) (output : Config.Output) : m Ending := do
  match output.path with
  | none => return .ok ()
  | some path =>
    let text := if output.pretty then report.summary.prettyText else report.summary.compactText
    match ← Host.writeFile path text with
    | .error reason => return .error [s!"Failed to write metrics to {Text.quoted path}", reason]
    | .ok () =>
      Host.print s!"\nMetrics written to {path}\n"
      return .ok ()

/-- Print a report, write its summary and tell how the run ended. -/
def conclude (report : Run.Report) (output : Config.Output) : m Ending := do
  Host.print s!"\n{report.text}\n"
  match ← writeSummary report output with
  | .error texts => return .error texts
  | .ok () => return verdict report

/-- A load run with settings. -/
def loadRun (config : Config) : m Ending := do
  match Url.parse config.target.baseUrl, Run.setUp config with
  | .error fault, _ => return .error [(Api.Error.invalidUrl fault.message).message]
  | .ok _, .error failure => return .error [failure.message]
  | .ok _, .ok settings =>
    conclude (runReport (← Host.network) (← Host.chance) config settings) config.output

/-- The content of the file of settings; one that does not exist counts as
none. -/
def settingsFile (path : Option String) : m (Option Config.FileContent) := do
  match path with
  | none => return none
  | some path => if ← Host.isPresent path then return some (← Host.readFile path) else return none

/-- The variables that settings come from. -/
def settingsEnvironment : m Config.Environment := do
  return (← Host.environment).withPrefix Config.Environment.standardPrefix

/-- The settings in effect for a load run. -/
def resolveSettings (arguments : CommandLine.Arguments) (flags : CommandLine.RunFlags) :
    m (Except SettingsFault Config) := do
  let environment ← settingsEnvironment
  let file ← settingsFile arguments.configPath
  let directories ← (checkedPaths file environment flags).filterM Host.isDirectory
  return resolve directories.contains file environment arguments.logLevel flags

/-- The task of a load run. -/
def runTask (arguments : CommandLine.Arguments) (flags : CommandLine.RunFlags) : m Ending := do
  match ← resolveSettings arguments flags with
  | .error fault => return .error fault.chain
  | .ok config => loadRun config

/-- The task that writes a sample; a file that exists is kept unless it may be
overwritten. -/
def sampleTask (output : Option String) (force : Bool) : m Ending := do
  match output with
  | none =>
    Host.print Config.sampleText
    return .ok ()
  | some path =>
    let shown := Text.quoted path
    if (← Host.isPresent path) && !force then
      return .error [s!"File {shown} already exists. Use --force to overwrite."]
    match ← Host.writeFile path Config.sampleText with
    | .error reason => return .error [s!"Failed to write {shown}", reason]
    | .ok () =>
      Host.print s!"Sample configuration written to {shown}\n"
      Host.print s!"Validate with: stampede config validate --config-file {shown}\n"
      return .ok ()

/-- The task that checks the settings of a file. -/
def validateTask (path : String) : m Ending := do
  match ← settingsFile (some path) with
  | none => return .error [s!"Configuration file not found: {Text.quoted path}"]
  | some file =>
    let environment ← settingsEnvironment
    let directories ← (checkedPaths file environment {}).filterM Host.isDirectory
    match Config.load directories.contains file environment with
    | .ok _ =>
      Host.print "Configuration file is valid\n"
      return .ok ()
    | .error error =>
      Host.print s!"Configuration validation failed: {error.message}\n"
      return .error [error.message]

/-- Do what is asked for. -/
def perform (arguments : CommandLine.Arguments) : m Ending :=
  match arguments.task with
  | .standard => runTask arguments arguments.outer
  | .run flags => runTask arguments flags
  | .sample output force => sampleTask output force
  | .validate path => validateTask path

/-- The version of the program. -/
def versionText : String := "stampede 0.1.0\n"

/-- How the program is used. -/
def usageText : String :=
  "Usage: stampede [OPTIONS] [run | config sample | config validate]\n"

/-- The texts about a fault, one below the other. -/
def faultText : List String → String
  | [] => ""
  | [text] => s!"Error: {text}\n"
  | [text, cause] => s!"Error: {text}\n\nCaused by:\n    {cause}\n"
  | text :: causes =>
    let lines := causes.zipIdx.map fun (cause, index) => s!"    {index}: {cause}\n"
    s!"Error: {text}\n\nCaused by:\n{String.join lines}"

/-- The exit status of a command line that cannot be used. -/
def usageStatus : UInt32 := 2

/-- Run the program with the words of a command line; the result is its exit
status. -/
def run (words : List String) : m UInt32 := do
  match CommandLine.Arguments.read words with
  | .error .version =>
    Host.print versionText
    return 0
  | .error .help =>
    Host.print usageText
    return 0
  | .error _ =>
    Host.complain usageText
    return usageStatus
  | .ok arguments =>
    match ← perform arguments with
    | .ok () => return 0
    | .error texts =>
      Host.complain (faultText texts)
      return 1

end Program
end TenantLoad
