import TenantLoad.Run.TimedRun

/-!
# Scripted services

A scripted service answers calls from memory by rules.  A rule speaks of one
stage; the first rule all of whose conditions hold decides how a call ends,
and a call without a rule succeeds.
-/

namespace TenantLoad
namespace Service

/-- The facts about a call that rules ask for. -/
structure Facts where
  tenant : Nat
  /-- The tenant's table, counted in order of creation. -/
  table : Option Nat := none
  column : Option String := none
  row : Option Nat := none
  /-- How often the key of the row has been sent for the table, this time
  included. -/
  attempt : Option Nat := none
  /-- The earlier calls of the stage for the table. -/
  call : Option Nat := none

/-- How a rule ends a call. -/
inductive Decision where
  | failure (error : Api.Error)
  | crash (message : String)
  /-- Success, with a status and a slug of its own if they are given. -/
  | success (status : Option Nat) (slug : Option String)

/-- A rule: the conditions that are given must hold. -/
structure Rule where
  tenant : Option Nat := none
  table : Option Nat := none
  column : Option String := none
  row : Option Nat := none
  attempt : Option Nat := none
  call : Option Nat := none
  decision : Decision

namespace Rule

/-- Whether a condition, if it is given, holds. -/
def holds [DecidableEq α] (condition fact : Option α) : Bool :=
  match condition with
  | none => true
  | some wanted => fact == some wanted

/-- Whether a rule applies to a call. -/
def applies (rule : Rule) (facts : Facts) : Bool :=
  holds rule.tenant (some facts.tenant) && holds rule.table facts.table &&
    holds rule.column facts.column && holds rule.row facts.row &&
    holds rule.attempt facts.attempt && holds rule.call facts.call

end Rule

/-- A moment at which the shutdown signal is raised: a tenant's call of a
stage, counted over all tables. -/
structure ShutdownPoint where
  tenant : Nat
  stage : Stage
  call : Nat
  deriving Repr, DecidableEq

/-- The script of a service. -/
structure Script where
  connect : List Rule
  rules : Stage → List Rule
  /-- The lengths of the calls of a stage in milliseconds, repeated in order;
  none means that calls take no time. -/
  latency : Stage → List Nat
  shutdown : List ShutdownPoint

/-- A call that has been made. -/
structure LoggedCall where
  tenant : Nat
  table : Option Nat
  call : Api.Call
  attempt : Nat

/-- A call as JSON: the slug of its table, a row's key and attempt, the
body. -/
def LoggedCall.toJson (logged : LoggedCall) : Json :=
  match logged.call with
  | .addRow slug key row => .list [.text slug, .text key, .natural logged.attempt, row]
  | call =>
    match call.slug? with
    | some slug => .list [.text slug, call.body]
    | none => call.body

/-- What a scripted service remembers. -/
structure Memory where
  /-- The tenants and slugs of all tables, in order of creation. -/
  tables : List (Nat × String) := []
  /-- The calls made, latest first. -/
  calls : List LoggedCall := []

namespace Memory

/-- The slugs of a tenant's tables. -/
def slugs (memory : Memory) (tenant : Nat) : List String :=
  memory.tables.filterMap fun table => if table.1 = tenant then some table.2 else none

/-- The index of the newest of a tenant's tables with a slug. -/
def tableOf? (memory : Memory) (tenant : Nat) (slug : String) : Option Nat :=
  let slugs := memory.slugs tenant
  (slugs.reverse.findIdx? fun other => other == slug).map fun place => slugs.length - 1 - place

/-- The index of the table that a tenant's call is about. -/
def tableFor? (memory : Memory) (tenant : Nat) (call : Api.Call) : Option Nat :=
  match call with
  | .signup _ => none
  | .createTable _ => some (memory.slugs tenant).length
  | .addColumn slug _ | .addRow slug _ _ | .search slug _ => memory.tableOf? tenant slug

/-- The calls of a tenant that a condition holds of. -/
def countCalls (memory : Memory) (tenant : Nat) (condition : LoggedCall → Bool) : Nat :=
  memory.calls.countP fun logged => logged.tenant == tenant && condition logged

end Memory

namespace Script

/-- The number after the last colon of a row's key. -/
def rowOfKey? (key : String) : Option Nat :=
  (String.ofList ((key.toList.reverse.takeWhile fun c => c != ':').reverse)).toNat?

/-- The name of the column that a call adds. -/
def columnOf? : Api.Call → Option String
  | .addColumn _ column => some column.name
  | _ => none

/-- The facts about a tenant's call. -/
def facts (memory : Memory) (tenant : Nat) (call : Api.Call) : Facts :=
  let table := memory.tableFor? tenant call
  { tenant
    table
    column := columnOf? call
    row := call.key?.bind rowOfKey?
    attempt := call.key?.map fun key =>
      memory.countCalls tenant (fun logged => logged.table == table && logged.call.key? == some key) + 1
    call := some (memory.countCalls tenant fun logged =>
      logged.table == table && logged.call.stage == call.stage) }

/-- The status of a call that succeeds. -/
def successStatus : Stage → Nat
  | .search => 200
  | _ => 201

/-- The slug of a tenant's table. -/
def tableSlug (tenant table : Nat) : String := s!"t{tenant}-{table}"

/-- How a call ends by a decision. -/
def ending (facts : Facts) (stage : Stage) : Decision → Api.Attempt
  | .failure error => .failed error
  | .crash message => .crashed message
  | .success status slug =>
    .returned
      { status := status.getD (successStatus stage)
        content :=
          match stage with
          | .createTable => .slug (slug.getD (tableSlug facts.tenant (facts.table.getD 0)))
          | .search => .found ⟨[], 0, []⟩
          | _ => .nothing }

/-- The decision of the first rule that applies. -/
def decide (rules : List Rule) (facts : Facts) : Decision :=
  ((rules.find? fun rule => rule.applies facts).map Rule.decision).getD (.success none none)

/-- The length of a call in milliseconds. -/
def length (script : Script) (stage : Stage) (call : Nat) : Nat :=
  let lengths := script.latency stage
  lengths.getD (call % lengths.length) 0

/-- Whether the shutdown signal is raised as a tenant's call begins. -/
def raises (script : Script) (memory : Memory) (tenant : Nat) (stage : Stage) : Bool :=
  let call := memory.countCalls tenant fun logged => logged.call.stage == stage
  script.shutdown.contains ⟨tenant, stage, call⟩

/-- The response to a tenant's call. -/
def respond (script : Script) (memory : Memory) (tenant : Nat) (call : Api.Call) :
    Run.Response × Memory :=
  let stage := call.stage
  let facts := facts memory tenant call
  let attempt := ending facts stage (decide (script.rules stage) facts)
  let tables :=
    match stage, attempt with
    | .createTable, .returned reply => memory.tables ++ [(tenant, reply.slug)]
    | _, _ => memory.tables
  ({ raises := script.raises memory tenant stage
     milliseconds := script.length stage (facts.call.getD 0)
     attempt },
    { tables
      calls := ⟨tenant, facts.table, call, facts.attempt.getD 1⟩ :: memory.calls })

/-- Whether a tenant's connection opens. -/
def connection (script : Script) (tenant : Nat) : Retry.Attempt Unit Api.Error :=
  match decide script.connect { tenant } with
  | .failure error => .failed error
  | .crash message => .crashed message
  | .success .. => .returned ()

/-- The service that follows a script. -/
def service (script : Script) : Run.Service Memory :=
  { connect := script.connection, respond := script.respond }

end Script
end Service
end TenantLoad
