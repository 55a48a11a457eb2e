import TenantLoad.Run.Report
import Mathlib.Data.List.Infix

/-!
# What the text of a report shows

The text of a report holds the lines of every stage and then, one behind the
other, the lines of all tenants, each of which says of its tenant whether it did
all of its work.  It ends with the mark of an interruption exactly if the run
was interrupted.
-/

namespace TenantLoad
namespace Run
namespace Report

/-- The beginning of the line about a tenant, which says whose it is. -/
def tenantHead (tenant : Tenant.Outcome) : String :=
  s!"  tenant {tenant.tenant} ({tenant.orgSlug}): "

/-- The stage that the line about a failed tenant names. -/
def failedAt (tenant : Tenant.Outcome) : String :=
  (tenant.failedStage.map Stage.name).getD "run"

/-- The mark of an interruption. -/
def interruptedMark : String := " (interrupted)"

/-- A text shows all of a report. -/
structure Shows (report : Report) (text : String) : Prop where
  /-- It has the lines of every stage. -/
  stages : ∀ name stage, (name, stage) ∈ report.summary →
    (stageText name stage (report.throughput stage)).toList <:+: text.toList
  /-- It has the lines of all tenants, in their order and with nothing between them. -/
  tenants : (report.tenants.map tenantText).flatMap String.toList <:+: text.toList
  /-- A tenant's line says that all is well exactly if the tenant did all of its work. -/
  well : ∀ tenant ∈ report.tenants,
    (tenantHead tenant ++ "ok, ").toList <+: (tenantText tenant).toList ↔
      tenant.isSuccess = true
  /-- Otherwise it says where the tenant failed and why. -/
  failed : ∀ tenant ∈ report.tenants, ∀ error, tenant.error = some error →
    tenantText tenant = tenantHead tenant ++ s!"FAILED at {failedAt tenant}: {error}\n"
  /-- Its end tells whether the run was interrupted. -/
  interrupted : interruptedMark.toList <:+ text.toList ↔ report.interrupted = true

variable {tenant : Tenant.Outcome} {error : String}

theorem tenantText_of_isSuccess
    (succeeded : tenant.error = none) :
    tenantText tenant = tenantHead tenant ++ "ok, " ++ s!"{tenant.tables.length} table(s)\n" := by
  rw [← String.toList_inj]
  simp [tenantText, succeeded, tenantHead, toString]

theorem tenantText_of_error
    (fails : tenant.error = some error) :
    tenantText tenant = tenantHead tenant ++ s!"FAILED at {failedAt tenant}: {error}\n" := by
  rw [← String.toList_inj]
  simp [tenantText, fails, tenantHead, failedAt, toString]

/-- The word behind the beginning of a tenant's line is its verdict. -/
theorem prefix_tenantText_iff
    (tenant : Tenant.Outcome) :
    (tenantHead tenant ++ "ok, ").toList <+: (tenantText tenant).toList ↔
      tenant.isSuccess = true := by
  cases ends : tenant.error with
  | none =>
      rw [tenantText_of_isSuccess ends, String.toList_append]
      simp [Tenant.Outcome.isSuccess, ends]
  | some error =>
      rw [tenantText_of_error ends, String.toList_append, String.toList_append,
        List.prefix_append_right_inj]
      simp [Tenant.Outcome.isSuccess, ends, toString]

/-- The lines of all stages. -/
def stageLines (report : Report) : String :=
  String.join (report.summary.map fun (name, stage) =>
    stageText name stage (report.throughput stage))

/-- The lines of all tenants. -/
def tenantLines (report : Report) : String := String.join (report.tenants.map tenantText)

/-- The parts of the text of a report. -/
theorem text_eq
    (report : Report) :
    report.text =
      "=== Stress Test Summary ===\n" ++ report.stageLines ++ "\nTenants:\n" ++
        report.tenantLines ++ ("\nElapsed: " ++ twoPlaces report.elapsed.secondsFloat ++ "s") ++
        if report.interrupted then interruptedMark else "" :=
  rfl

theorem stageLines_infix
    (report : Report) :
    report.stageLines.toList <:+: report.text.toList := by
  rw [text_eq]
  simp only [String.toList_append, List.append_assoc]
  exact List.infix_append' ..

theorem tenantLines_infix
    (report : Report) :
    report.tenantLines.toList <:+: report.text.toList := by
  rw [text_eq, String.toList_append, String.toList_append, String.toList_append,
    List.append_assoc]
  exact List.infix_append ..

/-- The text ends with the mark, or else with the unit of the time. -/
theorem suffix_text_iff
    (report : Report) :
    interruptedMark.toList <:+ report.text.toList ↔ report.interrupted = true := by
  rw [text_eq]
  cases report.interrupted with
  | true =>
      rw [if_pos rfl, String.toList_append]
      exact ⟨fun _ => rfl, fun _ => List.suffix_append ..⟩
  | false =>
      simp only [Bool.false_eq_true, if_false, iff_false, String.append_empty]
      rintro ⟨before, same⟩
      rw [← String.append_assoc, String.toList_append] at same
      have last := congrArg List.getLast? same
      rw [List.getLast?_append, List.getLast?_append] at last
      exact absurd last (by simp [interruptedMark])

/-- Every part of a text put together is in it. -/
theorem infix_join
    {part : String}
    {parts : List String}
    (member : part ∈ parts) :
    part.toList <:+: (String.join parts).toList := by
  obtain ⟨before, after, rfl⟩ := List.append_of_mem member
  rw [String.join_append, String.join_cons, String.toList_append, String.toList_append]
  exact List.infix_append' ..

theorem shows_text
    (report : Report) :
    report.Shows report.text where
  stages := by
    intro name stage member
    refine List.IsInfix.trans ?_ report.stageLines_infix
    rw [stageLines]
    exact infix_join (List.mem_map.mpr ⟨(name, stage), member, rfl⟩)
  tenants := by
    rw [← String.toList_join]
    exact report.tenantLines_infix
  well := fun tenant _ => prefix_tenantText_iff tenant
  failed := fun _ _ _ => tenantText_of_error
  interrupted := report.suffix_text_iff

end Report
end Run
end TenantLoad
