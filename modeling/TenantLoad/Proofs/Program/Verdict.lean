import TenantLoad.Program.Tasks
import TenantLoad.Proofs.Run.ReportText

/-!
# How a load run is concluded

The report is printed whatever it says, with all that it holds, the summary is
written wherever it can be, and the run ends well exactly if the report is a
success and the summary could be written.
-/

namespace TenantLoad
namespace Program

namespace Surroundings

theorem print_apply
    (text : String)
    (surroundings : Surroundings) :
    (Host.print text : StateM Surroundings Unit) surroundings =
      ((), { surroundings with printed := surroundings.printed ++ text }) :=
  rfl

theorem writeFile_apply
    (path text : String)
    (surroundings : Surroundings) :
    (Host.writeFile path text : StateM Surroundings (Except String Unit)) surroundings =
      surroundings.write path text :=
  rfl

/-- What has been printed makes no difference to the files. -/
theorem write_print
    (surroundings : Surroundings)
    (path text printed : String) :
    ({ surroundings with printed } : Surroundings).write path text =
      ((surroundings.write path text).1,
        { (surroundings.write path text).2 with printed }) := by
  unfold write
  dsimp only
  split
  · rfl
  · split <;> rfl

/-- A file that is written can be read. -/
theorem file?_write
    {surroundings after : Surroundings}
    {path text : String}
    (writes : surroundings.write path text = (.ok (), after)) :
    after.file? path = some text.toUTF8 := by
  unfold write at writes
  split at writes
  · cases writes
  · split at writes
    · cases writes
    · cases writes
      exact List.lookup_cons_self

end Surroundings

/-- The text that the summary of a report is written as. -/
def summaryText (report : Run.Report) (output : Config.Output) : String :=
  if output.pretty then report.summary.prettyText else report.summary.compactText

/-- A run with no error of a tenant is a success unless it was interrupted. -/
theorem isSuccess_iff
    (report : Run.Report) :
    report.isSuccess = true ↔
      report.interrupted = false ∧ ∀ outcome ∈ report.tenants, outcome.error = none := by
  simp [Run.Report.isSuccess, Tenant.Outcome.isSuccess]

/-- The verdict on a report is good exactly if the report is a success. -/
theorem verdict_eq_ok_iff
    (report : Run.Report) :
    verdict report = .ok () ↔ report.isSuccess = true := by
  have spared_iff : ¬report.failedTenants.length > 0 ↔
      ∀ outcome ∈ report.tenants, outcome.error = none := by
    rw [Nat.not_lt, Nat.le_zero, List.length_eq_zero_iff, Run.Report.failedTenants,
      List.filter_eq_nil_iff]
    simp [Tenant.Outcome.isSuccess]
  rw [isSuccess_iff, ← spared_iff, verdict]
  cases report.interrupted with
  | true => simp
  | false =>
      by_cases fails : report.failedTenants.length > 0
      · simp [fails]
      · simp [fails]

/-- What is to be seen of a load run that has been concluded. -/
structure Concluded (report : Run.Report) (output : Config.Output) (before : Surroundings)
    (ending : Ending) (after : Surroundings) : Prop where
  /-- The report is printed first of all. -/
  printed : ∃ rest, after.printed = before.printed ++ s!"\n{report.text}\n" ++ rest
  /-- What is printed shows every stage, every tenant and whether the run was interrupted. -/
  shown : report.Shows report.text
  /-- A summary that can be written is found in its file. -/
  written : ∀ path, output.path = some path →
    (before.write path (summaryText report output)).1 = .ok () →
      after.file? path = some (summaryText report output).toUTF8
  /-- A summary that cannot be written spoils the run. -/
  spoiled : ∀ path reason, output.path = some path →
    (before.write path (summaryText report output)).1 = .error reason → ending ≠ .ok ()
  /-- Otherwise the report tells how the run ends. -/
  verdict :
    (∀ path, output.path = some path →
      (before.write path (summaryText report output)).1 = .ok ()) →
        (ending = .ok () ↔ report.isSuccess = true)

section Conclude

variable {report : Run.Report} {output : Config.Output} {before after : Surroundings}
  {path reason : String}

/-- Without a file to write only the report is printed. -/
theorem conclude_of_none
    (unasked : output.path = none) :
    (conclude report output : StateM Surroundings Ending) before =
      (verdict report, { before with printed := before.printed ++ s!"\n{report.text}\n" }) := by
  obtain ⟨path, pretty⟩ := output
  cases unasked
  rfl

/-- A summary is written after the report has been printed. -/
theorem conclude_of_write_eq_ok
    (asked : output.path = some path)
    (writes : before.write path (summaryText report output) = (.ok (), after)) :
    (conclude report output : StateM Surroundings Ending) before =
      (verdict report,
        { after with
          printed := before.printed ++ s!"\n{report.text}\n" ++
            s!"\nMetrics written to {path}\n" }) := by
  have writesAfter := before.write_print path (summaryText report output)
    (before.printed ++ s!"\n{report.text}\n")
  rw [writes] at writesAfter
  obtain ⟨_, pretty⟩ := output
  cases asked
  simp only [conclude, writeSummary, bind, StateT.bind, Surroundings.print_apply,
    Surroundings.writeFile_apply]
  unfold summaryText at writesAfter
  simp only [writesAfter]
  rfl

/-- A summary that cannot be written ends the run. -/
theorem conclude_of_write_eq_error
    (asked : output.path = some path)
    (fails : before.write path (summaryText report output) = (.error reason, after)) :
    (conclude report output : StateM Surroundings Ending) before =
      (.error [s!"Failed to write metrics to {Text.quoted path}", reason],
        { after with printed := before.printed ++ s!"\n{report.text}\n" }) := by
  have failsAfter := before.write_print path (summaryText report output)
    (before.printed ++ s!"\n{report.text}\n")
  rw [fails] at failsAfter
  obtain ⟨_, pretty⟩ := output
  cases asked
  simp only [conclude, writeSummary, bind, StateT.bind, Surroundings.print_apply,
    Surroundings.writeFile_apply]
  unfold summaryText at failsAfter
  simp only [failsAfter]
  rfl

end Conclude

/-- Every report is concluded. -/
theorem concluded
    (report : Run.Report)
    (output : Config.Output)
    (before : Surroundings) :
    Concluded report output before
      ((conclude report output : StateM Surroundings Ending) before).1
      ((conclude report output : StateM Surroundings Ending) before).2 := by
  cases asked : output.path with
  | none =>
      rw [conclude_of_none asked]
      exact
        { printed := ⟨"", String.append_empty.symm⟩
          shown := report.shows_text
          written := by simp [asked]
          spoiled := by simp [asked]
          verdict := fun _ => verdict_eq_ok_iff report }
  | some path =>
      obtain ⟨⟨result, after⟩, writes⟩ :
        ∃ written, before.write path (summaryText report output) = written := ⟨_, rfl⟩
      cases result with
      | ok _ =>
          rw [conclude_of_write_eq_ok asked writes]
          exact
            { printed := ⟨_, rfl⟩
              shown := report.shows_text
              written := by
                intro other same _
                rw [asked, Option.some.injEq] at same
                subst same
                have readable := Surroundings.file?_write writes
                exact readable
              spoiled := by
                intro other reason same fails
                rw [asked, Option.some.injEq] at same
                subst same
                rw [writes] at fails
                cases fails
              verdict := fun _ => verdict_eq_ok_iff report }
      | error reason =>
          rw [conclude_of_write_eq_error asked writes]
          have fails : (before.write path (summaryText report output)).1 ≠ .ok () := by
            rw [writes]
            simp
          exact
            { printed := ⟨"", String.append_empty.symm⟩
              shown := report.shows_text
              written := by
                intro other same succeeds
                rw [asked, Option.some.injEq] at same
                subst same
                exact absurd succeeds fails
              spoiled := by
                intro other otherReason same _ ends
                cases ends
              verdict := fun succeeds => absurd (succeeds path asked) fails }

end Program
end TenantLoad
