import TenantLoad.Proofs.Run.Tenants
import TenantLoad.Proofs.Tenant.Progress
import TenantLoad.Proofs.Tenant.Supply

/-!
# Seeded payloads

With the same seed a tenant sends the same payloads in any two runs whose
tables have as many rows and as many searches, and its items have the same
seeds.  Replies, durations, slots, retries, shutdown and the other tenants may
differ.
-/

namespace TenantLoad
namespace Run

open TenantLoad.Tenant (Calls Effect Keeps Settings Stems Supply)
open TenantLoad.Random

/-- The items of a batch have had the generators of the given seeds from its
beginning on. -/
def Seeded (settings : Batch.Settings) (seeds : List UInt64) (batch : Calls) : Prop :=
  ∃ raised, Stems settings (seeds.map Generator.ofSeed) raised batch

/-- Two batches have the same payloads and the same seeds, one for each item. -/
structure SameItems {Payload : Type} (first second : Batch.Settings) (count : Nat)
    (payloads twins : Array Payload) (batch twin : Calls) : Prop where
  same : payloads = twins
  size : payloads.size = count
  seeds : ∃ seeds, seeds.length = count ∧ Seeded first seeds batch ∧ Seeded second seeds twin

/-- Two tenants send the same, and run their batches on the same seeds, wherever
both come to the same step. -/
structure Alike (first second : Settings) (one other : Tenant.State)
    (shown otherShown : List Effect) : Prop where
  identity : one.identity = other.identity
  /-- Calls for the same step and item have the same body. -/
  body : ∀ origin call, .call origin call ∈ shown →
    ∀ twin twinCall, .call twin twinCall ∈ otherShown →
      origin.task = twin.task → origin.item = twin.item → call.body = twinCall.body
  request : ∀ request, one.position = .creatingTable request →
    ∀ twin, other.position = .creatingTable twin →
      one.tables.length = other.tables.length → request = twin
  rows : ∀ table rows batch, one.position = .insertingRows table rows batch →
    ∀ twinTable twins twin, other.position = .insertingRows twinTable twins twin →
      one.newest = other.newest →
        SameItems first.rowBatch second.rowBatch first.rowCount rows twins batch twin
  searches : ∀ table searches batch, one.position = .searching table searches batch →
    ∀ twinTable twins twin, other.position = .searching twinTable twins twin →
      one.newest = other.newest →
        SameItems first.searchBatch second.searchBatch first.searchCount searches twins batch twin

/-- The generators of items are those of seeds. -/
theorem exists_seeds
    (count : Nat)
    (caller : Generator) :
    ∃ seeds : List UInt64, seeds.length = count ∧
      (Batch.itemGenerators count caller).1 = seeds.map Generator.ofSeed := by
  induction count generalizing caller with
  | zero => exact ⟨[], rfl, rfl⟩
  | succ count inductionHypothesis =>
      obtain ⟨seeds, length, generators⟩ := inductionHypothesis (Draw.long caller).2
      refine ⟨(Draw.long caller).1 :: seeds, congrArg (· + 1) length, ?_⟩
      rw [List.map_cons, ← generators]
      rfl

variable {first second : Settings} {supply : Supply} {raised otherRaised : Bool}
  {one other : Tenant.State} {shown otherShown : List Effect}

/-- Tenants that keep to one supply are alike. -/
theorem alike_of_keeps
    (rowCount : first.rowCount = supply.rowCount)
    (searchCount : first.searchCount = supply.searchCount)
    (keeps : Keeps first supply raised one shown)
    (otherKeeps : Keeps second supply otherRaised other otherShown) :
    Alike first second one other shown otherShown where
  identity := keeps.identity.trans otherKeeps.identity.symm
  body := by
    intro origin call member twin twinCall otherMember task item
    have body := keeps.follows origin call member
    rw [task, item, otherKeeps.follows twin twinCall otherMember] at body
    exact (Option.some.inj body).symm
  request := by
    intro request position twin otherPosition same
    have supplied := keeps.supplied
    have otherSupplied := otherKeeps.supplied
    simp only [Tenant.Supplied, position, otherPosition] at supplied otherSupplied
    rw [supplied.1, otherSupplied.1, same]
  rows := by
    intro table rows batch position twinTable twins twin otherPosition same
    have supplied := keeps.supplied
    have otherSupplied := otherKeeps.supplied
    simp only [Tenant.Supplied, position, otherPosition] at supplied otherSupplied
    obtain ⟨_, _, rfl, stems⟩ := supplied
    obtain ⟨_, _, rfl, otherStems⟩ := otherSupplied
    rw [← same] at otherStems ⊢
    obtain ⟨seeds, length, generators⟩ : ∃ seeds : List UInt64, seeds.length = supply.rowCount ∧
      (supply.rows one.newest).1.2 = seeds.map Generator.ofSeed := exists_seeds ..
    rw [generators] at stems otherStems
    rw [rowCount]
    exact
      { same := rfl
        size := Tenant.length_drawRows_rows
        seeds := ⟨seeds, length, ⟨_, stems⟩, ⟨_, otherStems⟩⟩ }
  searches := by
    intro table searches batch position twinTable twins twin otherPosition same
    have supplied := keeps.supplied
    have otherSupplied := otherKeeps.supplied
    simp only [Tenant.Supplied, position, otherPosition] at supplied otherSupplied
    obtain ⟨_, _, rfl, stems⟩ := supplied
    obtain ⟨_, _, rfl, otherStems⟩ := otherSupplied
    rw [← same] at otherStems ⊢
    obtain ⟨seeds, length, generators⟩ : ∃ seeds : List UInt64,
      seeds.length = supply.searchCount ∧
        (supply.searches one.newest).1.2 = seeds.map Generator.ofSeed := exists_seeds ..
    rw [generators] at stems otherStems
    rw [searchCount]
    exact
      { same := rfl
        size := Tenant.length_drawSearches_searches
        seeds := ⟨seeds, length, ⟨_, stems⟩, ⟨_, otherStems⟩⟩ }

/-- In a run that is not shut down a tenant with a table to create can come to
the rows of the first one. -/
theorem reaches_rows
    {settings : Settings}
    (planned : 0 < settings.tableCount)
    (canBegin : settings.rowBatch.canBegin = true)
    {state : State}
    (unraised : state.raised = false)
    {index : Nat}
    {generator : Generator}
    (known : state.tenants[index]? = some (Tenant.initial index generator))
    (reply : Api.Reply) :
    ∃ events final begins one table rows batch,
      state.run settings events = some (final, begins) ∧
      final.tenants[index]? = some one ∧ one.position = .insertingRows table rows batch ∧
      one.newest = 0 := by
  obtain ⟨table, tenant, effects, runs, tables, _⟩ :=
    Tenant.World.run_toFirstRows planned index generator reply
  rw [← unraised] at runs
  obtain ⟨final, runsToo, last⟩ := State.exists_run_of_tenant runs known
  simp only [Tenant.State.insertRows_eq, Batch.State.begin?, canBegin, if_true] at last
  refine ⟨_, final, _, _, table, _, _, runsToo, last, rfl, ?_⟩
  simp [Tenant.State.newest, tables]

/-- The payloads and the seeds of a tenant follow from the seed of the run, the
index of the tenant and the numbers of rows and searches of a table. -/
theorem payloads_of_seed
    (rowCount : first.rowCount = second.rowCount)
    (searchCount : first.searchCount = second.searchCount)
    (seed : UInt64)
    {index tenants otherTenants : Nat}
    (inside : index < tenants)
    (otherInside : index < otherTenants)
    {entropy otherEntropy : Nat → Generator}
    {recorder otherRecorder : Metrics.Recorder}
    {events otherEvents : List Event}
    {final otherFinal : State}
    {begins otherBegins : List Begun}
    (runs :
      (State.initial tenants (generator entropy (some seed)) recorder raised).run first events =
        some (final, begins))
    (otherRuns :
      (State.initial otherTenants (generator otherEntropy (some seed)) otherRecorder
        otherRaised).run second otherEvents = some (otherFinal, otherBegins)) :
    ∃ one shown other otherShown,
      Share first index (.initial tenants (generator entropy (some seed)) recorder raised) final
        events begins (Tenant.initial index (generator entropy (some seed) index)) one shown ∧
      Share second index
        (.initial otherTenants (generator otherEntropy (some seed)) otherRecorder otherRaised)
        otherFinal otherEvents otherBegins
        (Tenant.initial index (generator otherEntropy (some seed) index)) other otherShown ∧
      Alike first second one other shown otherShown := by
  obtain ⟨one, shown, share⟩ := State.share_of_run runs (State.tenants_initial inside ..)
  obtain ⟨other, otherShown, otherShare⟩ :=
    State.share_of_run otherRuns (State.tenants_initial otherInside ..)
  let supply : Supply :=
    { tenant := index
      generator := generator entropy (some seed) index
      rowCount := first.rowCount
      searchCount := first.searchCount }
  have keeps := Tenant.World.keeps_of_run supply rfl rfl share.runs
  have otherKeeps := Tenant.World.keeps_of_run supply rowCount.symm searchCount.symm
    otherShare.runs
  exact ⟨one, shown, other, otherShown, share, otherShare,
    alike_of_keeps rfl rfl keeps otherKeeps⟩

/-- A tenant on its own, and one beside another that fails, with other replies,
slots and attempts: both come to the rows of their table, and the rows and the
seeds are the same. -/
theorem payloads_of_seed_beside_another_tenant :
    let first : Settings :=
      { workload := { tablesPerTenant := 1, rowsPerTable := 3, rowConcurrency := 1 },
        policy := ⟨1, .none⟩, classifier := .standard }
    let second : Settings :=
      { workload := { tablesPerTenant := 1, rowsPerTable := 3, rowConcurrency := 9 },
        policy := ⟨4, .none⟩, classifier := .standard }
    ∃ entropy : Nat → Generator, ∃ events final begins otherEvents otherFinal otherBegins,
      (State.initial 1 (generator entropy (some 42)) .empty false).run first events =
        some (final, begins) ∧
      (State.initial 2 (generator entropy (some 42)) .empty false).run second otherEvents =
        some (otherFinal, otherBegins) ∧
      ∃ one other table rows batch otherTable otherRows otherBatch,
        final.tenants[0]? = some one ∧ otherFinal.tenants[0]? = some other ∧
        one.position = .insertingRows table rows batch ∧
        other.position = .insertingRows otherTable otherRows otherBatch ∧
        SameItems first.rowBatch second.rowBatch 3 rows otherRows batch otherBatch := by
  intro first second
  obtain ⟨seeds, seeded⟩ : ∃ seeds, generator (fun _ => .ofSeed 0) (some 42) = seeds := ⟨_, rfl⟩
  obtain ⟨events, final, begins, one, table, rows, batch, runs, known, position, newest⟩ :=
    reaches_rows (show 0 < first.tableCount by decide) (by decide)
      (show (State.initial 1 seeds .empty false).raised = false from rfl)
      (State.tenants_initial Nat.zero_lt_one seeds .empty false) ⟨201, .slug "one"⟩
  -- The neighbour comes to no connection.
  obtain ⟨between, begun, fails, unraised, waits⟩ : ∃ between begun,
      (State.initial 2 seeds .empty false).step second
          (.tenant 1 (.begin (.failed (.transport "reset")))) = some (between, begun) ∧
        between.raised = false ∧ between.tenants[0]? = some (Tenant.initial 0 (seeds 0)) := by
    have neighbour := State.tenants_initial Nat.one_lt_two seeds .empty false
    have waits := State.tenants_initial Nat.zero_lt_two seeds .empty false
    obtain ⟨next, effects, fails⟩ : ∃ next effects, (Tenant.initial 1 (seeds 1)).step second false
        (.begin (.failed (.transport "reset"))) = some (next, effects) := by
      rw [Tenant.initial_eq]
      exact ⟨_, _, rfl⟩
    refine ⟨_, _, State.step_tenant neighbour fails, rfl, ?_⟩
    rw [Array.getElem?_setIfInBounds_ne Nat.one_ne_zero]
    exact waits
  obtain ⟨_, otherFinal, otherBegins, other, otherTable, otherRows, otherBatch, otherRuns,
      otherKnown, otherPosition, otherNewest⟩ :=
    reaches_rows (show 0 < second.tableCount by decide) (by decide) unraised waits
      ⟨200, .slug "other"⟩
  have both := State.run_cons_eq_some_iff.mpr ⟨_, _, _, fails, otherRuns, rfl⟩
  rw [← seeded] at runs both
  obtain ⟨here, shown, there, otherShown, share, otherShare, alike⟩ :=
    payloads_of_seed (show first.rowCount = second.rowCount from rfl)
      (show first.searchCount = second.searchCount from rfl) 42 Nat.zero_lt_one Nat.zero_lt_two
      runs both
  rw [share.known, Option.some.injEq] at known
  rw [otherShare.known, Option.some.injEq] at otherKnown
  subst known otherKnown
  exact ⟨_, _, final, begins, _, otherFinal, _, runs, both, here, there, table, rows, batch,
    otherTable, otherRows, otherBatch, share.known, otherShare.known, position, otherPosition,
    alike.rows table rows batch position otherTable otherRows otherBatch otherPosition
      (newest.trans otherNewest.symm)⟩

end Run
end TenantLoad
