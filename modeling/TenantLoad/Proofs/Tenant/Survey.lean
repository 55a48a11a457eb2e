import TenantLoad.Proofs.Tenant.Journey

/-!
# All effects of a tenant

What a journey through the plan says of the effects as a whole: they are those
of the planned steps in order, every step has an account, and no more calls of
a stage are under way than may be.
-/

namespace TenantLoad
namespace Tenant

variable {settings : Settings} {raised : Bool} {state : State} {world : World}
  {effects : List Effect} {done ahead : List Task} {past part : List Effect}
  {tables : List Table} {task : Task}

/-! ## Parts of a journey -/

/-- The effects of steps that are done belong to these steps. -/
theorem Accomplished.task_mem
    (accomplished : Accomplished settings tables done past) :
    ∀ effect ∈ past, effect.task ∈ done := by
  induction accomplished with
  | nil => simp
  | snoc soFar completed inductionHypothesis =>
      obtain ⟨results, account, _⟩ := completed.account
      intro effect member
      rcases List.mem_append.mp member with earlier | now
      · exact List.mem_append_left _ (inductionHypothesis effect earlier)
      · rw [account.owned effect now]
        exact List.mem_append_right _ (List.mem_singleton.mpr rfl)

theorem Accomplished.partOf_of_not_mem
    (accomplished : Accomplished settings tables done past)
    (undone : task ∉ done) :
    partOf task past = [] := by
  refine partOf_eq_nil ?_
  rintro effect member rfl
  exact undone (accomplished.task_mem effect member)

/-- Every step that is done is completed by its own effects. -/
theorem Accomplished.completed
    (accomplished : Accomplished settings tables done past)
    (distinct : done.Nodup) :
    ∀ task ∈ done, Completed settings tables task (partOf task past) := by
  induction accomplished with
  | nil => simp
  | @snoc done last past part soFar completed inductionHypothesis =>
      obtain ⟨results, account, _⟩ := completed.account
      obtain ⟨distinctBefore, _, apart⟩ := List.nodup_append.mp distinct
      intro task member
      rw [partOf_append]
      rcases List.mem_append.mp member with earlier | now
      · have different : task ≠ last := apart task earlier last (List.mem_singleton.mpr rfl)
        rw [account.partOf_of_ne different, List.append_nil]
        exact inductionHypothesis distinctBefore task earlier
      · obtain rfl := List.mem_singleton.mp now
        have undone : task ∉ done := fun earlier => apart task earlier task now rfl
        rw [soFar.partOf_of_not_mem undone, List.nil_append, partOf_eq_self account.owned]
        exact completed

/-- The effects of steps that are done are theirs, one step after the other. -/
theorem Accomplished.flatMap_partOf
    (accomplished : Accomplished settings tables done past)
    (distinct : done.Nodup) :
    (done.flatMap fun task => partOf task past) = past := by
  induction accomplished with
  | nil => rfl
  | @snoc done last past part soFar completed inductionHypothesis =>
      obtain ⟨results, account, _⟩ := completed.account
      obtain ⟨distinctBefore, _, apart⟩ := List.nodup_append.mp distinct
      have before : (done.flatMap fun task => partOf task (past ++ part)) =
          done.flatMap fun task => partOf task past := by
        refine List.flatMap_congr ?_
        intro task earlier
        have different : task ≠ last := apart task earlier last (List.mem_singleton.mpr rfl)
        rw [partOf_append, account.partOf_of_ne different, List.append_nil]
      have undone : last ∉ done :=
        fun earlier => apart last earlier last (List.mem_singleton.mpr rfl) rfl
      rw [List.flatMap_append, before, inductionHypothesis distinctBefore, List.flatMap_cons,
        List.flatMap_nil, List.append_nil, partOf_append, soFar.partOf_of_not_mem undone,
        List.nil_append, partOf_eq_self account.owned]

/-- The account of the step at which a tenant stands. -/
theorem Stands.account
    (stands : Stands settings raised state ahead part) :
    ahead = [] ∧ part = [] ∨
      ∃ task later results pending underWay, ahead = task :: later ∧
        Account settings state.tables task part results pending underWay ∧
          (state.isOver = true → underWay = 0) := by
  cases stands with
  | waiting =>
      exact Or.inr ⟨_, _, _, _, _, settings.plan_eq, .nil .., fun _ => rfl⟩
  | asking ask later asks ahead sited =>
      obtain ⟨single, fits, _⟩ := state.asks asks sited
      exact Or.inr ⟨_, _, _, _, _, rfl, .ofCall single fits, fun ended =>
        absurd ended (Bool.eq_false_iff.mp (State.isOver_of_asking asks))⟩
  | working job later generators acts works ahead sited serves conduct =>
      exact Or.inr ⟨_, _, _, _, _, rfl, conduct.account serves, fun ended =>
        absurd ended (Bool.eq_false_iff.mp (State.isOver_of_job works))⟩
  | finished => exact Or.inl ⟨rfl, rfl⟩
  | stopped task later failure ended stage broken =>
      obtain ⟨results, account, _⟩ := broken
      exact Or.inr ⟨_, _, _, _, _, rfl, account, fun _ => rfl⟩
  | crashed task later ended account =>
      exact Or.inr ⟨_, _, _, _, _, rfl, account, fun _ => rfl⟩

/-! ## All effects -/

/-- What a journey says of the effects, step by step. -/
structure Survey (settings : Settings) (tables : List Table) (effects : List Effect)
    (done ahead : List Task) : Prop where
  plan : settings.plan = done ++ ahead
  planned : effects = settings.plan.flatMap fun task => partOf task effects
  completed : ∀ task ∈ done, Completed settings tables task (partOf task effects)
  untouched : ∀ task ∉ done, ahead.head? ≠ some task → partOf task effects = []
  account : ∀ task, ∃ results pending underWay,
    Account settings tables task (partOf task effects) results pending underWay

/-- The effects of a journey that has come to the end of its plan. -/
theorem Survey.of_done
    (accomplished : Accomplished settings tables settings.plan effects) :
    Survey settings tables effects settings.plan [] where
  plan := (List.append_nil _).symm
  planned := (accomplished.flatMap_partOf settings.nodup_plan).symm
  completed := accomplished.completed settings.nodup_plan
  untouched := fun _ undone _ => accomplished.partOf_of_not_mem undone
  account := by
    intro task
    by_cases member : task ∈ settings.plan
    · obtain ⟨results, account, _⟩ :=
        (accomplished.completed settings.nodup_plan task member).account
      exact ⟨_, _, _, account⟩
    · rw [accomplished.partOf_of_not_mem member]
      exact ⟨_, _, _, .nil ..⟩

/-- The effects of the step at which a journey stands. -/
theorem Accomplished.partOf_head
    {later : List Task}
    {results : Option Nat → List Api.Attempt}
    {pending : Option Nat → Bool}
    {underWay : Nat}
    (plan : settings.plan = done ++ task :: later)
    (accomplished : Accomplished settings tables done past)
    (account : Account settings tables task part results pending underWay) :
    partOf task (past ++ part) = part := by
  have distinct := settings.nodup_plan
  rw [plan] at distinct
  have undone : task ∉ done := fun member =>
    (List.nodup_append.mp distinct).2.2 task member task (List.mem_cons_self ..) rfl
  rw [partOf_append, accomplished.partOf_of_not_mem undone, List.nil_append,
    partOf_eq_self account.owned]

/-- The effects of a journey that stands at a step. -/
theorem Survey.of_head
    {later : List Task}
    {results : Option Nat → List Api.Attempt}
    {pending : Option Nat → Bool}
    {underWay : Nat}
    (plan : settings.plan = done ++ task :: later)
    (accomplished : Accomplished settings tables done past)
    (account : Account settings tables task part results pending underWay) :
    Survey settings tables (past ++ part) done (task :: later) := by
  have distinct := settings.nodup_plan
  rw [plan] at distinct
  obtain ⟨distinctDone, distinctAhead, apart⟩ := List.nodup_append.mp distinct
  have undone : task ∉ done := fun member => apart task member task (List.mem_cons_self ..) rfl
  have ofDone : ∀ other ∈ done, partOf other (past ++ part) = partOf other past := by
    intro other member
    have different : other ≠ task := by
      rintro rfl
      exact undone member
    rw [partOf_append, account.partOf_of_ne different, List.append_nil]
  have ofTask := accomplished.partOf_head plan account
  have ofOther : ∀ other ∉ done, other ≠ task → partOf other (past ++ part) = [] := by
    intro other undone different
    rw [partOf_append, accomplished.partOf_of_not_mem undone, account.partOf_of_ne different,
      List.append_nil]
  have completed : ∀ other ∈ done, Completed settings tables other (partOf other (past ++ part)) := by
    intro other member
    rw [ofDone other member]
    exact accomplished.completed distinctDone other member
  refine ⟨plan, ?_, completed, ?_, ?_⟩
  · have ofLater : (later.flatMap fun other => partOf other (past ++ part)) = [] := by
      rw [List.flatMap_eq_nil_iff]
      intro other member
      refine ofOther other ?_ ?_
      · intro earlier
        exact apart other earlier other (List.mem_cons_of_mem _ member) rfl
      · rintro rfl
        exact (List.nodup_cons.mp distinctAhead).1 member
    rw [plan, List.flatMap_append, List.flatMap_congr ofDone,
      accomplished.flatMap_partOf distinctDone, List.flatMap_cons, ofTask, ofLater,
      List.append_nil]
  · intro other undone different
    refine ofOther other undone ?_
    rintro rfl
    exact different rfl
  · intro other
    by_cases member : other ∈ done
    · obtain ⟨_, account, _⟩ := (completed other member).account
      exact ⟨_, _, _, account⟩
    · by_cases same : other = task
      · rw [same, ofTask]
        exact ⟨_, _, _, account⟩
      · rw [ofOther other member same]
        exact ⟨_, _, _, .nil ..⟩

theorem Journey.survey
    (journey : Journey settings world effects done ahead past part) :
    Survey settings world.state.tables effects done ahead := by
  obtain ⟨plan, rfl, accomplished, stands⟩ := journey
  rcases stands.account with ⟨rfl, rfl⟩ | ⟨task, later, _, _, _, rfl, account, _⟩
  · obtain rfl : settings.plan = done := by rw [plan, List.append_nil]
    rw [List.append_nil]
    exact .of_done accomplished
  · exact .of_head plan accomplished account

/-! ## Calls under way in a stage -/

/-- The calls of a step are within the width of every stage. -/
theorem Account.paced_stageOf
    {results : Option Nat → List Api.Attempt}
    {pending : Option Nat → Bool}
    {underWay : Nat}
    (account : Account settings tables task part results pending underWay)
    (stage : Stage) :
    Paced (settings.width stage) (if task.stage = stage then underWay else 0)
      (stageOf stage part) := by
  rw [stageOf_eq_ite stage account.owned]
  split
  · rename_i same
    rw [← same]
    exact account.paced
  · exact .nil _

/-- Steps that are done leave no call under way. -/
theorem Accomplished.paced_stageOf
    (accomplished : Accomplished settings tables done past)
    (stage : Stage) :
    Paced (settings.width stage) 0 (stageOf stage past) := by
  induction accomplished with
  | nil => exact .nil _
  | snoc soFar completed inductionHypothesis =>
      obtain ⟨results, account, _⟩ := completed.account
      rw [stageOf_append]
      have paced := account.paced_stageOf stage
      rw [ite_self] at paced
      exact inductionHypothesis.append paced

/-- No more calls of a stage are under way than may be, and none once the
tenant is done. -/
theorem Journey.paced
    (journey : Journey settings world effects done ahead past part)
    (stage : Stage) :
    ∃ underWay, Paced (settings.width stage) underWay (stageOf stage effects) ∧
      (world.state.isOver = true → underWay = 0) := by
  obtain ⟨plan, rfl, accomplished, stands⟩ := journey
  have before := accomplished.paced_stageOf stage
  rw [stageOf_append]
  rcases stands.account with ⟨_, rfl⟩ |
    ⟨task, later, results, pending, underWay, _, account, idle⟩
  · exact ⟨0, before.append (.nil _), fun _ => rfl⟩
  · refine ⟨_, before.append (account.paced_stageOf stage), ?_⟩
    intro ended
    rw [idle ended, ite_self]

end Tenant
end TenantLoad
