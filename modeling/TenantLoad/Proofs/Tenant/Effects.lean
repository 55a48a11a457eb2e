import TenantLoad.Proofs.Tenant.Plan
import Mathlib.Algebra.BigOperators.Group.List.Basic
import Mathlib.Data.List.Infix

/-!
# Reading the effects of a tenant

The calls that began, the calls that ended and the entries that were recorded
are read off a tenant's effects in order.  The effects of a step and those of
one item of a step are picked out likewise, so every count of a whole is that
of its parts.
-/

namespace TenantLoad
namespace Tenant

namespace Effect

/-- The step that an effect belongs to; a connection belongs to signing up. -/
def task : Effect → Task
  | .connect _ => .signUp
  | .call origin _ | .ended origin _ _ | .record origin _ => origin.task

/-- What an effect is made for; a connection is made for no call. -/
def origin? : Effect → Option Origin
  | .connect _ => none
  | .call origin _ | .ended origin _ _ | .record origin _ => some origin

/-- Whether an effect is made for an item of a step. -/
def isFor (task : Task) (item : Option Nat) (effect : Effect) : Bool :=
  effect.origin?.any fun origin => decide (origin.task = task ∧ origin.item = item)

/-- The call that begins. -/
def call? : Effect → Option (Origin × Api.Call)
  | .call origin asked => some (origin, asked)
  | _ => none

/-- The call that ends, and how. -/
def ended? : Effect → Option (Origin × Api.Call × Api.Attempt)
  | .ended origin asked attempt => some (origin, asked, attempt)
  | _ => none

/-- The entry that is recorded. -/
def record? : Effect → Option (Origin × Metrics.Entry)
  | .record origin entry => some (origin, entry)
  | _ => none

variable {effect : Effect}

theorem call?_eq_some_iff
    {ask : Origin × Api.Call} :
    effect.call? = some ask ↔ effect = .call ask.1 ask.2 := by
  cases effect <;> simp [call?, Prod.ext_iff]

theorem ended?_eq_some_iff
    {ending : Origin × Api.Call × Api.Attempt} :
    effect.ended? = some ending ↔ effect = .ended ending.1 ending.2.1 ending.2.2 := by
  cases effect <;> simp [ended?, Prod.ext_iff]

theorem record?_eq_some_iff
    {record : Origin × Metrics.Entry} :
    effect.record? = some record ↔ effect = .record record.1 record.2 := by
  cases effect <;> simp [record?, Prod.ext_iff]

end Effect

/-- The calls that began, in order. -/
def calls (effects : List Effect) : List (Origin × Api.Call) := effects.filterMap Effect.call?

/-- The calls that ended, in order, and how they did. -/
def endings (effects : List Effect) : List (Origin × Api.Call × Api.Attempt) :=
  effects.filterMap Effect.ended?

/-- The calls that ended, in order of their ends. -/
def answeredCalls (effects : List Effect) : List (Origin × Api.Call) :=
  (endings effects).map fun ending => (ending.1, ending.2.1)

/-- The entries that were recorded, in order. -/
def records (effects : List Effect) : List (Origin × Metrics.Entry) :=
  effects.filterMap Effect.record?

/-- The effects of a step. -/
def partOf (task : Task) (effects : List Effect) : List Effect :=
  effects.filter fun effect => decide (effect.task = task)

/-- The effects of a stage. -/
def stageOf (stage : Stage) (effects : List Effect) : List Effect :=
  effects.filter fun effect => decide (effect.task.stage = stage)

/-- The effects of an item of a step. -/
def threadOf (task : Task) (item : Option Nat) (effects : List Effect) : List Effect :=
  effects.filter (Effect.isFor task item)

variable {task : Task} {item : Option Nat} {effects : List Effect} {origin : Origin}
  {call : Api.Call}

@[simp] theorem calls_singleton (effect : Effect) : calls [effect] = effect.call?.toList := by
  cases effect <;> rfl

@[simp] theorem endings_singleton (effect : Effect) :
    endings [effect] = effect.ended?.toList := by
  cases effect <;> rfl

@[simp] theorem records_singleton (effect : Effect) :
    records [effect] = effect.record?.toList := by
  cases effect <;> rfl

theorem mem_calls_iff
    {ask : Origin × Api.Call} :
    ask ∈ calls effects ↔ .call ask.1 ask.2 ∈ effects := by
  simp only [calls, List.mem_filterMap, Effect.call?_eq_some_iff, exists_eq_right]

theorem mem_endings_iff
    {ending : Origin × Api.Call × Api.Attempt} :
    ending ∈ endings effects ↔ .ended ending.1 ending.2.1 ending.2.2 ∈ effects := by
  simp only [endings, List.mem_filterMap, Effect.ended?_eq_some_iff, exists_eq_right]

theorem mem_records_iff
    {record : Origin × Metrics.Entry} :
    record ∈ records effects ↔ .record record.1 record.2 ∈ effects := by
  simp only [records, List.mem_filterMap, Effect.record?_eq_some_iff, exists_eq_right]

section Append

variable (earlier later : List Effect)

@[simp] theorem calls_append : calls (earlier ++ later) = calls earlier ++ calls later :=
  List.filterMap_append

@[simp] theorem endings_append :
    endings (earlier ++ later) = endings earlier ++ endings later :=
  List.filterMap_append

@[simp] theorem records_append :
    records (earlier ++ later) = records earlier ++ records later :=
  List.filterMap_append

@[simp] theorem partOf_append :
    partOf task (earlier ++ later) = partOf task earlier ++ partOf task later :=
  List.filter_append ..

@[simp] theorem stageOf_append (stage : Stage) :
    stageOf stage (earlier ++ later) = stageOf stage earlier ++ stageOf stage later :=
  List.filter_append ..

@[simp] theorem threadOf_append :
    threadOf task item (earlier ++ later) =
      threadOf task item earlier ++ threadOf task item later :=
  List.filter_append ..

end Append

/-- The end of a call, as it shows. -/
@[simp] theorem calls_returning
    (duration : Metrics.Millis)
    (extra : List (String × Json))
    (attempt : Api.Attempt) :
    calls (returning origin call duration extra attempt) = [] := by
  cases attempt <;> rfl

@[simp] theorem endings_returning
    (duration : Metrics.Millis)
    (extra : List (String × Json))
    (attempt : Api.Attempt) :
    endings (returning origin call duration extra attempt) = [(origin, call, attempt)] := by
  cases attempt <;> rfl

/-- All that shows of the end of a call is made for the call. -/
theorem origin?_of_mem_returning
    {duration : Metrics.Millis}
    {extra : List (String × Json)}
    {attempt : Api.Attempt}
    {effect : Effect}
    (member : effect ∈ returning origin call duration extra attempt) :
    effect.origin? = some origin := by
  cases attempt <;>
    simp only [returning, measuredEntry, Option.map_some, Option.map_none, Option.toList_some,
      Option.toList_none, List.mem_cons, List.not_mem_nil, or_false] at member
  · rcases member with rfl | rfl <;> rfl
  · rcases member with rfl | rfl <;> rfl
  · rw [member]
    rfl

/-! ## Steps and items -/

theorem Effect.task_of_origin?
    {effect : Effect}
    (made : effect.origin? = some origin) :
    effect.task = origin.task := by
  cases effect <;> cases made <;> rfl

theorem Effect.isFor_iff
    {effect : Effect} :
    effect.isFor task item = true ↔
      ∃ origin, effect.origin? = some origin ∧ origin.task = task ∧ origin.item = item := by
  simp only [isFor, Option.any_eq_true, decide_eq_true_eq]

/-- Effects that all are made for an item are its thread. -/
theorem threadOf_eq_self
    (made : ∀ effect ∈ effects, effect.isFor task item = true) :
    threadOf task item effects = effects :=
  List.filter_eq_self.mpr made

theorem threadOf_eq_nil
    (made : ∀ effect ∈ effects, effect.isFor task item = false) :
    threadOf task item effects = [] := by
  refine List.filter_eq_nil_iff.mpr ?_
  intro effect member
  simp [made effect member]

theorem partOf_eq_self
    (owned : ∀ effect ∈ effects, effect.task = task) :
    partOf task effects = effects := by
  refine List.filter_eq_self.mpr ?_
  intro effect member
  simp [owned effect member]

theorem partOf_eq_nil
    (others : ∀ effect ∈ effects, effect.task ≠ task) :
    partOf task effects = [] := by
  refine List.filter_eq_nil_iff.mpr ?_
  intro effect member
  simp [others effect member]

/-- Reading what has been picked out by its origin is picking from what has been
read. -/
private theorem filterMap_filter_eq
    {Data : Type}
    {view : Effect → Option (Origin × Data)}
    {chosen : Effect → Bool}
    {picked : Origin → Bool}
    (views : ∀ effect value, view effect = some value → effect.origin? = some value.1)
    (picks : ∀ effect origin, effect.origin? = some origin → chosen effect = picked origin)
    (effects : List Effect) :
    (effects.filter chosen).filterMap view =
      (effects.filterMap view).filter fun value => picked value.1 := by
  rw [List.filterMap_filter, List.filter_filterMap]
  refine List.filterMap_congr ?_
  intro effect _
  cases seen : view effect with
  | none => simp
  | some value => rw [picks effect value.1 (views effect value seen), Option.filter_some]

namespace Effect

variable (effect : Effect)

theorem origin?_of_call? (ask : Origin × Api.Call) :
    effect.call? = some ask → effect.origin? = some ask.1 := by
  rw [call?_eq_some_iff]
  rintro rfl
  rfl

theorem origin?_of_ended? (ending : Origin × Api.Call × Api.Attempt) :
    effect.ended? = some ending → effect.origin? = some ending.1 := by
  rw [ended?_eq_some_iff]
  rintro rfl
  rfl

theorem origin?_of_record? (record : Origin × Metrics.Entry) :
    effect.record? = some record → effect.origin? = some record.1 := by
  rw [record?_eq_some_iff]
  rintro rfl
  rfl

end Effect

section Picking

variable (task : Task) (stage : Stage) (item : Option Nat) (effects : List Effect)

private theorem decide_task_of_origin? (effect : Effect) (origin : Origin)
    (made : effect.origin? = some origin) :
    decide (effect.task = task) = decide (origin.task = task) := by
  rw [Effect.task_of_origin? made]

private theorem decide_stage_of_origin? (effect : Effect) (origin : Origin)
    (made : effect.origin? = some origin) :
    decide (effect.task.stage = stage) = decide (origin.task.stage = stage) := by
  rw [Effect.task_of_origin? made]

private theorem isFor_of_origin? (effect : Effect) (origin : Origin)
    (made : effect.origin? = some origin) :
    effect.isFor task item = decide (origin.task = task ∧ origin.item = item) := by
  rw [Effect.isFor, made, Option.any_some]

/-- The calls of a step are picked out of all calls. -/
theorem calls_partOf :
    calls (partOf task effects) =
      (calls effects).filter fun ask => decide (ask.1.task = task) :=
  filterMap_filter_eq Effect.origin?_of_call? (decide_task_of_origin? task) effects

theorem endings_partOf :
    endings (partOf task effects) =
      (endings effects).filter fun ending => decide (ending.1.task = task) :=
  filterMap_filter_eq Effect.origin?_of_ended? (decide_task_of_origin? task) effects

theorem records_partOf :
    records (partOf task effects) =
      (records effects).filter fun record => decide (record.1.task = task) :=
  filterMap_filter_eq Effect.origin?_of_record? (decide_task_of_origin? task) effects

/-- The calls of a stage are picked out of all calls. -/
theorem calls_stageOf :
    calls (stageOf stage effects) =
      (calls effects).filter fun ask => decide (ask.1.task.stage = stage) :=
  filterMap_filter_eq Effect.origin?_of_call? (decide_stage_of_origin? stage) effects

theorem endings_stageOf :
    endings (stageOf stage effects) =
      (endings effects).filter fun ending => decide (ending.1.task.stage = stage) :=
  filterMap_filter_eq Effect.origin?_of_ended? (decide_stage_of_origin? stage) effects

theorem records_stageOf :
    records (stageOf stage effects) =
      (records effects).filter fun record => decide (record.1.task.stage = stage) :=
  filterMap_filter_eq Effect.origin?_of_record? (decide_stage_of_origin? stage) effects

/-- The calls of an item are picked out of all calls. -/
theorem calls_threadOf :
    calls (threadOf task item effects) =
      (calls effects).filter fun ask => decide (ask.1.task = task ∧ ask.1.item = item) :=
  filterMap_filter_eq Effect.origin?_of_call? (isFor_of_origin? task item) effects

theorem endings_threadOf :
    endings (threadOf task item effects) =
      (endings effects).filter fun ending =>
        decide (ending.1.task = task ∧ ending.1.item = item) :=
  filterMap_filter_eq Effect.origin?_of_ended? (isFor_of_origin? task item) effects

theorem records_threadOf :
    records (threadOf task item effects) =
      (records effects).filter fun record =>
        decide (record.1.task = task ∧ record.1.item = item) :=
  filterMap_filter_eq Effect.origin?_of_record? (isFor_of_origin? task item) effects

end Picking

/-- The effects of an item are among those of its step. -/
theorem threadOf_partOf (task : Task) (item : Option Nat) (effects : List Effect) :
    threadOf task item (partOf task effects) = threadOf task item effects := by
  rw [threadOf, partOf, List.filter_filter, threadOf]
  refine List.filter_congr ?_
  intro effect _
  cases made : effect.isFor task item with
  | false => rfl
  | true =>
      obtain ⟨origin, isMade, sameTask, _⟩ := Effect.isFor_iff.mp made
      simp [Effect.task_of_origin? isMade, sameTask]

/-- Where no item has an origin twice, none occurs twice. -/
theorem nodup_of_threads
    {origins : List Origin}
    (threads : ∀ task item,
      (origins.filter fun origin => decide (origin.task = task ∧ origin.item = item)).Nodup) :
    origins.Nodup := by
  rw [List.nodup_iff_count_le_one]
  intro origin
  have picked := List.nodup_iff_count_le_one.mp (threads origin.task origin.item) origin
  rwa [List.count_filter (by simp)] at picked

/-- Where no item makes an attempt twice, no attempt is made twice. -/
theorem nodup_calls_of_threads
    (threads : ∀ task item, ((calls (threadOf task item effects)).map Prod.fst).Nodup) :
    ((calls effects).map Prod.fst).Nodup := by
  refine nodup_of_threads ?_
  intro task item
  have thread := threads task item
  rw [calls_threadOf] at thread
  rwa [List.filter_map]

/-- Where no attempt of an item ends twice, none does. -/
theorem nodup_endings_of_threads
    (threads : ∀ task item, ((endings (threadOf task item effects)).map Prod.fst).Nodup) :
    ((endings effects).map Prod.fst).Nodup := by
  refine nodup_of_threads ?_
  intro task item
  have thread := threads task item
  rw [endings_threadOf] at thread
  rwa [List.filter_map]

theorem task_of_mem_partOf
    {effect : Effect}
    (member : effect ∈ partOf task effects) :
    effect.task = task :=
  of_decide_eq_true (List.mem_filter.mp member).2

/-- The effects of a step show in its stage alone. -/
theorem stageOf_eq_ite
    (stage : Stage)
    (owned : ∀ effect ∈ effects, effect.task = task) :
    stageOf stage effects = if task.stage = stage then effects else [] := by
  split
  · rename_i same
    refine List.filter_eq_self.mpr ?_
    intro effect member
    rw [owned effect member]
    exact decide_eq_true same
  · rename_i different
    refine List.filter_eq_nil_iff.mpr ?_
    intro effect member
    rw [owned effect member, decide_eq_true_eq]
    exact different

/-! ## Counting by parts -/

section Counting

variable {Key : Type} [DecidableEq Key] {keys : List Key}

/-- One of some distinct keys counts once. -/
theorem sum_map_ite_of_nodup
    {chosen : Key}
    (value : Nat)
    (distinct : keys.Nodup)
    (member : chosen ∈ keys) :
    (keys.map fun key => if chosen = key then value else 0).sum = value := by
  induction keys with
  | nil => cases member
  | cons key keys inductionHypothesis =>
      obtain ⟨absent, distinctRest⟩ := List.nodup_cons.mp distinct
      rw [List.map_cons, List.sum_cons]
      rcases List.mem_cons.mp member with rfl | later
      · have none : (keys.map fun key => if chosen = key then value else 0).sum = 0 := by
          refine List.sum_eq_zero ?_
          intro term isTerm
          obtain ⟨other, isOther, rfl⟩ := List.mem_map.mp isTerm
          refine if_neg ?_
          rintro rfl
          exact absent isOther
        rw [if_pos rfl, none, Nat.add_zero]
      · have different : chosen ≠ key := by
          rintro rfl
          exact absent later
        rw [if_neg different, Nat.zero_add, inductionHypothesis distinctRest later]

/-- What is counted of all elements is counted key by key. -/
theorem countP_eq_sum_of_nodup
    {Element : Type}
    {elements : List Element}
    {key : Element → Key}
    (holds : Element → Bool)
    (distinct : keys.Nodup)
    (within : ∀ element ∈ elements, key element ∈ keys) :
    elements.countP holds =
      (keys.map fun chosen =>
        (elements.filter fun element => decide (key element = chosen)).countP holds).sum := by
  induction elements with
  | nil => simp
  | cons element elements inductionHypothesis =>
      obtain ⟨member, others⟩ := List.forall_mem_cons.mp within
      have step : ∀ chosen,
          ((element :: elements).filter fun element => decide (key element = chosen)).countP holds =
            (elements.filter fun element => decide (key element = chosen)).countP holds +
              if key element = chosen then (holds element).toNat else 0 := by
        intro chosen
        by_cases same : key element = chosen <;> cases holding : holds element <;>
          simp [same, holding]
      simp only [step, List.sum_map_add, sum_map_ite_of_nodup _ distinct member,
        ← inductionHypothesis others, List.countP_cons]
      cases holds element <;> rfl

theorem sum_map_toNat
    {Element : Type}
    (holds : Element → Bool)
    (elements : List Element) :
    (elements.map fun element => (holds element).toNat).sum = elements.countP holds := by
  induction elements with
  | nil => rfl
  | cons element elements inductionHypothesis =>
      rw [List.map_cons, List.sum_cons, inductionHypothesis, List.countP_cons]
      cases holds element <;> simp [Nat.add_comm]

end Counting

end Tenant
end TenantLoad
