import TenantLoad.Proofs.Retry.Course
import TenantLoad.Proofs.Tenant.Dialogue

/-!
# The account of a step

`Account` is what the effects of a step amount to: they are made for items of
the step alone, every item has a dialogue of its own, the calls are those that
the step is there for, and no more of them are under way than may be.  A step
is completed once every item has been answered and none of them by a failure.
-/

namespace TenantLoad
namespace Tenant

/-- Whether a call is one that a step makes for an item, given the tables
created so far. -/
def Task.Fits (tables : List Table) : Task → Option Nat → Api.Call → Prop
  | .signUp, none, .signup _ => True
  | .createTable _, none, .createTable _ => True
  | .addColumn table column, none, .addColumn slug asked =>
    tables[table]?.map Table.slug = some slug ∧ asked = column
  | .insertRows table, some row, .addRow slug key _ =>
    tables[table]?.map Table.slug = some slug ∧ key = Api.Call.rowKey slug row
  | .search table, some _, .search slug _ => tables[table]?.map Table.slug = some slug
  | _, _, _ => False

/-- Only the creation of a table creates one, and not for any item. -/
theorem Task.Fits.of_createTable
    {tables : List Table}
    {task : Task}
    {item : Option Nat}
    {request : Api.NewTable}
    (fits : task.Fits tables item (.createTable request)) :
    item = none ∧ ∃ table, task = .createTable table := by
  cases task <;> cases item <;> simp only [Fits] at fits
  exact ⟨rfl, _, rfl⟩

/-- A call still is the one to make after more tables have been created. -/
theorem Task.Fits.append
    {tables : List Table}
    {task : Task}
    {item : Option Nat}
    {call : Api.Call}
    (fits : task.Fits tables item call)
    (more : List Table) :
    task.Fits (tables ++ more) item call := by
  have kept : ∀ {place : Nat} {slug : String}, tables[place]?.map Table.slug = some slug →
      (tables ++ more)[place]?.map Table.slug = some slug := by
    intro place slug found
    obtain ⟨table, present, named⟩ := Option.map_eq_some_iff.mp found
    have inside := (List.getElem?_eq_some_iff.mp present).1
    rw [List.getElem?_append_left inside, found]
  cases task <;> cases item <;> cases call <;> simp only [Fits] at fits ⊢
  · exact ⟨kept fits.1, fits.2⟩
  · exact ⟨kept fits.1, fits.2⟩
  · exact kept fits

theorem Task.items_of_isSingle
    {task : Task}
    (settings : Settings)
    (single : task.isSingle = true) :
    task.items settings = [none] := by
  cases task <;> first | rfl | cases single

/-- What the effects of a step amount to, with the results of all attempts
for each item, which items have a call under way, and how many these are. -/
structure Account (settings : Settings) (tables : List Table) (task : Task)
    (part : List Effect) (results : Option Nat → List Api.Attempt) (pending : Option Nat → Bool)
    (underWay : Nat) : Prop where
  owned : ∀ effect ∈ part, effect.task = task
  items : ∀ effect ∈ part, ∀ origin, effect.origin? = some origin →
    origin.item ∈ task.items settings
  fits : ∀ ask ∈ calls part, task.Fits tables ask.1.item ask.2
  threads : ∀ item ∈ task.items settings, ∃ errand,
    Dialogue task item errand (threadOf task item part) (results item) (pending item)
  paced : Paced (settings.width task.stage) underWay part
  single : task.isSingle = true → (results none).length + (pending none).toNat ≤ 1

/-- Nothing is under way. -/
def idle (_ : Option Nat) : Bool := false

/-- A step without effects so far. -/
theorem Account.nil
    (settings : Settings)
    (tables : List Table)
    (task : Task) :
    Account settings tables task [] (fun _ => []) idle 0 where
  owned := by simp
  items := by simp
  fits := by simp [calls]
  threads := fun _ _ => ⟨⟨.createTable ⟨""⟩, attemptNote⟩, .silent⟩
  paced := .nil _
  single := fun _ => Nat.zero_le _

namespace Account

variable {settings : Settings} {tables : List Table} {task : Task} {part : List Effect}
  {results : Option Nat → List Api.Attempt} {pending : Option Nat → Bool} {underWay : Nat}

/-- More tables leave an account as it is. -/
theorem append
    (account : Account settings tables task part results pending underWay)
    (more : List Table) :
    Account settings (tables ++ more) task part results pending underWay :=
  { account with fits := fun ask member => (account.fits ask member).append more }

/-- The effects of a step are no other one's. -/
theorem partOf_of_ne
    {other : Task}
    (account : Account settings tables task part results pending underWay)
    (different : other ≠ task) :
    partOf other part = [] := by
  refine partOf_eq_nil ?_
  intro effect member
  rw [account.owned effect member]
  exact different.symm

/-- An item that does not belong to the step has no effects. -/
theorem threadOf_eq_nil
    (account : Account settings tables task part results pending underWay)
    {item : Option Nat}
    (foreign : item ∉ task.items settings) :
    threadOf task item part = [] := by
  refine Tenant.threadOf_eq_nil ?_
  intro effect member
  rw [Bool.eq_false_iff]
  intro made
  obtain ⟨origin, isMade, _, rfl⟩ := Effect.isFor_iff.mp made
  exact foreign (account.items effect member origin isMade)

/-- The calls of an item are made in order. -/
theorem nodup_calls_threadOf
    (account : Account settings tables task part results pending underWay)
    (item : Option Nat) :
    ((calls (threadOf task item part)).map Prod.fst).Nodup := by
  by_cases member : item ∈ task.items settings
  · obtain ⟨errand, dialogue⟩ := account.threads item member
    rw [dialogue.calls_eq, List.map_map]
    refine List.Nodup.map ?_ List.nodup_range
    intro first second same
    simpa using same
  · rw [account.threadOf_eq_nil member]
    exact List.nodup_nil

/-- Where nothing is under way every call has been answered. -/
theorem answered
    (account : Account settings tables task part results idle underWay)
    {ask : Origin × Api.Call}
    (asked : ask ∈ calls part) :
    ∃ attempt, (ask.1, ask.2, attempt) ∈ endings part := by
  have shown := mem_calls_iff.mp asked
  have own := account.owned _ shown
  obtain ⟨errand, dialogue⟩ := account.threads _ (account.items _ shown ask.1 rfl)
  have inThread : ask ∈ calls (threadOf task ask.1.item part) := by
    rw [calls_threadOf, List.mem_filter]
    exact ⟨asked, decide_eq_true ⟨own, rfl⟩⟩
  rw [dialogue.calls_eq] at inThread
  obtain ⟨place, within, made⟩ := List.mem_map.mp inThread
  obtain ⟨sameOrigin, sameCall⟩ := Prod.ext_iff.mp made
  have inside : place < (results ask.1.item).length := by simpa [idle] using within
  have ended := dialogue.mem_endings inside
  simp only at sameOrigin sameCall
  rw [sameOrigin, sameCall, endings_threadOf, List.mem_filter] at ended
  exact ⟨_, ended.1⟩

/-- The attempts of an item end in order. -/
theorem nodup_endings_threadOf
    (account : Account settings tables task part results pending underWay)
    (item : Option Nat) :
    ((endings (threadOf task item part)).map Prod.fst).Nodup := by
  by_cases member : item ∈ task.items settings
  · obtain ⟨errand, dialogue⟩ := account.threads item member
    have origins : (endings (threadOf task item part)).map Prod.fst =
        (answeredCalls (threadOf task item part)).map Prod.fst := by
      rw [answeredCalls, List.map_map]
      rfl
    rw [origins, dialogue.answeredCalls_eq, List.map_map]
    refine List.Nodup.map ?_ List.nodup_range
    intro first second same
    simpa using same
  · rw [account.threadOf_eq_nil member]
    exact List.nodup_nil

/-- Every call that ended has been made. -/
theorem mem_calls_of_mem_answeredCalls
    (account : Account settings tables task part results pending underWay)
    {ask : Origin × Api.Call}
    (answered : ask ∈ answeredCalls part) :
    ask ∈ calls part := by
  obtain ⟨ending, ended, rfl⟩ := List.mem_map.mp answered
  have shown := mem_endings_iff.mp ended
  have own := account.owned _ shown
  obtain ⟨errand, dialogue⟩ := account.threads _ (account.items _ shown ending.1 rfl)
  have inThread : (ending.1, ending.2.1) ∈
      answeredCalls (threadOf task ending.1.item part) := by
    refine List.mem_map.mpr ⟨ending, ?_, rfl⟩
    rw [endings_threadOf, List.mem_filter]
    exact ⟨ended, decide_eq_true ⟨own, rfl⟩⟩
  have asked : (ending.1, ending.2.1) ∈ calls (threadOf task ending.1.item part) := by
    rw [dialogue.answeredCalls_eq] at inThread
    rw [dialogue.calls_eq]
    obtain ⟨place, within, made⟩ := List.mem_map.mp inThread
    refine List.mem_map.mpr ⟨place, ?_, made⟩
    rw [List.mem_range] at within ⊢
    omega
  rw [calls_threadOf, List.mem_filter] at asked
  exact asked.1

/-- The entries of a step are counted item by item. -/
theorem countP_records
    (account : Account settings tables task part results pending underWay)
    (holds : Origin × Metrics.Entry → Bool) :
    (records part).countP holds =
      ((task.items settings).map fun item =>
        (records (threadOf task item part)).countP holds).sum := by
  have own : ∀ record ∈ records part,
      record.1.task = task ∧ record.1.item ∈ task.items settings := by
    intro record member
    have shown := mem_records_iff.mp member
    exact ⟨account.owned _ shown, account.items _ shown record.1 rfl⟩
  have thread : ∀ item, records (threadOf task item part) =
      (records part).filter fun record => decide (record.1.item = item) := by
    intro item
    rw [records_threadOf]
    refine List.filter_congr ?_
    intro record member
    simp [(own record member).1]
  simp only [thread]
  exact countP_eq_sum_of_nodup holds (task.nodup_items settings)
    fun record member => (own record member).2

/-- The effects of a single call are all made for no item. -/
theorem eq_none_of_isSingle
    (account : Account settings tables task part results pending underWay)
    (single : task.isSingle = true)
    {effect : Effect}
    {origin : Origin}
    (member : effect ∈ part)
    (made : effect.origin? = some origin) :
    origin.task = task ∧ origin.item = none := by
  have item := account.items effect member origin made
  rw [Task.items_of_isSingle settings single, List.mem_singleton] at item
  exact ⟨(Effect.task_of_origin? made).symm.trans (account.owned effect member), item⟩

/-- A single call is made once at most. -/
theorem length_calls_le_one
    (account : Account settings tables task part results pending underWay)
    (single : task.isSingle = true) :
    (calls part).length ≤ 1 := by
  have whole : calls (threadOf task none part) = calls part := by
    rw [calls_threadOf, List.filter_eq_self]
    intro ask asked
    exact decide_eq_true (account.eq_none_of_isSingle single (mem_calls_iff.mp asked) rfl)
  obtain ⟨errand, dialogue⟩ := account.threads none
    (by simp [Task.items_of_isSingle settings single])
  rw [← whole, dialogue.calls_eq, List.length_map, List.length_range]
  exact account.single single

end Account

/-! ## Single calls -/

/-- What shows of a step before its first call. -/
def opening : Task → List Effect
  | .signUp => [.connect (.returned ())]
  | _ => []

/-- The effects of a single call that has ended. -/
def exchange (task : Task) (call : Api.Call) (duration : Metrics.Millis) (attempt : Api.Attempt) :
    List Effect :=
  .call ⟨task, none, 1⟩ call :: returning ⟨task, none, 1⟩ call duration [] attempt

section Single

variable {settings : Settings} {tables : List Table} {task : Task} {call : Api.Call}

theorem Task.width_of_isSingle
    (settings : Settings)
    (single : task.isSingle = true) :
    settings.width task.stage = 1 := by
  cases task <;> first | rfl | cases single

/-- A connection is asked for by signing up alone. -/
theorem mem_opening
    {effect : Effect}
    (member : effect ∈ opening task) :
    task = .signUp ∧ effect = .connect (.returned ()) := by
  cases task <;> simp_all [opening]

@[simp] theorem calls_opening (task : Task) : calls (opening task) = [] := by
  cases task <;> rfl

@[simp] theorem endings_opening (task : Task) : endings (opening task) = [] := by
  cases task <;> rfl

@[simp] theorem threadOf_opening (task other : Task) (item : Option Nat) :
    threadOf task item (opening other) = [] := by
  cases other <;> rfl

/-- A connection that was asked for and then nothing. -/
theorem Account.ofConnect
    (settings : Settings)
    (tables : List Table)
    (connection : Retry.Attempt Unit Api.Error) :
    Account settings tables .signUp [.connect connection] (fun _ => []) idle 0 where
  owned := by
    intro effect member
    rw [List.mem_singleton.mp member]
    rfl
  items := by
    intro effect member origin made
    rw [List.mem_singleton.mp member] at made
    cases made
  fits := by simp [Effect.call?]
  threads := fun _ _ => ⟨⟨.createTable ⟨""⟩, attemptNote⟩, .silent⟩
  paced := (Paced.nil _).concat _ rfl (Nat.zero_le _)
  single := fun _ => Nat.zero_le _

theorem paced_opening (width : Nat) (task : Task) : Paced width 0 (opening task) := by
  cases task with
  | signUp => exact (Paced.nil _).concat _ rfl (Nat.zero_le _)
  | _ => exact .nil _

/-- A single call is all that its step makes. -/
theorem Account.ofDialogue
    {errand : Errand}
    {thread : List Effect}
    {results : List Api.Attempt}
    {pending : Bool}
    {underWay : Nat}
    (single : task.isSingle = true)
    (fits : task.Fits tables none errand.call)
    (dialogue : Dialogue task none errand thread results pending)
    (made : ∀ effect ∈ thread, effect.origin? = some ⟨task, none, 1⟩)
    (paced : Paced 1 underWay thread)
    (once : results.length + pending.toNat ≤ 1) :
    Account settings tables task (opening task ++ thread) (fun _ => results) (fun _ => pending)
      underWay where
  owned := by
    intro effect member
    rcases List.mem_append.mp member with opens | later
    · obtain ⟨isSignUp, rfl⟩ := mem_opening opens
      exact isSignUp.symm
    · exact Effect.task_of_origin? (made effect later)
  items := by
    intro effect member origin isMade
    rw [Task.items_of_isSingle settings single, List.mem_singleton]
    rcases List.mem_append.mp member with opens | later
    · rw [(mem_opening opens).2] at isMade
      cases isMade
    · rw [made effect later, Option.some.injEq] at isMade
      rw [← isMade]
  fits := by
    intro ask asked
    rw [calls_append, calls_opening, List.nil_append, dialogue.calls_eq] at asked
    obtain ⟨place, _, rfl⟩ := List.mem_map.mp asked
    exact fits
  threads := by
    intro item member
    rw [Task.items_of_isSingle settings single, List.mem_singleton] at member
    subst member
    have whole : threadOf task none thread = thread :=
      threadOf_eq_self fun effect later => Effect.isFor_iff.mpr ⟨_, made effect later, rfl, rfl⟩
    rw [threadOf_append, threadOf_opening, List.nil_append, whole]
    exact ⟨errand, dialogue⟩
  paced := by
    rw [Task.width_of_isSingle settings single]
    exact (paced_opening 1 task).append paced
  single := fun _ => once

/-- A single call that is under way. -/
theorem Account.ofCall
    (single : task.isSingle = true)
    (fits : task.Fits tables none call) :
    Account settings tables task (opening task ++ [.call ⟨task, none, 1⟩ call]) (fun _ => [])
      (fun _ => true) 1 := by
  have asked : Dialogue task none ⟨call, fun _ => []⟩ [.call ⟨task, none, 1⟩ call] [] true :=
    Dialogue.silent.asks
  refine .ofDialogue single fits asked ?_ ((Paced.nil 1).call _ _ Nat.one_pos) (Nat.le_refl _)
  intro effect member
  rw [List.mem_singleton.mp member]
  rfl

/-- A single call that has ended. -/
theorem Account.ofExchange
    (single : task.isSingle = true)
    (fits : task.Fits tables none call)
    (duration : Metrics.Millis)
    (attempt : Api.Attempt) :
    Account settings tables task (opening task ++ exchange task call duration attempt)
      (fun _ => [attempt]) idle 0 := by
  have asked : Dialogue task none ⟨call, fun _ => []⟩ [.call ⟨task, none, 1⟩ call] [] true :=
    Dialogue.silent.asks
  have paced : Paced 1 1 [.call ⟨task, none, 1⟩ call] := (Paced.nil 1).call _ _ Nat.one_pos
  refine .ofDialogue single fits (asked.hears duration attempt) ?_
    (paced.returning _ _ _ _ _ (Nat.zero_le _)) (Nat.le_refl _)
  intro effect member
  rcases List.mem_cons.mp member with rfl | ends
  · rfl
  · exact origin?_of_mem_returning ends

end Single

/-! ## Completed steps -/

/-- The attempts of an item came to a success. -/
def Succeeds (results : List Api.Attempt) : Prop :=
  ∃ earlier reply, results = earlier ++ [.returned reply] ∧
    ∀ result ∈ earlier, result.isReturned = false

/-- One attempt of an item that succeeded returned. -/
theorem Succeeds.countP_isReturned
    {results : List Api.Attempt}
    (succeeds : Succeeds results) :
    results.countP Retry.Attempt.isReturned = 1 := by
  obtain ⟨earlier, reply, rfl, failed⟩ := succeeds
  have none : earlier.countP Retry.Attempt.isReturned = 0 := by
    rw [List.countP_eq_zero]
    intro result member
    simp [failed result member]
  rw [List.countP_append, none]
  rfl

/-- As many calls of an item have returned as attempts of it have. -/
theorem Dialogue.countP_isReturned
    {task : Task}
    {item : Option Nat}
    {errand : Errand}
    {thread : List Effect}
    {results : List Api.Attempt}
    {pending : Bool}
    (dialogue : Dialogue task item errand thread results pending) :
    ((endings thread).countP fun ending => ending.2.2.isReturned) =
      results.countP Retry.Attempt.isReturned := by
  rw [← dialogue.map_result_eq, List.countP_map]
  rfl

/-- No attempt of an item has succeeded. -/
def Fails (results : List Api.Attempt) : Prop := ∀ result ∈ results, result.isReturned = false

/-- A step is over and all of its items have succeeded. -/
structure Completed (settings : Settings) (tables : List Table) (task : Task)
    (part : List Effect) : Prop where
  account : ∃ results, Account settings tables task part results idle 0 ∧
    ∀ item ∈ task.items settings, Succeeds (results item)
  connected : task = .signUp → .connect (.returned ()) ∈ part

/-- A step is over, and it was not entered or some item has not succeeded. -/
def Broken (settings : Settings) (tables : List Table) (task : Task) (part : List Effect) :
    Prop :=
  ∃ results, Account settings tables task part results idle 0 ∧
    (part = [] ∨ ∃ item ∈ task.items settings, Fails (results item))

variable {settings : Settings} {tables : List Table} {task : Task} {part : List Effect}

theorem Completed.append
    (completed : Completed settings tables task part)
    (more : List Table) :
    Completed settings (tables ++ more) task part := by
  obtain ⟨results, account, succeeded⟩ := completed.account
  exact ⟨⟨results, account.append more, succeeded⟩, completed.connected⟩

/-- The single call of a completed step has been made and answered once. -/
theorem Completed.endings_eq
    (completed : Completed settings tables task part)
    (single : task.isSingle = true) :
    ∃ call reply, endings part = [(⟨task, none, 1⟩, call, .returned reply)] ∧
      task.Fits tables none call := by
  obtain ⟨⟨results, account, succeeded⟩, _⟩ := completed
  have alone : none ∈ task.items settings := by simp [Task.items_of_isSingle settings single]
  have whole : endings (threadOf task none part) = endings part := by
    rw [endings_threadOf, List.filter_eq_self]
    intro ending ended
    exact decide_eq_true (account.eq_none_of_isSingle single (mem_endings_iff.mp ended) rfl)
  obtain ⟨errand, dialogue⟩ := account.threads none alone
  obtain ⟨earlier, reply, ends, _⟩ := succeeded none alone
  have once := account.single single
  rw [ends, List.length_append, List.length_singleton] at once
  obtain rfl : earlier = [] := List.length_eq_zero_iff.mp (by omega)
  have shown : endings part = [(⟨task, none, 1⟩, errand.call, .returned reply)] := by
    rw [← whole, dialogue.endings_eq, ends]
    rfl
  refine ⟨errand.call, reply, shown, ?_⟩
  have answered : (⟨task, none, 1⟩, errand.call) ∈ answeredCalls part := by
    rw [answeredCalls, shown]
    exact List.mem_singleton.mpr rfl
  exact account.fits _ (account.mem_calls_of_mem_answeredCalls answered)

/-- A single call that is answered completes its step. -/
theorem Completed.ofExchange
    {call : Api.Call}
    (settings : Settings)
    (single : task.isSingle = true)
    (fits : task.Fits tables none call)
    (duration : Metrics.Millis)
    (reply : Api.Reply) :
    Completed settings tables task (opening task ++ exchange task call duration (.returned reply))
    where
  account := by
    refine ⟨_, .ofExchange single fits duration _, ?_⟩
    intro item _
    exact ⟨[], reply, rfl, by simp⟩
  connected := by
    rintro rfl
    exact List.mem_append_left _ (List.mem_singleton.mpr rfl)

/-- A single call that fails breaks its step. -/
theorem Broken.ofExchange
    {call : Api.Call}
    (settings : Settings)
    (single : task.isSingle = true)
    (fits : task.Fits tables none call)
    (duration : Metrics.Millis)
    (error : Api.Error) :
    Broken settings tables task (opening task ++ exchange task call duration (.failed error)) := by
  refine ⟨_, .ofExchange single fits duration _, Or.inr ⟨none, ?_, ?_⟩⟩
  · rw [Task.items_of_isSingle settings single]
    exact List.mem_singleton.mpr rfl
  · intro result member
    rw [List.mem_singleton.mp member]
    rfl

/-- A step that is not entered. -/
theorem Broken.unentered
    (settings : Settings)
    (tables : List Table)
    (task : Task) :
    Broken settings tables task [] :=
  ⟨_, .nil settings tables task, Or.inl rfl⟩

end Tenant
end TenantLoad
