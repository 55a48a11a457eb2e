import TenantLoad.Timeline

/-!
# Parts of a timeline

Some of the jobs on a timeline are left on their own.  What is done with one
of them is done in the part alike, and what is done with another job does not
show there.  The clock of the whole may stop at times at which no job of the
part is due; the next job of the part is the same.
-/

namespace TenantLoad
namespace Timeline

variable {Job : Type} {timeline : Timeline Job} {mine : Job → Bool} {job : Job}

/-- Sleeping jobs stand in the order in which they wake. -/
def InOrder (timeline : Timeline Job) : Prop :=
  timeline.sleeping.Pairwise fun first second => first.1 ≤ second.1

/-- The part of a timeline with some of its jobs. -/
def only (mine : Job → Bool) (timeline : Timeline Job) : Timeline Job :=
  { now := timeline.now
    ready := timeline.ready.filter mine
    sleeping := timeline.sleeping.filter fun sleeper => mine sleeper.2 }

/-- Whether there are no jobs but those of a part. -/
def AllOf (mine : Job → Bool) (timeline : Timeline Job) : Prop :=
  (∀ job ∈ timeline.ready, mine job = true) ∧
    ∀ sleeper ∈ timeline.sleeping, mine sleeper.2 = true

/-- The timeline at a time, with the jobs that are due then as the only ready
ones. -/
def wakeAt (time : Nat) (timeline : Timeline Job) : Timeline Job :=
  { now := time
    ready := (timeline.sleeping.filter fun sleeper => decide (sleeper.1 = time)).map Prod.snd
    sleeping := timeline.sleeping.filter fun sleeper => decide (sleeper.1 ≠ time) }

/-- The timeline at the time of the next wake-up, unless a job is ready. -/
def awaken (timeline : Timeline Job) : Timeline Job :=
  match timeline.ready, timeline.sleeping with
  | [], (time, _) :: _ => timeline.wakeAt time
  | _, _ => timeline

theorem inOrder_start (jobs : List Job) : (start jobs).InOrder := .nil

/-! ## Falling asleep -/

section Sleepers

variable {sleepers : List (Nat × Job)} {time : Nat}

theorem mem_insertSleeper
    {sleeper : Nat × Job}
    (member : sleeper ∈ insertSleeper time job sleepers) :
    sleeper = (time, job) ∨ sleeper ∈ sleepers := by
  induction sleepers with
  | nil => exact Or.inl (List.mem_singleton.mp member)
  | cons head rest inductionHypothesis =>
      obtain ⟨other, sleeping⟩ := head
      simp only [insertSleeper] at member
      split at member
      · exact List.mem_cons.mp member
      · rcases List.mem_cons.mp member with rfl | later
        · exact Or.inr (List.mem_cons_self ..)
        · exact (inductionHypothesis later).imp id (List.mem_cons_of_mem _)

/-- A job falls asleep at its place. -/
theorem pairwise_insertSleeper
    (ordered : sleepers.Pairwise fun first second => first.1 ≤ second.1) :
    (insertSleeper time job sleepers).Pairwise fun first second => first.1 ≤ second.1 := by
  induction sleepers with
  | nil => exact List.pairwise_singleton _ _
  | cons head rest inductionHypothesis =>
      obtain ⟨other, sleeping⟩ := head
      obtain ⟨first, orderedRest⟩ := List.pairwise_cons.mp ordered
      simp only [insertSleeper]
      split
      · rename_i earlier
        refine List.pairwise_cons.mpr ⟨?_, ordered⟩
        intro sleeper member
        rcases List.mem_cons.mp member with rfl | later
        · exact Nat.le_of_lt earlier
        · exact Nat.le_trans (Nat.le_of_lt earlier) (first sleeper later)
      · rename_i notEarlier
        refine List.pairwise_cons.mpr ⟨?_, inductionHypothesis orderedRest⟩
        intro sleeper member
        rcases mem_insertSleeper member with rfl | later
        · exact Nat.not_lt.mp notEarlier
        · exact first sleeper later

/-- A job that wakes before all others is the first to wake. -/
theorem insertSleeper_of_lt
    (earlier : ∀ sleeper ∈ sleepers, time < sleeper.1) :
    insertSleeper time job sleepers = (time, job) :: sleepers := by
  cases sleepers with
  | nil => rfl
  | cons head rest => exact if_pos (earlier head (List.mem_cons_self ..))

/-- A job of the part falls asleep in the part alike. -/
theorem filter_insertSleeper_of_mine
    (ordered : sleepers.Pairwise fun first second => first.1 ≤ second.1)
    (own : mine job = true) :
    (insertSleeper time job sleepers).filter (fun sleeper => mine sleeper.2) =
      insertSleeper time job (sleepers.filter fun sleeper => mine sleeper.2) := by
  induction sleepers with
  | nil => simp [insertSleeper, own]
  | cons head rest inductionHypothesis =>
      obtain ⟨other, sleeping⟩ := head
      obtain ⟨first, orderedRest⟩ := List.pairwise_cons.mp ordered
      simp only [insertSleeper]
      by_cases earlier : time < other
      · rw [if_pos earlier, List.filter_cons, if_pos own, insertSleeper_of_lt]
        intro sleeper member
        rcases List.mem_cons.mp (List.mem_filter.mp member).1 with rfl | later
        · exact earlier
        · exact Nat.lt_of_lt_of_le earlier (first sleeper later)
      · rw [if_neg earlier, List.filter_cons, List.filter_cons, inductionHypothesis orderedRest]
        by_cases kept : mine sleeping = true
        · rw [if_pos kept, if_pos kept, insertSleeper, if_neg earlier]
        · rw [if_neg kept, if_neg kept]

/-- A job that is not of the part does not fall asleep in it. -/
theorem filter_insertSleeper_of_not_mine
    (foreign : mine job = false) :
    (insertSleeper time job sleepers).filter (fun sleeper => mine sleeper.2) =
      sleepers.filter fun sleeper => mine sleeper.2 := by
  induction sleepers with
  | nil => simp [insertSleeper, foreign]
  | cons head rest inductionHypothesis =>
      obtain ⟨other, sleeping⟩ := head
      simp only [insertSleeper]
      split
      · rw [List.filter_cons_of_neg (by simp [foreign])]
      · rw [List.filter_cons, List.filter_cons, inductionHypothesis]

end Sleepers

/-! ## What is done with one job -/

@[simp] theorem inOrder_wake : (timeline.wake job).InOrder ↔ timeline.InOrder := Iff.rfl

@[simp] theorem inOrder_goOn : (timeline.goOn job).InOrder ↔ timeline.InOrder := Iff.rfl

theorem InOrder.sleep
    (ordered : timeline.InOrder)
    (job : Job)
    (milliseconds : Nat) :
    (timeline.sleep job milliseconds).InOrder := by
  unfold Timeline.sleep
  split
  · exact ordered
  · exact pairwise_insertSleeper ordered

theorem only_wake_of_mine
    (own : mine job = true) :
    (timeline.wake job).only mine = (timeline.only mine).wake job := by
  simp [only, wake, own]

theorem only_wake_of_not_mine
    (foreign : mine job = false) :
    (timeline.wake job).only mine = timeline.only mine := by
  simp [only, wake, foreign]

theorem only_goOn_of_mine
    (own : mine job = true) :
    (timeline.goOn job).only mine = (timeline.only mine).goOn job := by
  simp [only, goOn, own]

theorem only_goOn_of_not_mine
    (foreign : mine job = false) :
    (timeline.goOn job).only mine = timeline.only mine := by
  simp [only, goOn, foreign]

theorem only_sleep_of_mine
    (ordered : timeline.InOrder)
    (own : mine job = true)
    (milliseconds : Nat) :
    (timeline.sleep job milliseconds).only mine =
      (timeline.only mine).sleep job milliseconds := by
  unfold sleep
  split
  · exact only_goOn_of_mine own
  · simp only [only, filter_insertSleeper_of_mine ordered own]

theorem only_sleep_of_not_mine
    (foreign : mine job = false)
    (milliseconds : Nat) :
    (timeline.sleep job milliseconds).only mine = timeline.only mine := by
  unfold sleep
  split
  · exact only_goOn_of_not_mine foreign
  · simp only [only, filter_insertSleeper_of_not_mine foreign]

/-! ## The next job -/

/-- Waking up keeps the order of those that sleep on. -/
theorem InOrder.awaken
    (ordered : timeline.InOrder) :
    timeline.awaken.InOrder := by
  unfold Timeline.awaken
  split
  · exact List.Pairwise.filter _ ordered
  · exact ordered

/-- Those that are due first stand before all others. -/
theorem span_of_pairwise
    {time : Nat}
    {sleepers : List (Nat × Job)}
    (ordered : sleepers.Pairwise fun first second => first.1 ≤ second.1)
    (later : ∀ sleeper ∈ sleepers, time ≤ sleeper.1) :
    (sleepers.takeWhile fun sleeper => decide (sleeper.1 = time)) =
        sleepers.filter (fun sleeper => decide (sleeper.1 = time)) ∧
      sleepers.drop (sleepers.takeWhile fun sleeper => decide (sleeper.1 = time)).length =
        sleepers.filter fun sleeper => decide (sleeper.1 ≠ time) := by
  induction sleepers with
  | nil => exact ⟨rfl, rfl⟩
  | cons head rest inductionHypothesis =>
      obtain ⟨first, orderedRest⟩ := List.pairwise_cons.mp ordered
      by_cases due : head.1 = time
      · obtain ⟨taken, left⟩ := inductionHypothesis orderedRest
          fun sleeper member => later sleeper (List.mem_cons_of_mem _ member)
        constructor
        · simp [due, taken]
        · simpa [due] using left
      · have none : ∀ sleeper ∈ head :: rest, sleeper.1 ≠ time := by
          intro sleeper member
          rcases List.mem_cons.mp member with rfl | behind
          · exact due
          · have atHead := later head (List.mem_cons_self ..)
            have behindHead := first sleeper behind
            omega
        constructor
        · rw [List.takeWhile_cons_of_neg (by simpa using due), eq_comm,
            List.filter_eq_nil_iff]
          simpa using none
        · rw [List.takeWhile_cons_of_neg (by simpa using due), List.length_nil, List.drop_zero,
            eq_comm, List.filter_eq_self]
          simpa using none

/-- While no job is ready the clock may jump to any time before the next
wake-up, and to the wake-up itself. -/
theorem next?_wakeAt
    {time : Nat}
    (ordered : timeline.InOrder)
    (idle : timeline.ready = [])
    (later : ∀ sleeper ∈ timeline.sleeping, time ≤ sleeper.1) :
    (timeline.wakeAt time).next? = timeline.next? := by
  obtain ⟨now, ready, sleeping⟩ := timeline
  cases idle
  cases sleeping with
  | nil => rfl
  | cons head rest =>
      obtain ⟨wakeUp, first⟩ := head
      obtain ⟨behind, orderedRest⟩ := List.pairwise_cons.mp ordered
      by_cases due : wakeUp = time
      · subst due
        obtain ⟨taken, left⟩ := span_of_pairwise orderedRest behind
        rw [taken] at left
        simp [wakeAt, next?, taken, left]
      · have none : ∀ sleeper ∈ (wakeUp, first) :: rest, sleeper.1 ≠ time := by
          intro sleeper member
          have atHead := later (wakeUp, first) (List.mem_cons_self ..)
          rcases List.mem_cons.mp member with rfl | later
          · exact due
          · have behindHead := behind sleeper later
            simp only at atHead behindHead
            omega
        have noneDue : ((wakeUp, first) :: rest).filter
            (fun sleeper => decide (sleeper.1 = time)) = [] := by
          rw [List.filter_eq_nil_iff]
          simpa using none
        have allLater : ((wakeUp, first) :: rest).filter
            (fun sleeper => decide (sleeper.1 ≠ time)) = (wakeUp, first) :: rest := by
          rw [List.filter_eq_self]
          simpa using none
        simp only [wakeAt, noneDue, allLater]
        rfl

theorem only_wakeAt
    (mine : Job → Bool)
    (time : Nat)
    (timeline : Timeline Job) :
    (timeline.wakeAt time).only mine = (timeline.only mine).wakeAt time := by
  simp only [only, wakeAt, List.filter_map, List.filter_filter, Function.comp_def,
    Bool.and_comm]

/-- The next job is the first that is ready at the next wake-up. -/
theorem next?_eq
    (ordered : timeline.InOrder) :
    timeline.next? =
      match timeline.awaken.ready with
      | [] => none
      | job :: rest => some (job, { timeline.awaken with ready := rest }) := by
  obtain ⟨now, ready, sleeping⟩ := timeline
  cases ready with
  | cons job ready => rfl
  | nil =>
      cases sleeping with
      | nil => rfl
      | cons head rest =>
          obtain ⟨time, first⟩ := head
          have behind : ∀ sleeper ∈ (time, first) :: rest, time ≤ sleeper.1 := by
            intro sleeper member
            rcases List.mem_cons.mp member with rfl | later
            · exact Nat.le_refl _
            · exact (List.pairwise_cons.mp ordered).1 sleeper later
          rw [← next?_wakeAt ordered rfl behind]
          simp [awaken, wakeAt, next?]

/-- The next job of a part is the same when the whole has woken up. -/
theorem next?_only_awaken
    (ordered : timeline.InOrder)
    (mine : Job → Bool) :
    (timeline.awaken.only mine).next? = (timeline.only mine).next? := by
  unfold awaken
  split
  · rename_i time first rest idle asleep
    rw [only_wakeAt, next?_wakeAt]
    · exact List.Pairwise.filter _ ordered
    · simp [only, idle]
    · intro sleeper member
      have within := (List.mem_filter.mp member).1
      unfold InOrder at ordered
      rw [asleep] at ordered within
      rcases List.mem_cons.mp within with rfl | later
      · exact Nat.le_refl _
      · exact (List.pairwise_cons.mp ordered).1 sleeper later
  · rfl

/-! ## All jobs -/

/-- All jobs of a timeline, ready or asleep. -/
def jobs (timeline : Timeline Job) : List Job :=
  timeline.ready ++ timeline.sleeping.map Prod.snd

theorem jobs_start (jobs : List Job) : (start jobs).jobs = jobs := List.append_nil _

theorem perm_map_insertSleeper
    (time : Nat)
    (job : Job)
    (sleepers : List (Nat × Job)) :
    ((insertSleeper time job sleepers).map Prod.snd).Perm (job :: sleepers.map Prod.snd) := by
  induction sleepers with
  | nil => exact .refl _
  | cons head rest inductionHypothesis =>
      simp only [insertSleeper]
      split
      · exact .refl _
      · exact (inductionHypothesis.cons _).trans (.swap ..)

theorem perm_jobs_wake
    (timeline : Timeline Job)
    (job : Job) :
    (timeline.wake job).jobs.Perm (job :: timeline.jobs) := by
  simp only [jobs, wake, List.append_assoc]
  exact List.perm_middle

theorem perm_jobs_goOn
    (timeline : Timeline Job)
    (job : Job) :
    (timeline.goOn job).jobs.Perm (job :: timeline.jobs) := .refl _

/-- A job that is ready stays so when another one falls asleep. -/
theorem mem_ready_sleep
    {other : Job}
    (milliseconds : Nat)
    (ready : other ∈ timeline.ready) :
    other ∈ (timeline.sleep job milliseconds).ready := by
  unfold sleep
  split
  · exact List.mem_cons_of_mem _ ready
  · exact ready

theorem perm_jobs_sleep
    (timeline : Timeline Job)
    (job : Job)
    (milliseconds : Nat) :
    (timeline.sleep job milliseconds).jobs.Perm (job :: timeline.jobs) := by
  unfold sleep
  split
  · exact .refl _
  · exact ((perm_map_insertSleeper _ job _).append_left _).trans List.perm_middle

/-- Who wakes up has the same jobs. -/
theorem perm_jobs_awaken (timeline : Timeline Job) : timeline.awaken.jobs.Perm timeline.jobs := by
  unfold awaken
  split
  · rename_i time _ _ idle _
    rw [jobs, jobs, idle, List.nil_append]
    simp only [wakeAt]
    rw [← List.map_append]
    refine List.Perm.map _ ?_
    simpa using List.filter_append_perm (fun sleeper => decide (sleeper.1 = time)) timeline.sleeping
  · exact .refl _

/-- A timeline stands still only without jobs. -/
theorem next?_eq_none_iff : timeline.next? = none ↔ timeline.jobs = [] := by
  obtain ⟨now, ready, sleeping⟩ := timeline
  cases ready with
  | cons job rest => simp [next?, jobs]
  | nil =>
      cases sleeping with
      | nil => simp [next?, jobs]
      | cons head rest => simp [next?, jobs]

theorem allOf_only
    (mine : Job → Bool)
    (timeline : Timeline Job) :
    (timeline.only mine).AllOf mine :=
  ⟨fun _ member => (List.mem_filter.mp member).2, fun _ member => (List.mem_filter.mp member).2⟩

/-- The next job is of the part, and so are all later ones. -/
theorem AllOf.of_next?_eq_some
    {rest : Timeline Job}
    (all : timeline.AllOf mine)
    (next : timeline.next? = some (job, rest)) :
    mine job = true ∧ rest.AllOf mine := by
  obtain ⟨now, ready, sleeping⟩ := timeline
  obtain ⟨ready_mine, sleeping_mine⟩ := all
  cases ready with
  | cons first others =>
      cases next
      exact ⟨ready_mine _ (List.mem_cons_self ..),
        fun other member => ready_mine other (List.mem_cons_of_mem _ member), sleeping_mine⟩
  | nil =>
      cases sleeping with
      | nil => cases next
      | cons head others =>
          cases next
          have behind : ∀ sleeper ∈ others, mine sleeper.2 = true :=
            fun sleeper member => sleeping_mine sleeper (List.mem_cons_of_mem _ member)
          refine ⟨sleeping_mine head (List.mem_cons_self ..), ?_, ?_⟩
          · intro due member
            obtain ⟨sleeper, isDue, rfl⟩ := List.mem_map.mp member
            exact behind sleeper ((List.takeWhile_sublist _).subset isDue)
          · intro sleeper member
            exact behind sleeper (List.mem_of_mem_drop member)

end Timeline
end TenantLoad
