/-!
# Timelines

A timeline holds the jobs that can run now, in the order in which they
became ready, and those that sleep until a later millisecond.  Its clock
stands still while any job is ready and otherwise jumps to the next wake-up,
which makes every job that is due then ready at once.
-/

namespace TenantLoad

/-- Tasks on a clock that counts milliseconds. -/
structure Timeline (Job : Type) where
  now : Nat
  ready : List Job
  /-- The sleeping jobs by wake-up time, in the order of falling asleep for
  equal times. -/
  sleeping : List (Nat × Job)

namespace Timeline

/-- The timeline at time zero with the given jobs ready. -/
def start (jobs : List Job) : Timeline Job := ⟨0, jobs, []⟩

/-- Make a job ready after all others. -/
def wake (timeline : Timeline Job) (job : Job) : Timeline Job :=
  { timeline with ready := timeline.ready ++ [job] }

/-- Let a job go on before any other runs. -/
def goOn (timeline : Timeline Job) (job : Job) : Timeline Job :=
  { timeline with ready := job :: timeline.ready }

/-- Insert a sleeping job after those that wake no later. -/
def insertSleeper (time : Nat) (job : Job) : List (Nat × Job) → List (Nat × Job)
  | [] => [(time, job)]
  | (other, sleeper) :: rest =>
    if time < other then (time, job) :: (other, sleeper) :: rest
    else (other, sleeper) :: insertSleeper time job rest

/-- Let a job sleep for so many milliseconds; one that does not sleep at all
goes on. -/
def sleep (timeline : Timeline Job) (job : Job) (milliseconds : Nat) : Timeline Job :=
  if milliseconds = 0 then timeline.goOn job
  else
    { timeline with
      sleeping := insertSleeper (timeline.now + milliseconds) job timeline.sleeping }

/-- The next job to run and the timeline without it. -/
def next? (timeline : Timeline Job) : Option (Job × Timeline Job) :=
  match timeline.ready with
  | job :: rest => some (job, { timeline with ready := rest })
  | [] =>
    match timeline.sleeping with
    | [] => none
    | (time, job) :: rest =>
      let due := rest.takeWhile fun sleeper => sleeper.1 = time
      some (job,
        { now := time
          ready := due.map fun sleeper => sleeper.2
          sleeping := rest.drop due.length })

end Timeline
end TenantLoad
