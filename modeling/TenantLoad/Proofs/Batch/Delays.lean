import TenantLoad.Proofs.Batch.Sequential
import TenantLoad.Proofs.Retry.Elapsed

/-!
# The delays of a batch's items

A batch seeds a generator for every item before it starts the first one, and an
item draws its delays from its own.  So the delays of an item are the first
ones that its generator gives, and two batches from one caller differ only in
how many of them an item comes to draw.
-/

namespace TenantLoad
namespace Batch

/-! ## The generators of the items -/

section Generators

variable {Source : Type} [Random.Words Source]

/-- What is left of a source after one word. -/
def wordDrawn (source : Source) : Source := (Random.Words.nextLong source).2

/-- Seeding the items takes one word for each of them. -/
theorem itemGenerators_source
    (count : Nat)
    (caller : Source) :
    (itemGenerators count caller).2 = wordDrawn^[count] caller := by
  induction count generalizing caller with
  | zero => rfl
  | succ count inductionHypothesis => exact inductionHypothesis (wordDrawn caller)

end Generators

/-! ## The delays of an item -/

variable {Value Error : Type}

/-- The delay that an item waits out. -/
def Cell.delay? : Cell Value Error → Option Duration
  | .resting _ delay _ => some delay
  | _ => none

/-- The delay that an item begins by an act that leads to the given state. -/
def Act.delay? (index : Nat) (act : Act Value Error) (next : State Value Error) :
    Option Duration :=
  (act.result? index).bind fun _ => next.cells[index]?.bind Cell.delay?

variable [Retry.Retryable Error] {settings : Settings} {raised : Bool}
  {state next : State Value Error} {act : Act Value Error} {index : Nat}

/-- The delays of an item in what happens from a world on.  A delay of zero is
one of them, though nobody waits for it. -/
def World.delays (settings : Settings) (index : Nat) :
    World Value Error → List (Happening Value Error) → List Duration
  | _, [] => []
  | world, .raise :: later => delays settings index { world with raised := true } later
  | world, .act act :: later =>
    match world.state.act settings world.raised act with
    | some next =>
      (act.delay? index next).toList ++ delays settings index { world with state := next } later
    | none => []

/-- The delays that an item may still draw: the first ones of its generator
until its loop has ended, and none from then on. -/
def Cell.Draws (window : Retry.JitterWindow) (cell : Cell Value Error)
    (delays : List Duration) : Prop :=
  match cell.progress with
  | .trying _ generator => window.Gives generator delays
  | .ended _ => delays = []

omit [Retry.Retryable Error] in
theorem Cell.Draws.nil
    (window : Retry.JitterWindow)
    (cell : Cell Value Error) :
    cell.Draws window [] := by
  unfold Cell.Draws
  cases cell.progress with
  | trying attempt generator => exact .nil generator
  | ended ending => rfl

/-- What an item draws by an act comes before what it draws later. -/
theorem CellMoves.draws
    {before after : Cell Value Error}
    {delays : List Duration}
    (moves : CellMoves settings state index act before after)
    (found : next.cells[index]? = some after)
    (later : after.Draws settings.policy.window delays) :
    before.Draws settings.policy.window ((act.delay? index next).toList ++ delays) := by
  cases moves with
  | keep cell other => simpa [Act.delay?, Act.result?_eq_none other] using later
  | finish attempt generator result =>
      rcases Cell.afterAttempt_cases settings attempt generator result with
        ⟨ending, _, stands⟩ | ⟨delay, following, decides, stands⟩
      · rw [stands] at found later
        obtain rfl : delays = [] := later
        simpa [Act.delay?, Act.result?, found, Cell.delay?] using Cell.Draws.nil _ _
      · rw [stands] at found later
        obtain ⟨_, _, drawn⟩ := Retry.next_eq_backOff_iff.mp decides
        have drawsOn : (Cell.attempting attempt generator : Cell Value Error).Draws
            settings.policy.window (delay :: delays) := Retry.JitterWindow.Gives.cons drawn later
        simpa [Act.delay?, Act.result?, found, Cell.delay?] using drawsOn
  | launch | start | resume | announce | rank | release => exact later

/-- The delays of an item in a run are the first ones of its generator. -/
theorem World.draws_delays
    {happenings : List (Happening Value Error)}
    {world final : World Value Error}
    {cell : Cell Value Error}
    (present : world.state.cells[index]? = some cell)
    (runs : world.run settings happenings = some final) :
    cell.Draws settings.policy.window (world.delays settings index happenings) := by
  induction happenings generalizing world cell with
  | nil => exact .nil _ cell
  | cons happening later inductionHypothesis =>
      rw [← List.singleton_append, run_append_eq_some_iff] at runs
      obtain ⟨between, first, rest⟩ := runs
      rw [run_singleton] at first
      cases happening with
      | raise =>
          cases first
          exact inductionHypothesis present rest
      | act act =>
          simp only [step, Option.map_eq_some_iff] at first
          obtain ⟨next, acts, rfl⟩ := first
          obtain ⟨after, found, moves⟩ := (Moves.of_act acts).cell present
          rw [delays, acts]
          exact moves.draws found (inductionHypothesis found rest)

/-- The delays of an item in a run of a batch are the first ones that its own
generator gives. -/
theorem World.gives_delays_of_run
    {generators : List Random.Generator}
    {generator : Random.Generator}
    {happenings : List (Happening Value Error)}
    {final : World Value Error}
    (begins : State.begin? settings generators = some state)
    (known : generators[index]? = some generator)
    (runs : World.run settings ⟨raised, state⟩ happenings = some final) :
    settings.policy.window.Gives generator
      (World.delays settings index ⟨raised, state⟩ happenings) := by
  obtain rfl := State.eq_initial_of_begin?_eq_some begins
  have present : (State.initial settings generators : State Value Error).cells[index]? =
      some (.waiting generator) := by
    rw [State.getElem?_cells_initial, known, Option.map_some]
  exact World.draws_delays present runs

/-! ## Two runs -/

variable {Source : Type} [Random.Words Source]

/-- A batch that can begin takes one word of the caller's for every item. -/
theorem callerAfter_of_fits
    (fits : settings.concurrency ≤ slotLimit)
    (count : Nat)
    (caller : Source) :
    callerAfter settings count caller = wordDrawn^[count] caller := by
  rw [callerAfter, if_pos (Settings.canBegin_of_le fits), itemGenerators_source]

/-- Two batches of as many items from one caller, with the same window but any
slots, modes, attempts, failures and shutdown, leave the caller's source alike:
one word is drawn for every item, also for those that are never dispatched.
The delays of an item in the one are the first ones that it draws in the other,
or the other way round. -/
theorem backoff_ignores_the_schedule
    (settings other : Settings)
    (count : Nat)
    (caller : Source)
    (fits : settings.concurrency ≤ slotLimit)
    (otherFits : other.concurrency ≤ slotLimit)
    (sameWindow : other.policy.window = settings.policy.window) :
    callerAfter settings count caller = wordDrawn^[count] caller ∧
      callerAfter other count caller = wordDrawn^[count] caller ∧
      ∃ state twin : State Value Error,
        State.begin? settings (itemGenerators count caller).1 = some state ∧
          State.begin? other (itemGenerators count caller).1 = some twin ∧
          ∀ (raised otherRaised : Bool) (happenings otherHappenings : List (Happening Value Error))
            (final otherFinal : World Value Error),
            World.run settings ⟨raised, state⟩ happenings = some final →
              World.run other ⟨otherRaised, twin⟩ otherHappenings = some otherFinal →
                ∀ index < count,
                  let delays := World.delays settings index ⟨raised, state⟩ happenings
                  let otherDelays :=
                    World.delays other index ⟨otherRaised, twin⟩ otherHappenings
                  delays <+: otherDelays ∨ otherDelays <+: delays := by
  refine ⟨callerAfter_of_fits fits count caller, callerAfter_of_fits otherFits count caller,
    _, _, State.begin?_eq_some_initial fits _, State.begin?_eq_some_initial otherFits _, ?_⟩
  intro raised otherRaised happenings otherHappenings final otherFinal runs otherRuns index inside
  obtain ⟨generator, known⟩ :
      ∃ generator, (itemGenerators count caller).1[index]? = some generator :=
    ⟨_, List.getElem?_eq_getElem (by rwa [length_itemGenerators])⟩
  have gives := World.gives_delays_of_run (State.begin?_eq_some_initial fits _) known runs
  have otherGives :=
    World.gives_delays_of_run (State.begin?_eq_some_initial otherFits _) known otherRuns
  rw [sameWindow] at otherGives
  exact gives.prefix_or_prefix otherGives

/-- An item alone in its slot that fails once, with the next one never started,
and the same two items side by side until shutdown. -/
theorem backoff_ignores_the_schedule_side_by_side :
    let settings : Settings :=
      { concurrency := 1, mode := .failSoft, policy := .standard, classifier := .standard,
        heedsShutdown := true }
    let other : Settings := { settings with concurrency := 2, mode := .failFast }
    let reset : Retry.Attempt Nat Api.Error := .failed (.transport "reset")
    let happenings : List (Happening Nat Api.Error) :=
      [.act .look, .act .take, .act .check, .act .launch, .act (.start 0), .act (.finish 0 reset),
        .act (.resume 0), .act (.finish 0 (.returned 8)), .act (.announce 0), .act (.rank 0),
        .raise]
    let otherHappenings : List (Happening Nat Api.Error) :=
      [.act .look, .act .take, .act .check, .act .launch, .act .look, .act .take, .act .check,
        .act .launch, .act (.start 1), .act (.start 0), .act (.finish 1 reset),
        .act (.finish 0 reset), .raise, .act (.resume 1), .act (.resume 0),
        .act (.finish 0 reset)]
    let generators := (itemGenerators 2 (Random.Generator.ofSeed 7)).1
    let delays (index : Nat) :=
      World.delays settings index ⟨false, .initial settings generators⟩ happenings
    let otherDelays (index : Nat) :=
      World.delays other index ⟨false, .initial other generators⟩ otherHappenings
    delays 0 = [.ofMicroseconds 61286] ∧
      otherDelays 0 = [.ofMicroseconds 61286, .ofMicroseconds 32756] ∧
      ∀ index < 2,
        delays index <+: otherDelays index ∨ otherDelays index <+: delays index := by
  intro settings other reset happenings otherHappenings generators delays otherDelays
  have fits : settings.concurrency ≤ slotLimit := by decide
  have otherFits : other.concurrency ≤ slotLimit := by decide
  obtain ⟨_, _, state, twin, begins, otherBegins, compared⟩ :=
    @backoff_ignores_the_schedule Nat Api.Error _ Random.Generator _ settings other 2
      (Random.Generator.ofSeed 7) fits otherFits rfl
  obtain rfl := State.eq_initial_of_begin?_eq_some begins
  obtain rfl := State.eq_initial_of_begin?_eq_some otherBegins
  have evaluated :
      ((World.run settings ⟨false, .initial settings generators⟩ happenings).isSome = true ∧
          delays 0 = [.ofMicroseconds 61286]) ∧
        (World.run other ⟨false, .initial other generators⟩ otherHappenings).isSome = true ∧
          otherDelays 0 = [.ofMicroseconds 61286, .ofMicroseconds 32756] := by
    decide +kernel
  obtain ⟨⟨runs, drawn⟩, otherRuns, otherDrawn⟩ := evaluated
  obtain ⟨final, isFinal⟩ := Option.isSome_iff_exists.mp runs
  obtain ⟨otherFinal, isOtherFinal⟩ := Option.isSome_iff_exists.mp otherRuns
  exact ⟨drawn, otherDrawn,
    compared false false happenings otherHappenings final otherFinal isFinal isOtherFinal⟩

/-- A batch that asks for one slot more than there can be crashes before it
draws the word that seeds its item. -/
theorem backoff_draws_nothing_beyond_the_limit :
    let settings : Settings :=
      { concurrency := 0x2000000000000000, mode := .failSoft, policy := .standard,
        classifier := .standard, heedsShutdown := true }
    let other : Settings := { settings with concurrency := 1 }
    let caller := Random.Generator.ofSeed 7
    State.begin? settings (itemGenerators 1 caller).1 = (none : Option (State Unit Api.Error)) ∧
      (callerAfter settings 1 caller).position = 0 ∧
      (callerAfter other 1 caller).position = 2 := by
  intro settings other caller
  exact ⟨if_neg (by decide), by decide +kernel, by decide +kernel⟩

end Batch
end TenantLoad
