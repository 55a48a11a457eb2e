import TenantLoad.CommandLine.Arguments
import TenantLoad.Proofs.CommandLine.Words

/-!
# Words in effect for a load run

If a command line asks for a load run, the flags in effect are those behind the
command `run`, or all of them if there is no such command.
-/

namespace TenantLoad
namespace CommandLine

/-- Whether the value of the flag that a word begins is the next word. -/
def opens (word : String) : Bool :=
  word != "--" && (Command.longFlag? word).any fun flag => flag.2.isNone

/-- The words behind the command `run`, if it is there; the value of a flag is no
command. -/
def behindRun? (isValue : Bool) : List String → Option (List String)
  | [] => none
  | word :: words =>
    if !isValue && word == "run" then some words else behindRun? (opens word) words

/-- The words whose flags are in effect for a load run. -/
def wordsInEffect (words : List String) : List String := (behindRun? false words).getD words

namespace Command

/-- How the words of a command give values: all words are its own, or a command
below is chosen. -/
inductive Parses (name : String) (command : Command) (level : Level) :
    List String → List (String × Values) → Prop
  | ends {words : List String} {final : Level} {values : Values}
    (reads : words.foldlM command.readWord level = .ok final)
    (checks : command.check final false = .ok values) :
    Parses name command level words [(name, values)]
  | chooses {own rest : List String} {word : String} {below : Command} {final : Level}
    {values : Values} {chosen : List (String × Values)}
    (reads : own.foldlM command.readWord level = .ok final)
    (isOpen : final.isAfterDashes = false) (isSettled : final.awaitsValue = false)
    (isBelow : command.commands.lookup word = some below)
    (parses : parse word below {} rest = .ok chosen)
    (checks : command.check final true = .ok values) :
    Parses name command level (own ++ word :: rest) ((name, values) :: chosen)

variable {command : Command} {level next final settled : Level} {name word : String}
  {own rest words : List String} {levels : List (String × Values)} {values : Values}
  {hasChosen : Bool}

theorem check_eq_ok
    (checks : command.check level hasChosen = .ok values) :
    (∃ settled, level.settle = .ok settled ∧ settled.values = values) ∧
      (command.mustChoose = true → hasChosen = true) := by
  unfold check at checks
  obtain ⟨settled, settles, checks⟩ := Except.bind_eq_ok_iff.mp checks
  by_cases lacksChoice : (command.mustChoose && !hasChosen) = true
  · simp [lacksChoice] at checks
  · by_cases lacksFlag : (command.required.any fun name =>
        (settled.values.lookup name).isNone) = true
    · simp only [lacksFlag, lacksChoice] at checks
      cases checks
    · simp only [lacksFlag, lacksChoice] at checks
      cases checks
      exact ⟨⟨settled, settles, rfl⟩, by simpa using lacksChoice⟩

theorem Parses.cons
    (reads : command.readWord level word = .ok next)
    (parses : Parses name command next words levels) :
    Parses name command level (word :: words) levels := by
  cases parses with
  | ends readsRest checks => exact .ends (readWords_cons.mpr ⟨next, reads, readsRest⟩) checks
  | chooses readsRest isOpen isSettled isBelow parses checks =>
      rw [← List.cons_append]
      exact .chooses (readWords_cons.mpr ⟨next, reads, readsRest⟩) isOpen isSettled isBelow
        parses checks

theorem parses_of_parse
    (parses : parse name command level words = .ok levels) :
    Parses name command level words levels := by
  induction words generalizing level with
  | nil =>
      rw [parse] at parses
      obtain ⟨values, checks, isLevels⟩ := Except.bind_eq_ok_iff.mp parses
      cases isLevels
      exact .ends rfl checks
  | cons word words inductionHypothesis =>
      have continues (parses : (do parse name command (← command.readWord level word) words) =
          .ok levels) : Parses name command level (word :: words) levels := by
        obtain ⟨next, reads, parses⟩ := Except.bind_eq_ok_iff.mp parses
        exact (inductionHypothesis parses).cons reads
      rw [parse] at parses
      split at parses
      · exact continues parses
      next isCommand =>
        split at parses
        · cases parses
        split at parses
        next below isBelow =>
          obtain ⟨chosen, parsesBelow, parses⟩ := Except.bind_eq_ok_iff.mp parses
          obtain ⟨values, checks, isLevels⟩ := Except.bind_eq_ok_iff.mp parses
          cases isLevels
          simp only [Bool.or_eq_true, not_or, Bool.not_eq_true] at isCommand
          have parsesHere : Parses name command level ([] ++ word :: words)
              ((name, values) :: chosen) :=
            .chooses rfl isCommand.1 isCommand.2 isBelow parsesBelow checks
          exact parsesHere
        · exact continues parses

/-- A word that is read tells whether the next one is its value. -/
theorem Reads.opens_eq
    (reads : command.Reads level word next) :
    word = "--" ∧ next.isAfterDashes = true ∨
      (level.awaitsValue = false → word ≠ "run") ∧ opens word = next.awaitsValue := by
  have isNoFlag : longFlag? "run" = none := by decide
  cases reads with
  | dashes isDashes => exact .inl ⟨isDashes, rfl⟩
  | attached isFlag found takes settles =>
      refine .inr ⟨?_, ?_⟩
      · rintro - rfl
        simp [isNoFlag] at isFlag
      · obtain ⟨isSettled, -⟩ := Level.settle_spec settles
        simp [opens, isFlag, Level.awaitsValue, isSettled]
  | opened isNoDash isFlag =>
      refine .inr ⟨?_, ?_⟩
      · rintro - rfl
        simp [isNoFlag] at isFlag
      · simp [opens, isFlag, isNoDash, Level.awaitsValue]
  | taken isNoFlag isPending =>
      refine .inr ⟨?_, ?_⟩
      · simp [Level.awaitsValue, isPending]
      · simp [opens, isNoFlag, Level.awaitsValue]

/-- Whether a word is a command is told by the flags before it. -/
theorem behindRun?_append
    (isPlain : command.IsPlain)
    (reads : own.foldlM command.readWord level = .ok final)
    (rest : List String)
    (isOpen : final.isAfterDashes = false ∨ rest = []) :
    behindRun? level.awaitsValue (own ++ rest) = behindRun? final.awaitsValue rest := by
  induction own generalizing level with
  | nil =>
      cases reads
      rfl
  | cons word own inductionHypothesis =>
      obtain ⟨next, readsWord, readsOwn⟩ := readWords_cons.mp reads
      rw [List.cons_append, behindRun?]
      obtain ⟨rfl, isAfter⟩ | ⟨isNoRun, opens_eq⟩ :=
        (reads_of_readWord isPlain readsWord).opens_eq
      · cases own with
        | nil =>
            cases readsOwn
            obtain isBefore | rfl := isOpen
            · simp [isAfter] at isBefore
            · simp [behindRun?]
        | cons other own =>
            obtain ⟨_, readsOther, -⟩ := readWords_cons.mp readsOwn
            simp [readWord, isAfter] at readsOther
      · rw [if_neg (by simpa using isNoRun), opens_eq]
        exact inductionHypothesis readsOwn

end Command

namespace Arguments

open Command (Parses)

theorem mem_of_lookup_commands
    {commands : List (String × Command)}
    {word : String}
    {below : Command}
    (isBelow : commands.lookup word = some below) :
    (word, below) ∈ commands := by
  obtain ⟨before, after, rfl, -⟩ := List.lookup_eq_some_iff.mp isBelow
  simp

/-- What is asked for below the command `config` is no load run. -/
theorem chosenTask_of_config
    {words : List String}
    {levels : List (String × Values)}
    (parses : Parses "config" configCommand {} words levels) :
    (∃ output force, chosenTask levels = .sample output force) ∨
      ∃ path, chosenTask levels = .validate path := by
  cases parses with
  | ends _ checks =>
      have mustChoose := (Command.check_eq_ok checks).2 rfl
      cases mustChoose
  | chooses _ _ _ isBelow parsesBelow =>
      have isCommand := mem_of_lookup_commands isBelow
      simp only [configCommand, List.mem_cons, List.not_mem_nil, or_false,
        Prod.mk.injEq] at isCommand
      obtain ⟨rfl, rfl⟩ | ⟨rfl, rfl⟩ := isCommand
      · cases Command.parses_of_parse parsesBelow with
        | ends => exact .inl ⟨_, _, rfl⟩
        | chooses _ _ _ isBelowSample => cases isBelowSample
      · cases Command.parses_of_parse parsesBelow with
        | ends => exact .inr ⟨_, rfl⟩
        | chooses _ _ _ isBelowValidate => cases isBelowValidate

/-- The words in effect are those of a command that knows the flags of a load
run. -/
theorem exists_level_of_read
    {words : List String}
    {arguments : Arguments}
    {flags : RunFlags}
    (isRead : read words = .ok arguments)
    (isLoadRun : arguments.runFlags? = some flags) :
    ∃ (command : Command) (final settled : Level),
      command.IsPlain ∧ (∀ flag ∈ RunFlags.grammar, command.Knows flag) ∧
        (wordsInEffect words).foldlM command.readWord {} = .ok final ∧
        final.settle = .ok settled ∧ flags = RunFlags.ofValues settled.values := by
  have isPlain : grammar.IsPlain := by decide
  obtain ⟨levels, parses, isArguments⟩ := Except.bind_eq_ok_iff.mp isRead
  cases isArguments
  cases Command.parses_of_parse parses with
  | ends reads checks =>
      obtain ⟨⟨settled, settles, rfl⟩, -⟩ := Command.check_eq_ok checks
      refine ⟨grammar, _, settled, isPlain, by decide, ?_, settles, ?_⟩
      · have isNone : behindRun? false (words ++ []) = none :=
          Command.behindRun?_append isPlain reads [] (.inr rfl)
        rw [List.append_nil] at isNone
        rwa [wordsInEffect, isNone]
      · simpa [runFlags?, chosenTask, eq_comm] using isLoadRun
  | @chooses own rest word below _ _ _ reads isOpen isSettled isBelow parsesBelow checks =>
      have behind := Command.behindRun?_append isPlain reads (word :: rest) (.inl isOpen)
      rw [isSettled] at behind
      have isCommand := mem_of_lookup_commands isBelow
      simp only [grammar, List.mem_cons, List.not_mem_nil, or_false, Prod.mk.injEq] at isCommand
      obtain ⟨rfl, rfl⟩ | ⟨rfl, rfl⟩ := isCommand
      · have isRest : wordsInEffect (own ++ "run" :: rest) = rest := by
          have isBehind : behindRun? false (own ++ "run" :: rest) = some rest := behind
          rw [wordsInEffect, isBehind, Option.getD_some]
        cases Command.parses_of_parse parsesBelow with
        | ends readsRest checksRest =>
            obtain ⟨⟨settled, settles, rfl⟩, -⟩ := Command.check_eq_ok checksRest
            refine ⟨runCommand, _, settled, by decide, by decide, ?_, settles, ?_⟩
            · rwa [isRest]
            · simpa [runFlags?, chosenTask, eq_comm] using isLoadRun
        | chooses _ _ _ isBelowRun => cases isBelowRun
      · obtain ⟨output, force, isTask⟩ | ⟨path, isTask⟩ :=
          chosenTask_of_config (Command.parses_of_parse parsesBelow)
        · simp [runFlags?, isTask] at isLoadRun
        · simp [runFlags?, isTask] at isLoadRun

end Arguments

end CommandLine
end TenantLoad
