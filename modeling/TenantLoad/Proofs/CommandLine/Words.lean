import Mathlib.Data.List.TakeDrop
import TenantLoad.CommandLine.Grammar
import TenantLoad.Proofs.Except

/-!
# Words of a command

A command is plain if each of its flags takes a value or asks for help or the
version.  A word of such a command that is read either begins a flag, is the value
of the flag before it or is the double dash that only the end may follow.  The
values that are read once all words are there are those of the flags among the
words.
-/

namespace TenantLoad
namespace CommandLine

/-- A flag stands among words with a text as its value: behind an equals sign or
as the next word. -/
def Flag.OccursIn (flag : Flag) (text : String) (words : List String) : Prop :=
  ∃ name ∈ flag.name :: flag.aliases, ∃ before after,
    words = before ++ s!"--{name}={text}" :: after ∨ words = before ++ s!"--{name}" :: text :: after

/-- Every flag takes a value, or asks for help or the version; only those that
take none have letters. -/
def Command.IsPlain (command : Command) : Prop :=
  ∀ flag ∈ command.flags,
    flag.takesValue = true ∧ flag.letter = none ∨ flag.kind = .help ∨ flag.kind = .version

instance (command : Command) : Decidable command.IsPlain :=
  inferInstanceAs (Decidable (∀ flag ∈ command.flags, _))

theorem Flag.takesValue_iff
    {flag : Flag} :
    flag.takesValue = true ↔ ∃ kind, flag.kind = .value kind := by
  unfold takesValue
  split
  next kind isValue => simp [isValue]
  next isNoValue =>
    simp only [Bool.false_eq_true, false_iff, not_exists]
    exact isNoValue

namespace Level

variable {level next : Level} {flag : Flag}

theorem awaitsValue_iff :
    level.awaitsValue = true ↔ ∃ flag, level.pending = some (flag, none) := by
  unfold awaitsValue
  split
  next flag isPending => simp [isPending]
  next isNotPending =>
    simp only [Bool.false_eq_true, false_iff, not_exists]
    exact isNotPending

theorem add_eq_ok_iff
    {value : Except Fault Value} :
    level.add flag value = .ok next ↔
      level.values.lookup flag.name = none ∧ ∃ own, value = .ok own ∧
        { level with values := level.values ++ [(flag.name, own)] } = next := by
  unfold add
  cases level.values.lookup flag.name with
  | some other => simp
  | none => cases value <;> simp

/-- Nothing is pending once it is settled, and the values are kept. -/
theorem settle_spec
    {settled : Level}
    (settles : level.settle = .ok settled) :
    settled.pending = none ∧ ∃ others, settled.values = level.values ++ others := by
  unfold settle at settles
  split at settles
  next isPending =>
    cases settles
    exact ⟨isPending, [], (List.append_nil _).symm⟩
  next own text isPending =>
    unfold give at settles
    split at settles
    all_goals try cases settles
    all_goals
      obtain ⟨-, value, -, rfl⟩ := add_eq_ok_iff.mp settles
      exact ⟨rfl, _, rfl⟩

/-- A flag that takes a value is not settled without one. -/
theorem settle_ne_ok
    {kind : ValueKind}
    (isPending : level.pending = some (flag, none))
    (takes : flag.kind = .value kind) :
    level.settle ≠ .ok next := by
  simp [settle, isPending, give, takes]

/-- A flag begins once the one before it is settled. -/
theorem begin_eq_ok_iff
    {kind : ValueKind}
    (takes : flag.kind = .value kind)
    {attached : Option String} :
    level.begin flag attached = .ok next ↔
      ∃ settled, level.settle = .ok settled ∧
        match attached with
        | none => { settled with pending := some (flag, none) } = next
        | some text => settled.add flag (kind.read text) = .ok next := by
  have takesValue : flag.takesValue = true := by simp [Flag.takesValue, takes]
  unfold begin
  cases level.settle with
  | error fault => cases attached <;> simp [takesValue]
  | ok settled => cases attached <;> simp [takesValue, give, takes]

/-- A flag that asks for help or the version begins nothing. -/
theorem begin_ne_ok
    (asks : flag.kind = .help ∨ flag.kind = .version)
    {attached : Option String} :
    level.begin flag attached ≠ .ok next := by
  have takesNone : flag.takesValue = false := by
    rcases asks with kind | kind <;> simp [Flag.takesValue, kind]
  unfold begin
  cases attached with
  | some text => simp [takesNone]
  | none =>
      cases level.settle with
      | error fault => simp
      | ok settled => rcases asks with kind | kind <;> simp [takesNone, give, kind]

end Level

namespace Command

/-- A flag is found by each of its names. -/
def Knows (command : Command) (flag : Flag) : Prop :=
  ∀ name ∈ flag.name :: flag.aliases,
    name ≠ "" ∧ '=' ∉ name.toList ∧ command.flag? name = some flag

instance (command : Command) (flag : Flag) : Decidable (command.Knows flag) :=
  inferInstanceAs (Decidable (∀ name ∈ flag.name :: flag.aliases, _))

/-- What a word of a plain command does. -/
inductive Reads (command : Command) (level : Level) (word : String) : Level → Prop
  /-- The rest must be empty. -/
  | dashes (isDashes : word = "--") : Reads command level word { level with isAfterDashes := true }
  /-- A flag begins and has its value. -/
  | attached {name text : String} {flag : Flag} {kind : ValueKind} {value : Value}
    {settled : Level} (isFlag : longFlag? word = some (name, some text))
    (found : command.flag? name = some flag) (takes : flag.kind = .value kind)
    (settles : level.settle = .ok settled) (isRead : kind.read text = .ok value)
    (fresh : settled.values.lookup flag.name = none) :
    Reads command level word { settled with values := settled.values ++ [(flag.name, value)] }
  /-- A flag begins and its value comes next. -/
  | opened {name : String} {flag : Flag} {kind : ValueKind} {settled : Level}
    (isNoDash : word ≠ "--") (isFlag : longFlag? word = some (name, none))
    (found : command.flag? name = some flag) (takes : flag.kind = .value kind)
    (settles : level.settle = .ok settled) :
    Reads command level word { settled with pending := some (flag, none) }
  /-- The value of the flag before comes. -/
  | taken {flag : Flag} (isNoFlag : longFlag? word = none)
    (isPending : level.pending = some (flag, none)) :
    Reads command level word { level with pending := some (flag, some word) }

variable {command : Command} {level next : Level} {word : String}

/-- Letters stand for no flag that takes a value. -/
theorem beginLetters_ne_ok
    (isPlain : command.IsPlain)
    {letters : List Char}
    (someLetter : letters ≠ []) :
    command.beginLetters level letters ≠ .ok next := by
  obtain ⟨letter, others, rfl⟩ := List.exists_cons_of_ne_nil someLetter
  simp only [beginLetters, List.foldlM_cons]
  cases found : command.letterFlag? letter with
  | none => simp
  | some flag =>
      have isLetter : flag.letter = some letter := by simpa using List.find?_some found
      obtain ⟨-, isNoLetter⟩ | asks := isPlain flag (List.mem_of_find?_eq_some found)
      · simp [isLetter] at isNoLetter
      · intro reads
        obtain ⟨begun, begins, -⟩ := Except.bind_eq_ok_iff.mp reads
        exact Level.begin_ne_ok asks begins

theorem letters?_ne_nil
    {letters : List Char}
    (isLetters : letters? word = some letters) :
    letters ≠ [] := by
  unfold letters? at isLetters
  split at isLetters
  · split at isLetters <;> simp at isLetters
    simp [← isLetters]
  · cases isLetters

/-- A word that is read does one of four things. -/
theorem reads_of_readWord
    (isPlain : command.IsPlain)
    (reads : command.readWord level word = .ok next) :
    command.Reads level word next := by
  unfold readWord at reads
  split at reads
  · cases reads
  split at reads
  next isDashes =>
    cases reads
    exact .dashes isDashes
  rename_i isNoDash
  split at reads
  next name attached isFlag =>
    cases found : command.flag? name with
    | none => simp [found] at reads
    | some flag =>
        rw [found] at reads
        obtain ⟨takesValue, -⟩ | asks := isPlain flag (List.mem_of_find?_eq_some found)
        · obtain ⟨kind, takes⟩ := Flag.takesValue_iff.mp takesValue
          obtain ⟨settled, settles, begins⟩ := (Level.begin_eq_ok_iff takes).mp reads
          cases attached with
          | none =>
              cases begins
              exact .opened isNoDash isFlag found takes settles
          | some text =>
              obtain ⟨fresh, value, isRead, rfl⟩ := Level.add_eq_ok_iff.mp begins
              exact .attached isFlag found takes settles isRead fresh
        · exact (Level.begin_ne_ok asks reads).elim
  next letters isNoFlag isLetters =>
    exact (beginLetters_ne_ok isPlain (letters?_ne_nil isLetters) reads).elim
  next isNoFlag _ =>
    split at reads
    next awaits =>
      cases reads
      obtain ⟨flag, isPending⟩ := Level.awaitsValue_iff.mp awaits
      have taken : level.takeValue word = { level with pending := some (flag, some word) } := by
        simp [Level.takeValue, isPending]
      rw [taken]
      exact .taken isNoFlag isPending
    · cases reads

end Command

/-- The text is the value of a flag among values. -/
def Values.Has (values : Values) (flag : Flag) (kind : ValueKind) (text : String) : Prop :=
  ∃ value, kind.read text = .ok value ∧ values.lookup flag.name = some value

/-- The text is the value of a flag that is settled or pending. -/
def Level.Gives (level : Level) (flag : Flag) (kind : ValueKind) (text : String) : Prop :=
  level.pending = some (flag, some text) ∨ Values.Has level.values flag kind text

section Gives

variable {command : Command} {level next settled : Level} {word : String} {flag : Flag}
  {kind : ValueKind} {text : String} {values : Values}

/-- A value stays when others are added. -/
theorem Values.Has.append
    (has : Values.Has values flag kind text)
    (others : Values) :
    Values.Has (values ++ others) flag kind text := by
  obtain ⟨value, isRead, found⟩ := has
  exact ⟨value, isRead, by simp [List.lookup_append, found]⟩

/-- What is settled stays settled. -/
theorem Values.Has.settle
    (has : Values.Has level.values flag kind text)
    (settles : level.settle = .ok settled) :
    Values.Has settled.values flag kind text := by
  obtain ⟨-, others, values⟩ := Level.settle_spec settles
  rw [values]
  exact has.append others

/-- A flag that is settled leaves its value. -/
theorem Level.Gives.settle
    (gives : level.Gives flag kind text)
    (takes : flag.kind = .value kind)
    (settles : level.settle = .ok settled) :
    Values.Has settled.values flag kind text := by
  obtain isPending | has := gives
  · simp only [Level.settle, isPending, Level.give, takes, Level.add_eq_ok_iff] at settles
    obtain ⟨fresh, value, isRead, rfl⟩ := settles
    exact ⟨value, isRead, by simp [List.lookup_append, fresh]⟩
  · exact has.settle settles

/-- A value that is given stays given. -/
theorem Level.Gives.reads
    (gives : level.Gives flag kind text)
    (takes : flag.kind = .value kind)
    (reads : command.Reads level word next) :
    next.Gives flag kind text := by
  cases reads with
  | dashes => exact gives
  | attached isFlag found takesToo settles isRead fresh =>
      exact .inr ((gives.settle takes settles).append _)
  | opened isNoDash isFlag found takesToo settles =>
      have has := gives.settle takes settles
      exact .inr has
  | taken isNoFlag isPending =>
      obtain isPendingToo | has := gives
      · simp [isPending] at isPendingToo
      · exact .inr has

theorem Command.readWords_cons
    {words : List String} :
    (word :: words).foldlM command.readWord level = .ok settled ↔
      ∃ next, command.readWord level word = .ok next ∧
        words.foldlM command.readWord next = .ok settled := by
  rw [List.foldlM_cons, Except.bind_eq_ok_iff]

theorem Level.Gives.readWords
    {words : List String}
    (gives : level.Gives flag kind text)
    (takes : flag.kind = .value kind)
    (isPlain : command.IsPlain)
    (reads : words.foldlM command.readWord level = .ok next) :
    next.Gives flag kind text := by
  induction words generalizing level with
  | nil =>
      cases reads
      exact gives
  | cons word words inductionHypothesis =>
      obtain ⟨begun, readsWord, readsWords⟩ := Command.readWords_cons.mp reads
      exact inductionHypothesis
        (gives.reads takes (Command.reads_of_readWord isPlain readsWord)) readsWords

namespace Command

theorem span_name
    {name : String}
    {rest : List Char}
    (noSign : '=' ∉ name.toList)
    (isBehind : ∀ character ∈ rest.head?, character = '=') :
    (name.toList ++ rest).span (· != '=') = (name.toList, rest) := by
  have inName : ∀ character ∈ name.toList, (character != '=') = true := by
    intro character member
    simp only [bne_iff_ne, ne_eq]
    rintro rfl
    exact noSign member
  rw [List.span_eq_takeWhile_dropWhile, List.takeWhile_append_of_pos inName,
    List.dropWhile_append_of_pos inName]
  cases rest with
  | nil => simp
  | cons first rest =>
      have isSign : first = '=' := isBehind first rfl
      simp [isSign]

theorem longFlag?_attached
    {name : String}
    (noSign : '=' ∉ name.toList) :
    longFlag? s!"--{name}={text}" = some (name, some text) := by
  have characters : (s!"--{name}={text}").toList =
      '-' :: '-' :: (name.toList ++ '=' :: text.toList) := by
    change ("--" ++ name ++ "=" ++ text).toList = _
    simp [String.toList_append]
  simp only [longFlag?, characters]
  rw [span_name noSign (by simp)]
  simp

theorem longFlag?_bare
    {name : String}
    (noSign : '=' ∉ name.toList) :
    longFlag? s!"--{name}" = some (name, none) := by
  have characters : (s!"--{name}").toList = '-' :: '-' :: (name.toList ++ []) := by
    change ("--" ++ name).toList = _
    simp [String.toList_append]
  simp only [longFlag?, characters]
  rw [span_name noSign (by simp)]
  simp

theorem longFlag?_dashes : longFlag? "--" = some ("", none) := by decide

/-- A flag that has begun awaits its value. -/
theorem readWord_bare
    {name : String}
    (isPlain : command.IsPlain)
    (known : command.Knows flag)
    (named : name ∈ flag.name :: flag.aliases)
    (reads : command.readWord level s!"--{name}" = .ok next) :
    next.pending = some (flag, none) := by
  obtain ⟨nonempty, noSign, isFound⟩ := known name named
  have isFlag := longFlag?_bare noSign
  cases reads_of_readWord isPlain reads with
  | dashes isDashes =>
      rw [isDashes, longFlag?_dashes] at isFlag
      simp only [Option.some.injEq, Prod.mk.injEq, and_true] at isFlag
      exact (nonempty isFlag.symm).elim
  | attached isFlagToo => simp [isFlag] at isFlagToo
  | opened isNoDash isFlagToo found =>
      rw [isFlag] at isFlagToo
      cases isFlagToo
      cases isFound.symm.trans found
      rfl
  | taken isNoFlag => simp [isFlag] at isNoFlag

/-- A flag with its value behind an equals sign gets it. -/
theorem readWord_attached
    {name : String}
    (isPlain : command.IsPlain)
    (takes : flag.kind = .value kind)
    (known : command.Knows flag)
    (named : name ∈ flag.name :: flag.aliases)
    (reads : command.readWord level s!"--{name}={text}" = .ok next) :
    next.Gives flag kind text := by
  obtain ⟨nonempty, noSign, isFound⟩ := known name named
  have isFlag : longFlag? s!"--{name}={text}" = some (name, some text) := longFlag?_attached noSign
  cases reads_of_readWord isPlain reads with
  | dashes isDashes =>
      rw [isDashes, longFlag?_dashes] at isFlag
      simp at isFlag
  | attached isFlagToo found takesToo settles isRead fresh =>
      rw [isFlag] at isFlagToo
      cases isFlagToo
      cases isFound.symm.trans found
      cases takes.symm.trans takesToo
      exact .inr ⟨_, isRead, by simp [List.lookup_append, fresh]⟩
  | opened isNoDash isFlagToo => simp [isFlag] at isFlagToo
  | taken isNoFlag => simp [isFlag] at isNoFlag

/-- A flag that stands with a text among words that are read gets that value. -/
theorem has_of_occursIn
    {words : List String}
    (isPlain : command.IsPlain)
    (takes : flag.kind = .value kind)
    (known : command.Knows flag)
    (occurs : flag.OccursIn text words)
    (reads : words.foldlM command.readWord level = .ok next)
    (settles : next.settle = .ok settled) :
    Values.Has settled.values flag kind text := by
  obtain ⟨name, named, before, after, rfl | rfl⟩ := occurs
  · rw [List.foldlM_append, Except.bind_eq_ok_iff] at reads
    obtain ⟨reached, -, reads⟩ := reads
    obtain ⟨begun, readsWord, readsWords⟩ := readWords_cons.mp reads
    have gives := readWord_attached isPlain takes known named readsWord
    exact (gives.readWords takes isPlain readsWords).settle takes settles
  · rw [List.foldlM_append, Except.bind_eq_ok_iff] at reads
    obtain ⟨reached, -, reads⟩ := reads
    obtain ⟨begun, readsFlag, reads⟩ := readWords_cons.mp reads
    obtain ⟨given, readsText, readsWords⟩ := readWords_cons.mp reads
    have awaits := readWord_bare isPlain known named readsFlag
    cases reads_of_readWord isPlain readsText with
    | dashes isDashes =>
        -- the flag stays without a value, for nothing is read behind the dashes
        cases after with
        | nil =>
            cases readsWords
            have stays : ({ begun with isAfterDashes := true } : Level).pending =
              some (flag, none) := awaits
            exact (Level.settle_ne_ok stays takes settles).elim
        | cons word words =>
            obtain ⟨_, readsWord, -⟩ := readWords_cons.mp readsWords
            cases readsWord
    | attached isFlag found takesToo settlesToo =>
        exact (Level.settle_ne_ok awaits takes settlesToo).elim
    | opened isNoDash isFlag found takesToo settlesToo =>
        exact (Level.settle_ne_ok awaits takes settlesToo).elim
    | taken isNoFlag isPending =>
        cases awaits.symm.trans isPending
        have gives : Level.Gives { begun with pending := some (flag, some text) } flag kind text :=
          .inl rfl
        exact (gives.readWords takes isPlain readsWords).settle takes settles

end Command

end Gives

end CommandLine
end TenantLoad
