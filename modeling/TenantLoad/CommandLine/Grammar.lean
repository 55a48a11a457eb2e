import TenantLoad.Text.Number

/-!
# Command lines

A command has flags and may have further commands below it.  The words of a
command line are read from left to right: a word that names a command goes
down to it, two dashes begin a flag, and a flag that takes a value has it
after an equals sign or as the next word.  A flag is settled only when the
next one begins or the words of its command end, so faults behind it can come
to light before one in its value.
-/

namespace TenantLoad
namespace CommandLine

/-- What the value of a flag may be. -/
inductive ValueKind where
  | text
  /-- A path, which is not empty. -/
  | path
  /-- A number of so many bits. -/
  | count (bits : Nat)
  deriving Repr, DecidableEq

/-- What a flag does. -/
inductive FlagKind where
  /-- It takes a value. -/
  | value (kind : ValueKind)
  /-- It is given or not. -/
  | switch
  /-- It asks for help. -/
  | help
  /-- It asks for the version. -/
  | version
  deriving Repr, DecidableEq

/-- A flag. -/
structure Flag where
  name : String
  kind : FlagKind
  aliases : List String := []
  /-- The letter that may follow a single dash. -/
  letter : Option Char := none
  deriving Repr, DecidableEq

/-- A command with the commands below it. -/
structure Command where
  flags : List Flag
  /-- The names of the flags that must be given. -/
  required : List String := []
  /-- Whether one of the commands below must be chosen. -/
  mustChoose : Bool := false
  commands : List (String × Command) := []

/-- The value of a flag that is given. -/
inductive Value where
  | text (value : String)
  | count (value : Nat)
  | given
  deriving Repr, DecidableEq

/-- The values of flags by name, in the order in which they are settled. -/
abbrev Values := List (String × Value)

/-- Why a command line cannot be used. -/
inductive Fault where
  /-- Help was asked for. -/
  | help
  /-- The version was asked for. -/
  | version
  /-- Nothing was asked for where something must be. -/
  | nothingChosen
  | missingCommand
  | unknownCommand
  | unknownWord
  | missingValue
  | unreadableValue
  | repeatedFlag
  | unwantedValue
  | missingFlag
  deriving Repr, DecidableEq

namespace Flag

/-- Whether a flag goes by a name. -/
def isNamed (flag : Flag) (name : String) : Bool := flag.name == name || flag.aliases.contains name

/-- Whether a flag takes a value. -/
def takesValue (flag : Flag) : Bool :=
  match flag.kind with
  | .value _ => true
  | _ => false

end Flag

/-- The value of a kind that a text is. -/
def ValueKind.read (kind : ValueKind) (text : String) : Except Fault Value :=
  match kind with
  | .text => .ok (.text text)
  | .path => if text.isEmpty then .error .missingValue else .ok (.text text)
  | .count bits =>
    match Text.number bits text with
    | .ok value => .ok (.count value)
    | .error _ => .error .unreadableValue

/-- What has been read of the words of a command. -/
structure Level where
  values : Values := []
  /-- A flag that takes a value and is not settled yet, with its value if that
  has been read. -/
  pending : Option (Flag × Option String) := none
  /-- Whether the words after a bare double dash have been reached. -/
  isAfterDashes : Bool := false

namespace Level

/-- Add the value of a flag that is not given yet. -/
def add (level : Level) (flag : Flag) (value : Except Fault Value) : Except Fault Level := do
  if (level.values.lookup flag.name).isSome then throw .repeatedFlag
  return { level with values := level.values ++ [(flag.name, ← value)] }

/-- Settle a flag with the text of its value, if it has one. -/
def give (level : Level) (flag : Flag) (text : Option String) : Except Fault Level :=
  match flag.kind, text with
  | .value kind, some text => level.add flag (kind.read text)
  | .value _, none => throw .missingValue
  | .switch, _ => level.add flag (.ok .given)
  | .help, _ => throw .help
  | .version, _ => throw .version

/-- Settle the flag that is pending. -/
def settle (level : Level) : Except Fault Level :=
  match level.pending with
  | none => .ok level
  | some (flag, text) => { level with pending := none }.give flag text

/-- Begin a flag, with the value behind its equals sign if it has one. -/
def begin (level : Level) (flag : Flag) (attached : Option String) : Except Fault Level := do
  if attached.isSome && !flag.takesValue then throw .unwantedValue
  let level ← level.settle
  if flag.takesValue && attached.isNone then
    return { level with pending := some (flag, none) }
  else
    level.give flag attached

/-- Whether the next word is the value of a flag. -/
def awaitsValue (level : Level) : Bool :=
  match level.pending with
  | some (_, none) => true
  | _ => false

/-- The level after the value of the pending flag. -/
def takeValue (level : Level) (text : String) : Level :=
  { level with pending := level.pending.map fun (flag, _) => (flag, some text) }

end Level

namespace Command

/-- The name of the command that gives help on others. -/
def helpName : String := "help"

/-- The flag of a long name. -/
def flag? (command : Command) (name : String) : Option Flag :=
  command.flags.find? fun flag => flag.isNamed name

/-- The flag of a letter. -/
def letterFlag? (command : Command) (letter : Char) : Option Flag :=
  command.flags.find? fun flag => flag.letter == some letter

/-- Whether there are commands below a command. -/
def hasCommands (command : Command) : Bool := !command.commands.isEmpty

/-- Whether a word is the command that gives help on those below. -/
def isHelp (command : Command) (word : String) : Bool := command.hasCommands && word == helpName

/-- What is answered to a question for help on a command below. -/
def helpOn : Command → List String → Fault
  | _, [] => .help
  | command, word :: rest =>
    match command.commands.lookup word with
    | some below => helpOn below rest
    | none =>
      if command.isHelp word then (if rest.isEmpty then .help else .unknownCommand)
      else .unknownCommand

/-- What is wrong with a word that is neither a command nor a flag. -/
def wordFault (command : Command) (level : Level) (word : String) : Fault :=
  let isKnown := (command.commands.lookup word).isSome || command.isHelp word
  if command.hasCommands ∧ ¬(level.isAfterDashes ∧ isKnown) then .unknownCommand else .unknownWord

/-- Check the flags of a command once all of its words are read. -/
def check (command : Command) (level : Level) (hasChosen : Bool) : Except Fault Values := do
  let level ← level.settle
  if command.mustChoose && !hasChosen then
    throw (if level.values.isEmpty then .nothingChosen else .missingCommand)
  if command.required.any fun name => (level.values.lookup name).isNone then throw .missingFlag
  return level.values

/-- The name and the attached value of a word that begins with two dashes. -/
def longFlag? (word : String) : Option (String × Option String) :=
  match word.toList with
  | '-' :: '-' :: rest =>
    match rest.span (· != '=') with
    | (name, '=' :: value) => some (String.ofList name, some (String.ofList value))
    | (name, _) => some (String.ofList name, none)
  | _ => none

/-- The letters of a word that begins with one dash. -/
def letters? (word : String) : Option (List Char) :=
  match word.toList with
  | '-' :: first :: rest => if first = '-' then none else some (first :: rest)
  | _ => none

/-- Begin the flags of letters that are written together. -/
def beginLetters (command : Command) (level : Level) (letters : List Char) : Except Fault Level :=
  letters.foldlM
    (fun level letter =>
      match command.letterFlag? letter with
      | some flag => level.begin flag none
      | none => throw .unknownWord)
    level

/-- The level after a word that is no command. -/
def readWord (command : Command) (level : Level) (word : String) : Except Fault Level :=
  if level.isAfterDashes then throw (command.wordFault level word)
  else if word = "--" then .ok { level with isAfterDashes := true }
  else
    match longFlag? word, letters? word with
    | some (name, attached), _ =>
      match command.flag? name with
      | some flag => level.begin flag attached
      | none => throw .unknownWord
    | none, some letters => command.beginLetters level letters
    | none, none =>
      if level.awaitsValue then .ok (level.takeValue word)
      else throw (command.wordFault level word)

/-- The values of the flags of a command and of the commands that are chosen
below it, each with its name. -/
def parse (name : String) (command : Command) (level : Level) :
    List String → Except Fault (List (String × Values))
  | [] => do return [(name, ← command.check level false)]
  | word :: rest =>
    if level.isAfterDashes || level.awaitsValue then do
      parse name command (← command.readWord level word) rest
    else if command.isHelp word then
      throw (command.helpOn rest)
    else
      match command.commands.lookup word with
      | some below => do
        let chosen ← parse word below {} rest
        return (name, ← command.check level true) :: chosen
      | none => do parse name command (← command.readWord level word) rest

end Command
end CommandLine
end TenantLoad
