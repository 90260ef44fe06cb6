import DocStore.Members
import DocStore.Power

/-!
# Command lines

The general form of a command line: words, options with or without a value, and a word that names a
subcommand with a command line of its own. A `Level` says which of these a command takes, and
`Level.read` reads its arguments from left to right:

* `--name value`, `--name=value`, `-n value`, `-nvalue` and `-n=value` give an option a value, and
  flags can share one hyphen;
* the value of an option is checked when the next option or word is read, or at the end;
* after `--` everything is a word, unless the option before it takes values that start with a hyphen;
* an option may be given once.
-/

namespace DocStore.CommandLine

/-- Why a command line is not carried out; the first three ask for something else. -/
inductive UsageError where
  | helpRequested
  | versionRequested
  /-- Help is shown for an empty command line. -/
  | helpForMissingCommand
  | missingCommand
  | unknownCommand
  | unknownArgument
  | unexpectedValue
  | repeatedArgument
  | missingValue
  | invalidValue
  | missingWord
deriving DecidableEq, Repr

/-- What an option takes, or what it asks for. -/
inductive Operand where
  | flag
  | text
  /-- A text that may start with a hyphen. -/
  | anyText
  /-- A natural number of 32 bits. -/
  | number
  | help
  | version
deriving DecidableEq, Repr

/-- An option. -/
structure OptionRule where
  name : String
  short : Option Char := none
  operand : Operand
deriving DecidableEq, Repr

/-- Whether an option is followed by a value. -/
def OptionRule.takesValue (rule : OptionRule) : Bool :=
  match rule.operand with
  | .text | .anyText | .number => true
  | .flag | .help | .version => false

/-- What one command takes. -/
structure Level where
  /-- The number of words, none of which may be missing. -/
  words : Nat := 0
  options : List OptionRule := []
  /-- The subcommands, one of which has to follow if there are any. -/
  subcommands : List String := []
deriving Repr

/-- What has been given to a command. -/
structure Given where
  /-- The values of options, in order; a flag has an empty one. -/
  values : Members String := []
  words : List String := []
deriving DecidableEq, Repr

/-- What has been read, and the last option with the value that is still to be checked. -/
structure State where
  given : Given := {}
  pending : Option (OptionRule × Option String) := none
deriving Repr

/-! ### Values -/

/-- The integer in a text with an optional sign. -/
def integer? (text : String) : Option Int :=
  let digits? (s : List Char) : Option Nat :=
    if s.isEmpty || !s.all Char.isDigit then none
    else some (s.foldl (fun n c => n * 10 + (c.toNat - '0'.toNat)) 0)
  match text.toList with
  | '-' :: s => (digits? s).map fun n => -(n : Int)
  | '+' :: s => (digits? s).map fun n => (n : Int)
  | s => (digits? s).map fun n => (n : Int)

/-- The natural number of 32 bits in a text. -/
def number? (text : String) : Option Nat :=
  (integer? text).bind fun n => if 0 ≤ n ∧ n < twoTo 32 then some n.toNat else none

/-- Whether a text can be the value of an option. -/
def OptionRule.accepts (rule : OptionRule) (value : String) : Bool :=
  match rule.operand with
  | .number => (number? value).isSome
  | _ => true

namespace State

/-- Store the value of an option. -/
def store (s : State) (rule : OptionRule) (value : String) : Except UsageError State :=
  if s.given.values.contains rule.name then .error .repeatedArgument
  else if !rule.accepts value then .error .invalidValue
  else .ok { s with given := { s.given with values := s.given.values.insert rule.name value } }

/-- Check and store the value of the last option. -/
def settle (s : State) : Except UsageError State :=
  match s.pending with
  | none => .ok s
  | some (_, none) => .error .missingValue
  | some (rule, some value) => { s with pending := none }.store rule value

/-- Whether the last option still lacks its value. -/
def awaits (s : State) : Bool := s.pending.any fun p => p.2.isNone

/-- Whether the last option still lacks its value, which may start with a hyphen. -/
def awaitsAny (s : State) : Bool := s.pending.any fun p => p.2.isNone && p.1.operand = .anyText

/-- Give the last option its value. -/
def giveValue (s : State) (value : String) : State :=
  { s with pending := s.pending.map fun p => (p.1, some value) }

/-- An option without a value. -/
def flag (s : State) (rule : OptionRule) : Except UsageError State := do
  let s ← s.settle
  match rule.operand with
  | .help => throw .helpRequested
  | .version => throw .versionRequested
  | _ => s.store rule ""

/-- An option that takes a value, which may be attached to it. -/
def option (s : State) (rule : OptionRule) (attached : Option String) :
    Except UsageError State := do
  let s ← s.settle
  match attached with
  | some value => s.store rule value
  | none => return { s with pending := some (rule, none) }

/-- A word. -/
def word (s : State) (text : String) : Except UsageError State := do
  let s ← s.settle
  return { s with given := { s.given with words := s.given.words ++ [text] } }

end State

/-! ### Arguments -/

/-- An argument by its form. -/
inductive Argument where
  | word
  | long (name : String) (attached : Option String)
  | short (letters : List Char)
deriving DecidableEq, Repr

/-- The text after the first equals sign. -/
def attachedValue? (s : List Char) : Option String :=
  match s.dropWhile (· ≠ '=') with
  | [] => none
  | _ :: value => some (String.ofList value)

/-- The form of an argument. -/
def Argument.ofText (text : String) : Argument :=
  match text.toList with
  | '-' :: '-' :: s => .long (String.ofList (s.takeWhile (· ≠ '='))) (attachedValue? s)
  | '-' :: c :: s => .short (c :: s)
  | _ => .word

namespace Level

/-- The option of a long name. -/
def long? (level : Level) (name : String) : Option OptionRule :=
  level.options.find? fun rule => rule.name = name

/-- The option of a letter. -/
def short? (level : Level) (letter : Char) : Option OptionRule :=
  level.options.find? fun rule => rule.short = some letter

/-- An option by its long name. -/
def readLong (level : Level) (s : State) (name : String) (attached : Option String) :
    Except UsageError State :=
  match level.long? name with
  | none => .error .unknownArgument
  | some rule =>
    if rule.takesValue then s.option rule attached
    else if attached.isSome then .error .unexpectedValue
    else s.flag rule

/-- The value attached to an option's letter. -/
def lettersValue? : List Char → Option String
  | [] => none
  | '=' :: value => some (String.ofList value)
  | value => some (String.ofList value)

/-- Options by their letters. -/
def readShort (level : Level) : State → List Char → Except UsageError State
  | s, [] => .ok s
  | s, letter :: letters =>
    match level.short? letter with
    | none => .error .unknownArgument
    | some rule =>
      if rule.takesValue then s.option rule (lettersValue? letters)
      else do
        let s ← s.flag rule
        readShort level s letters

/-- A word, which must not be one too many. -/
def readWord (level : Level) (s : State) (text : String) (afterDashes : Bool) :
    Except UsageError State :=
  if s.given.words.length < level.words then s.word text
  else if level.subcommands.isEmpty ∨ (afterDashes ∧ text ∈ level.subcommands) then
    .error .unknownArgument
  else .error .unknownCommand

/-- Any argument but a subcommand. -/
def readArgument (level : Level) (s : State) (text : String) : Except UsageError State :=
  if s.awaitsAny then .ok (s.giveValue text)
  else
    match Argument.ofText text with
    | .long name attached => level.readLong s name attached
    | .short letters => level.readShort s letters
    | .word => if s.awaits then .ok (s.giveValue text) else level.readWord s text false

/-- The arguments of a level: what has been read, and the subcommand with the arguments after it. -/
def read (level : Level) : State → List String →
    Except UsageError (State × Option (String × List String))
  | s, [] => .ok (s, none)
  | s, text :: rest =>
    if !s.awaits && level.subcommands.contains text then .ok (s, some (text, rest))
    else if text = "--" && !s.awaitsAny then do
      let s ← rest.foldlM (fun s text => level.readWord s text true) s
      return (s, none)
    else do
      let s ← level.readArgument s text
      read level s rest

/-- Check the last value and the number of words. -/
def finish (level : Level) (s : State) : Except UsageError Given := do
  let s ← s.settle
  if s.given.words.length < level.words then throw .missingWord
  return s.given

/-- The arguments of a command that has no subcommands. -/
def readAll (level : Level) (arguments : List String) : Except UsageError Given := do
  let (s, _) ← level.read {} arguments
  level.finish s

/-- Why a request for help is not granted, or that it is. -/
def helpOutcome (level : Level) : List String → UsageError
  | [] => .helpRequested
  | [name] => if name ∈ level.subcommands then .helpRequested else .unknownCommand
  | _ => .unknownCommand

/-- The arguments of a command with subcommands, of which `help` is one: what was given to the
command, which subcommand follows, and what was given to it. -/
def readWithSubcommand (level : Level) (sublevel : String → Level) (arguments : List String) :
    Except UsageError (Given × String × Given) := do
  match ← level.read {} arguments with
  | (s, none) =>
    let s ← s.settle
    throw (if s.given.values.isEmpty then .helpForMissingCommand else .missingCommand)
  | (s, some (name, rest)) =>
    if name = "help" then throw (level.helpOutcome rest)
    let inner ← (sublevel name).readAll rest
    let outer ← level.finish s
    return (outer, name, inner)

end Level

end DocStore.CommandLine
