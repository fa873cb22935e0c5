import TimedRelease.Command.Basic

/-!
# Command lines

The words of a command line name a command and give its flags.  A flag that takes
a value has it behind an equals sign or in the next word.  Words are taken in from
the left, and the value of a flag is looked at when the next flag or the end of the
line is reached; the first thing that is wrong then is the error.  What the flags
come to together is only asked at the end.
-/

namespace TimedRelease

namespace CommandLine

/-- A flag. -/
inductive Flag where
  | raw
  | block
  | time
  | sender
  | recipient
  | value
  | gasLimit
  | gasPrice
  | data
  | schedule
  | nodeUrl
  deriving DecidableEq, Repr

namespace Flag

/-- The name of a flag, without the two hyphens in front of it. -/
def name : Flag → String
  | .raw => "raw"
  | .block => "block"
  | .time => "time"
  | .sender => "from"
  | .recipient => "to"
  | .value => "value"
  | .gasLimit => "gas"
  | .gasPrice => "gas-price"
  | .data => "data"
  | .schedule => "schedule"
  | .nodeUrl => "node-url"

/-- The flag takes a value. -/
def takesValue : Flag → Bool
  | .schedule => false
  | _ => true

/-- The value of the flag is a number. -/
def isNumber : Flag → Bool
  | .time => true
  | _ => false

end Flag

/-- A command without its flags. -/
inductive Subcommand where
  | schedule
  | compose
  | signRequest
  | watch
  deriving DecidableEq, Repr

namespace Subcommand

/-- The name of a command. -/
def name : Subcommand → String
  | .schedule => "schedule"
  | .compose => "compose"
  | .signRequest => "sign-request"
  | .watch => "watch"

/-- The commands. -/
def all : List Subcommand := [.schedule, .compose, .signRequest, .watch]

/-- The flags of a release condition. -/
def conditionFlags : List Flag := [.block, .time]

/-- The flags of a draft. -/
def draftFlags : List Flag := [.sender, .recipient, .value, .gasLimit, .gasPrice, .data]

/-- The flags of a command. -/
def flags : Subcommand → List Flag
  | .schedule => .raw :: conditionFlags
  | .compose => draftFlags ++ conditionFlags ++ [.schedule]
  | .signRequest => draftFlags ++ [.nodeUrl]
  | .watch => []

end Subcommand

/-- Why a command line is no command. -/
inductive UsageError where
  /-- Help is asked for. -/
  | help
  /-- There is no command. -/
  | noCommand
  | unknownCommand (word : String)
  | unknownArgument (word : String)
  /-- A value is given to what takes none. -/
  | surplusValue (name : String)
  | missingValue (flag : Flag)
  | repeated (flag : Flag)
  | notNumber (flag : Flag) (value : String)
  /-- Flags that exclude each other are given. -/
  | conflict (first second : Flag)
  | missing (flag : Flag)
  deriving DecidableEq, Repr

/-- The commands there are. -/
def usage : String :=
  "Usage: [--config FILE] " ++ String.intercalate " | " (Subcommand.all.map Subcommand.name) ++
    " | help"

/-- The wording of why a command line is no command. -/
def UsageError.message : UsageError → String
  | .help => usage
  | .noCommand => usage
  | .unknownCommand word => "unrecognized subcommand '" ++ word ++ "'"
  | .unknownArgument word => "unexpected argument '" ++ word ++ "' found"
  | .surplusValue name => "unexpected value for '--" ++ name ++ "' found; no more were expected"
  | .missingValue flag => "a value is required for '--" ++ flag.name ++ "' but none was supplied"
  | .repeated flag => "the argument '--" ++ flag.name ++ "' cannot be used multiple times"
  | .notNumber flag value => "invalid value '" ++ value ++ "' for '--" ++ flag.name ++ "'"
  | .conflict first second =>
    "the argument '--" ++ first.name ++ "' cannot be used with '--" ++ second.name ++ "'"
  | .missing flag => "the following required arguments were not provided: --" ++ flag.name

/-- The kinds of words. -/
inductive Word where
  /-- Two hyphens and nothing else: no flag follows. -/
  | escape
  /-- A name behind two hyphens, and what stands behind an equals sign. -/
  | long (name : List Char) (value : Option (List Char))
  /-- Letters behind one hyphen. -/
  | short (letters : List Char)
  | plain
  deriving DecidableEq, Repr

/-- What stands behind the first equals sign. -/
def valuePart? (text : List Char) : Option (List Char) :=
  match text.dropWhile (· != '=') with
  | [] => none
  | _ :: value => some value

/-- The kind of a word. -/
def Word.ofText : List Char → Word
  | ['-', '-'] => .escape
  | '-' :: '-' :: rest => .long (rest.takeWhile (· != '=')) (valuePart? rest)
  | '-' :: c :: rest => .short (c :: rest)
  | _ => .plain

/-- The name of the flag that asks for help. -/
def helpName : String := "help"

/-- The letter that asks for help. -/
def helpLetter : Char := 'h'

/-! ## The flags of a command -/

/-- Flags with their values, in the order of the line. -/
abbrev Given : Type := List (Flag × String)

/-- Flags that are given, and perhaps one that is still open, with its value if
that was given. -/
structure Progress where
  given : Given
  pending : Option (Flag × Option String)
  deriving DecidableEq, Repr

/-- Takes in a flag with its value. -/
def settle (given : Given) (flag : Flag) (value : String) : Except UsageError Given :=
  if given.any (·.1 == flag) then .error (.repeated flag)
  else if flag.isNumber && (Text.readUInt64 value.toList).toOption.isNone then
    .error (.notNumber flag value)
  else .ok (given ++ [(flag, value)])

/-- Takes in the flag that is still open. -/
def Progress.settled (progress : Progress) : Except UsageError Given :=
  match progress.pending with
  | none => .ok progress.given
  | some (flag, none) => .error (.missingValue flag)
  | some (flag, some value) => settle progress.given flag value

/-- Takes in a flag, with what stands behind its equals sign. -/
def Progress.takeFlag (progress : Progress) (flag : Flag) (value : Option String) :
    Except UsageError Progress :=
  if flag.takesValue then do
    let given ← progress.settled
    match value with
    | none => return ⟨given, some (flag, none)⟩
    | some text => return ⟨← settle given flag text, none⟩
  else
    match value with
    | some _ => .error (.surplusValue flag.name)
    | none => do return ⟨← settle (← progress.settled) flag "", none⟩

/-- Takes in a question for help. -/
def Progress.takeHelp (progress : Progress) : Except UsageError Progress := do
  let _ ← progress.settled
  .error .help

/-- Takes in a word of another kind than two hyphens. -/
def Progress.take (flags : List Flag) (progress : Progress) (word : String) :
    Except UsageError Progress :=
  match Word.ofText word.toList with
  | .long name value =>
    match flags.find? (·.name == String.ofList name) with
    | some flag => progress.takeFlag flag (value.map String.ofList)
    | none =>
      if String.ofList name = helpName then
        if value.isSome then .error (.surplusValue helpName) else progress.takeHelp
      else .error (.unknownArgument word)
  | .short letters =>
    if letters.head? = some helpLetter then progress.takeHelp
    else .error (.unknownArgument word)
  | .plain =>
    match progress.pending with
    | some (flag, none) => .ok { progress with pending := some (flag, some word) }
    | _ => .error (.unknownArgument word)
  | .escape => .error (.unknownArgument word)

/-- Reads the flags of a command.  Behind two hyphens there may be nothing. -/
def readFlags (flags : List Flag) (progress : Progress) : List String → Except UsageError Given
  | [] => progress.settled
  | word :: rest =>
    if Word.ofText word.toList = .escape then
      match rest with
      | [] => progress.settled
      | next :: _ => .error (.unknownArgument next)
    else
      match progress.take flags word with
      | .error error => .error error
      | .ok next => readFlags flags next rest

/-- The value of a flag. -/
def Given.value? (given : Given) (flag : Flag) : Option String :=
  List.lookup flag given

/-- The number of a flag. -/
def Given.number? (given : Given) (flag : Flag) : Option UInt64 :=
  (given.value? flag).bind fun text => (Text.readUInt64 text.toList).toOption

/-- The release condition that is given. -/
def Given.condition (given : Given) : ConditionFlags :=
  ⟨given.value? .block, given.number? .time⟩

/-- The fields of a draft that are given. -/
def Given.draft (given : Given) : DraftFlags :=
  ⟨given.value? .sender, given.value? .recipient, given.value? .value, given.value? .gasLimit,
    given.value? .gasPrice, given.value? .data⟩

/-- The command that flags come to. -/
def Subcommand.command (subcommand : Subcommand) (given : Given) : Except UsageError Command :=
  match subcommand with
  | .schedule =>
    match given.value? .raw with
    | some raw => .ok (.schedule raw given.condition)
    | none => .error (.missing .raw)
  | .compose => .ok (.compose given.draft given.condition (given.value? .schedule).isSome)
  | .signRequest => .ok (.signRequest given.draft (given.value? .nodeUrl))
  | .watch => .ok .watch

/-- Reads the flags of a command; a block and a time exclude each other. -/
def Subcommand.read (subcommand : Subcommand) (words : List String) :
    Except UsageError Command :=
  match readFlags subcommand.flags ⟨[], none⟩ words with
  | .error error => .error error
  | .ok given =>
    if (given.value? .block).isSome && (given.value? .time).isSome then
      .error (.conflict .block .time)
    else subcommand.command given

/-! ## The command -/

/-- The command of a name. -/
def Subcommand.named? (name : String) : Option Subcommand :=
  Subcommand.all.find? (·.name == name)

/-- A word is the name of a command, or asks for help about them. -/
def isCommandName (word : String) : Bool :=
  word == helpName || (Subcommand.named? word).isSome

/-- What a question for help about a command comes to. -/
def helpAbout : List String → UsageError
  | [] => .help
  | [word] => if isCommandName word then .help else .unknownCommand word
  | first :: second :: _ => .unknownCommand (if isCommandName first then second else first)

/-- The command behind two hyphens, where there may be none. -/
def behindEscape : List String → UsageError
  | [] => .noCommand
  | word :: _ => if isCommandName word then .unknownArgument word else .unknownCommand word

/-- Reads a command line. -/
def read : List String → Except UsageError Command
  | [] => .error .noCommand
  | word :: rest =>
    match Word.ofText word.toList with
    | .escape => .error (behindEscape rest)
    | .long name value =>
      if String.ofList name = helpName then
        if value.isSome then .error (.surplusValue helpName) else .error .help
      else .error (.unknownArgument word)
    | .short letters =>
      if letters.head? = some helpLetter then .error .help else .error (.unknownArgument word)
    | .plain =>
      if word = helpName then .error (helpAbout rest)
      else
        match Subcommand.named? word with
        | some subcommand => subcommand.read rest
        | none => .error (.unknownCommand word)

end CommandLine

end TimedRelease
