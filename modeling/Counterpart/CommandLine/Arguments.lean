import Counterpart.Number.Numeral
import Counterpart.Scan

/-!
# Arguments of the command line

The command takes one path and some flags, in any order.  A flag may be shortened as long as it stays
unambiguous, its value may follow after an equals sign or as the next argument, and letters of flags without a
value may be run together.  Everything behind a double dash is no flag.

Old readers of command lines lose a double dash that is the value of a flag, and then leave the flag blank.  Whether it
is lost is said by `drops`.
-/

namespace Counterpart

/-- A number of seconds that is not accepted. -/
inductive SecondsError
  | notNumber (t : Text)
  | notPositive
deriving Repr, DecidableEq

/-- The message about a number of seconds that is not accepted. -/
def SecondsError.message : SecondsError → String
  | .notNumber t => "invalid number: " ++ Text.toString (Text.quoted t)
  | .notPositive => "value must be > 0"

/-- The number of seconds that a text writes, which has to be positive. -/
def positiveSeconds (t : Text) : Except SecondsError Number.Binary64 :=
  match Number.numeral? t with
  | none => .error (.notNumber t)
  | some x => if x.isNonPositive then .error .notPositive else .ok x

namespace CommandLine

/-- A flag. -/
inductive Flag
  | help
  | root
  | timeout
  | tool
  | verbose
deriving Repr, DecidableEq

namespace Flag

/-- The spellings of a flag. -/
def spellings : Flag → List Text
  | .help => ["-h".toList, "--help".toList]
  | .root => ["--root".toList]
  | .timeout => ["--timeout".toList]
  | .tool => ["--tool".toList]
  | .verbose => ["-v".toList, "--verbose".toList]

/-- Whether a flag has a value. -/
def hasValue : Flag → Bool
  | .help | .verbose => false
  | .root | .timeout | .tool => true

/-- All flags. -/
def all : List Flag := [.help, .root, .timeout, .tool, .verbose]

/-- All spellings, each with its flag. -/
def allSpellings : List (Text × Flag) := all.flatMap fun flag => flag.spellings.map (·, flag)

/-- The flag with a spelling. -/
def ofSpelling? (spelling : Text) : Option Flag := allSpellings.lookup spelling

/-- What messages call a flag. -/
def title (flag : Flag) : Text := Text.join '/' flag.spellings

end Flag

/-- Why arguments are not accepted. -/
inductive UsageError
  | ambiguous (argument : Text) (candidates : List Text)
  | valueMissing (flag : Flag)
  | valueUnexpected (flag : Flag) (value : Text)
  | seconds (flag : Flag) (error : SecondsError)
  | unknownTool (flag : Flag) (name : Text)
  | pathMissing
  | unrecognized (arguments : List Text)
deriving Repr, DecidableEq

/-- Texts with a comma and a blank between two of them. -/
def commaSeparated (ts : List Text) : Text := ", ".toList.intercalate ts

/-- A message about a flag. -/
def aboutFlag (flag : Flag) (message : Text) : Text :=
  "argument ".toList ++ flag.title ++ ": ".toList ++ message

/-- The message about arguments that are not accepted. -/
def UsageError.message : UsageError → Text
  | .ambiguous argument candidates =>
    "ambiguous option: ".toList ++ argument ++ " could match ".toList ++ commaSeparated candidates
  | .valueMissing flag => aboutFlag flag "expected one argument".toList
  | .valueUnexpected flag value =>
    aboutFlag flag ("ignored explicit argument ".toList ++ Text.quoted value)
  | .seconds flag error => aboutFlag flag error.message.toList
  | .unknownTool flag name =>
    aboutFlag flag ("invalid choice: ".toList ++ Text.quoted name ++ " (choose from ".toList ++
      commaSeparated (Tool.all.map fun tool => Text.quoted tool.name.toList) ++ [')'])
  | .pathMissing => "the following arguments are required: path".toList
  | .unrecognized arguments => "unrecognized arguments: ".toList ++ Text.join ' ' arguments

/-! ## Sorting the arguments -/

/-- The argument behind which there are no flags. -/
def doubleDash : Text := "--".toList

/-- What an argument is, as far as can be said without its neighbours. -/
inductive Item
  | plain
  /-- The double dash. -/
  | separator
  /-- A flag, and the value that stands in the same argument; `short` if the flag is written with a single
  dash. -/
  | flag (flag : Flag) (short : Bool) (value : Option Text)
  /-- It looks like a flag but is none. -/
  | unknown
deriving Repr, DecidableEq

/-- What stands before the first equals sign of a text, and what stands behind it. -/
def splitEquals (t : Text) : Text × Option Text :=
  match t.dropWhile (· ≠ '=') with
  | [] => (t, none)
  | _ :: value => (t.takeWhile (· ≠ '='), some value)

/-- Whether a text is a negative decimal number, perhaps with a line feed behind it. -/
def isNegativeNumber : Text → Bool
  | '-' :: t =>
    let digits := if t.getLast? = some '\n' then t.dropLast else t
    let isDigit (c : Char) := (Text.decimalValue? c).isSome
    match digits.dropWhile isDigit with
    | [] => !digits.isEmpty
    | '.' :: fraction => !fraction.isEmpty && fraction.all isDigit
    | _ => false
  | _ => false

/-- A spelling is written with a single dash. -/
def isShort : Text → Bool
  | _ :: '-' :: _ => false
  | _ => true

/-- The flags that an argument may stand for, each with its spelling and the value in the same argument.  Two
dashes may be followed by the beginning of a spelling; one dash and a letter by a value. -/
def candidates (argument : Text) : List (Text × Flag × Option Text) :=
  if isShort argument then
    (Flag.allSpellings.filter fun (spelling, _) => spelling = argument.take 2).map
      fun (spelling, flag) => (spelling, flag, some (argument.drop 2))
  else
    let (beginning, value) := splitEquals argument
    (Flag.allSpellings.filter fun (spelling, _) => beginning.isPrefixOf spelling).map
      fun (spelling, flag) => (spelling, flag, value)

/-- What an argument is that starts with a dash and is not just a dash. -/
def dashedItem (argument : Text) : Except UsageError Item :=
  match Flag.ofSpelling? argument with
  | some flag => .ok (.flag flag (isShort argument) none)
  | none =>
    let (spelling, value) := splitEquals argument
    match value.bind fun _ => Flag.ofSpelling? spelling with
    | some flag => .ok (.flag flag (isShort spelling) value)
    | none =>
      match candidates argument with
      | [(spelling, flag, value)] => .ok (.flag flag (isShort spelling) value)
      | [] =>
        if isNegativeNumber argument || argument.contains ' ' then .ok .plain else .ok .unknown
      | several => .error (.ambiguous argument (several.map (·.1)))

/-- What an argument is before a double dash. -/
def item : Text → Except UsageError Item
  | '-' :: c :: rest => dashedItem ('-' :: c :: rest)
  | _ => .ok .plain

/-- The arguments with what they are; nothing behind the first double dash is a flag. -/
def items : List Text → Except UsageError (List (Text × Item))
  | [] => .ok []
  | argument :: rest =>
    if argument = doubleDash then .ok ((argument, .separator) :: rest.map (·, .plain))
    else do
      let first ← item argument
      return (argument, first) :: (← items rest)

/-! ## Reading them -/

/-- The value of a flag.  It is blank if it was a double dash, as in `--root=--`, and got lost. -/
inductive FlagValue (α : Type)
  | blank
  | given (a : α)
deriving Repr, DecidableEq

/-- The arguments of the command line: those given, or so far. -/
structure Arguments where
  path : Option Text := none
  root : Option (FlagValue Text) := none
  timeout : Option (FlagValue Number.Binary64) := none
  tool : Option (FlagValue Tool) := none
  verbose : Bool := false
  help : Bool := false
  /-- Arguments that nothing can be made of. -/
  extra : List Text := []
deriving Repr

namespace Arguments

/-- The arguments with a flag whose value is blank. -/
def withBlank (arguments : Arguments) (flag : Flag) : Arguments :=
  match flag with
  | .root => { arguments with root := some .blank }
  | .timeout => { arguments with timeout := some .blank }
  | .tool => { arguments with tool := some .blank }
  | .help | .verbose => arguments

/-- The arguments with a flag that has a value. -/
def withValue (drops : Bool) (arguments : Arguments) (flag : Flag) (value : Text) :
    Except UsageError Arguments :=
  if drops ∧ value = doubleDash then .ok (arguments.withBlank flag)
  else match flag with
    | .root => .ok { arguments with root := some (.given value) }
    | .timeout =>
      match positiveSeconds value with
      | .ok seconds => .ok { arguments with timeout := some (.given seconds) }
      | .error e => .error (.seconds flag e)
    | .tool =>
      match Tool.ofName? value with
      | some tool => .ok { arguments with tool := some (.given tool) }
      | none => .error (.unknownTool flag value)
    | .help | .verbose => .error (.valueUnexpected flag value)

/-- The arguments with a flag that has no value.  Once help is wanted nothing else matters. -/
def withFlag (arguments : Arguments) (flag : Flag) : Arguments :=
  match flag with
  | .help => { arguments with help := true }
  | .verbose => { arguments with verbose := true }
  | .root | .timeout | .tool => arguments

/-- The arguments with an argument that nothing can be made of. -/
def withExtra (arguments : Arguments) (argument : Text) : Arguments :=
  { arguments with extra := arguments.extra ++ [argument] }

/-- The flags whose letters are run together behind a flag; every letter has to be one. -/
def cluster (flag : Flag) : Text → Except UsageError (List Flag)
  | [] => .ok [flag]
  | c :: rest =>
    match Flag.ofSpelling? ['-', c] with
    | some next => do return flag :: (← cluster next rest)
    | none => .error (.valueUnexpected flag (c :: rest))

/-- The flags that a flag without a value and what stands behind it in the same argument come to. -/
def flagsOf (flag : Flag) (short : Bool) : Option Text → Except UsageError (List Flag)
  | none => .ok [flag]
  | some value =>
    if short && !value.isEmpty then cluster flag value else .error (.valueUnexpected flag value)

/-- Reads arguments.  The first one that is not a flag is the path, together with a double dash next to it. -/
def readFrom (drops : Bool) (arguments : Arguments) : List (Text × Item) → Except UsageError Arguments
  | [] => .ok arguments
  | (argument, .unknown) :: rest => readFrom drops (arguments.withExtra argument) rest
  | (argument, .plain) :: rest =>
    if arguments.path.isSome then readFrom drops (arguments.withExtra argument) rest
    else
      let arguments := { arguments with path := some argument }
      match rest with
      | (_, .separator) :: rest => readFrom drops arguments rest
      | rest => readFrom drops arguments rest
  | (argument, .separator) :: rest =>
    if arguments.path.isSome then readFrom drops (arguments.withExtra argument) rest
    else match rest with
      | (path, .plain) :: rest => readFrom drops { arguments with path := some path } rest
      | rest => readFrom drops (arguments.withExtra argument) rest
  | (_, .flag flag short value) :: rest =>
    if flag.hasValue then
      match value, rest with
      | some value, rest => do readFrom drops (← arguments.withValue drops flag value) rest
      | none, (value, .plain) :: rest => do readFrom drops (← arguments.withValue drops flag value) rest
      | none, _ => .error (.valueMissing flag)
    else do
      let flags ← flagsOf flag short value
      let arguments := flags.foldl withFlag arguments
      if arguments.help then return arguments else readFrom drops arguments rest

/-- The arguments of a command line. -/
def read (drops : Bool) (line : List Text) : Except UsageError Arguments := do
  let arguments ← readFrom drops {} (← items line)
  if arguments.help then return arguments
  else if arguments.path.isNone then throw .pathMissing
  else if arguments.extra ≠ [] then throw (.unrecognized arguments.extra)
  else return arguments

end Arguments

end CommandLine

end Counterpart
