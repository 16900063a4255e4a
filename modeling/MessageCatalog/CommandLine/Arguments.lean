import MessageCatalog.CommandLine.Help

/-! # Arguments

What the words of a command line ask for. Words are taken from left to right; the values of an
option are looked at once the next option begins, so that of two faults the one that is certain
first is reported.
-/

namespace MessageCatalog.CommandLine

/-- Why a command line is refused. -/
inductive Refusal where
  | unknownArgument
  /-- A value is missing, or empty where it must not be. -/
  | invalidValue
  /-- A value is no number. -/
  | valueValidation
  /-- An option that takes one value came twice. -/
  | argumentConflict
  /-- An option came without the one it belongs to. -/
  | missingRequiredArgument
  | invalidSubcommand
  /-- A value was given to an option that takes none. -/
  | tooManyValues
  deriving Repr, DecidableEq

/-- The report on a command line that is refused. -/
def Refusal.report : Refusal → String
  | .unknownArgument => "unexpected argument found"
  | .invalidValue => "a value is required but none was supplied"
  | .valueValidation => "invalid value: not a number"
  | .argumentConflict => "an argument cannot be used multiple times"
  | .missingRequiredArgument => "the following required arguments were not provided: --pattern <PATTERN>"
  | .invalidSubcommand => "unrecognized subcommand"
  | .tooManyValues => "unexpected value found"

/-- What to extract, and how. -/
structure ExtractCommand where
  paths : List String := []
  function : Option String := none
  pattern : Option String := none
  captureIndex : Option Nat := none
  includes : List String := []
  ignores : List String := []
  ignoreDirs : List String := []
  output : Option String := none
  verbose : Bool := false
  deriving Repr, DecidableEq

inductive Command where
  | extract (command : ExtractCommand)
  | init
  deriving Repr, DecidableEq

/-- What a command line asks for, if it is not refused. -/
inductive Request where
  /-- Run a command. Without one, the program tells about itself. -/
  | run (command : Option Command)
  /-- Show help, which is written for terminals. -/
  | help (text : String)
  | version
  deriving Repr, DecidableEq

/-- Options that take a value. -/
inductive ValueOption where
  | function
  | pattern
  | captureIndex
  | includes
  | ignores
  | ignoreDirs
  | output
  deriving Repr, DecidableEq

/-- What an option's name stands for. -/
inductive Switch where
  | value (option : ValueOption)
  | verbose
  | help
  deriving Repr, DecidableEq

def Switch.ofLong? : String → Option Switch
  | "function" => some (.value .function)
  | "pattern" => some (.value .pattern)
  | "capture-index" => some (.value .captureIndex)
  | "include" => some (.value .includes)
  | "ignore" => some (.value .ignores)
  | "ignore-dir" => some (.value .ignoreDirs)
  | "output" => some (.value .output)
  | "verbose" => some .verbose
  | "help" => some .help
  | _ => none

def Switch.ofShort? : Char → Option Switch
  | 'f' => some (.value .function)
  | 'o' => some (.value .output)
  | 'v' => some .verbose
  | 'h' => some .help
  | _ => none

/-- How a word begins. -/
inductive Word where
  /-- Two hyphens alone: no options follow. -/
  | separator
  /-- A long name, perhaps with a value behind an equals sign. -/
  | long (name : String) (attached : Option String)
  /-- One or more letters behind a hyphen. -/
  | letters (letters : List Char)
  | plain
  deriving Repr, DecidableEq

/-- Split at the first equals sign. -/
def splitValue (chars : List Char) : List Char × Option (List Char) :=
  let name := chars.takeWhile (· ≠ '=')
  match chars.drop name.length with
  | [] => (name, none)
  | _ :: value => (name, some value)

def Word.of (word : String) : Word :=
  match word.toList with
  | ['-', '-'] => .separator
  | '-' :: '-' :: chars =>
    let (name, value) := splitValue chars
    .long (String.ofList name) (value.map String.ofList)
  | '-' :: first :: more => .letters (first :: more)
  | _ => .plain

/-- Words that have been taken but not looked at. -/
inductive Pending where
  | nothing
  | option (option : ValueOption) (value : Option String)
  | paths (paths : List String)
  deriving Repr, DecidableEq

/-- The largest number that an option takes. -/
def maxIndex : Nat := UInt64.size - 1

/-- The number of a word: digits, perhaps behind a plus sign. -/
def readIndex? (word : String) : Option Nat :=
  let digits :=
    match word.toList with
    | '+' :: digits => digits
    | digits => digits
  if digits.isEmpty || !digits.all Char.isDigit then none
  else
    let n := digits.foldl (fun n c => 10 * n + (c.toNat - '0'.toNat)) 0
    if n ≤ maxIndex then some n else none

namespace ExtractCommand

def set (c : ExtractCommand) (value : String) : ValueOption → Except Refusal ExtractCommand
  | .function =>
    if c.function.isSome then .error .argumentConflict else .ok { c with function := some value }
  | .pattern =>
    if c.pattern.isSome then .error .argumentConflict else .ok { c with pattern := some value }
  | .captureIndex =>
    if c.captureIndex.isSome then .error .argumentConflict
    else
      match readIndex? value with
      | some n => .ok { c with captureIndex := some n }
      | none => .error .valueValidation
  | .includes => .ok { c with includes := c.includes ++ [value] }
  | .ignores => .ok { c with ignores := c.ignores ++ [value] }
  | .ignoreDirs => .ok { c with ignoreDirs := c.ignoreDirs ++ [value] }
  | .output =>
    if c.output.isSome then .error .argumentConflict
    else if value.isEmpty then .error .invalidValue
    else .ok { c with output := some value }

/-- Look at words that were taken. -/
def settle (c : ExtractCommand) : Pending → Except Refusal ExtractCommand
  | .nothing => .ok c
  | .option _ none => .error .invalidValue
  | .option option (some value) => c.set value option
  | .paths paths =>
    if paths.any String.isEmpty then .error .invalidValue
    else .ok { c with paths := c.paths ++ paths }

/-- Turn verbose reports on, which can be asked for once. -/
def setVerbose (c : ExtractCommand) : Except Refusal ExtractCommand :=
  if c.verbose then .error .argumentConflict else .ok { c with verbose := true }

/-- Take the letters of a word. The first one that takes a value takes the rest of the word, if
there is any, but for an equals sign at its start. Gives nothing back if help is asked for. -/
def takeLetters (c : ExtractCommand) (pending : Pending) :
    List Char → Except Refusal (Option (ExtractCommand × Pending))
  | [] => .ok (some (c, pending))
  | letter :: letters =>
    match Switch.ofShort? letter with
    | none => .error .unknownArgument
    | some .help => do
      let _ ← c.settle pending
      return none
    | some .verbose => do
      let c ← c.settle pending
      let c ← c.setVerbose
      c.takeLetters .nothing letters
    | some (.value option) => do
      let c ← c.settle pending
      match letters with
      | [] => return some (c, .option option none)
      | '=' :: value => return some (← c.set (String.ofList value) option, .nothing)
      | value => return some (← c.set (String.ofList value) option, .nothing)

/-- Take a word that is no option. -/
def takePlain (c : ExtractCommand) (pending : Pending) (word : String) :
    Except Refusal (ExtractCommand × Pending) :=
  match pending with
  | .paths paths => .ok (c, .paths (paths ++ [word]))
  | pending => do return (← c.settle pending, .paths [word])

def takeAllPlain (c : ExtractCommand) (pending : Pending) :
    List String → Except Refusal ExtractCommand
  | [] => c.settle pending
  | word :: words => do
    let (c, pending) ← c.takePlain pending word
    c.takeAllPlain pending words

/-- Take words. Gives nothing back if help is asked for. -/
def takeWords (c : ExtractCommand) (pending : Pending) :
    List String → Except Refusal (Option ExtractCommand)
  | [] => do return some (← c.settle pending)
  | word :: words =>
    match Word.of word with
    | .separator => do return some (← c.takeAllPlain pending words)
    | .long name attached =>
      match Switch.ofLong? name, attached with
      | none, _ => .error .unknownArgument
      | some (.value option), some value => do
        let c ← c.settle pending
        let c ← c.set value option
        c.takeWords .nothing words
      | some (.value option), none => do
        let c ← c.settle pending
        c.takeWords (.option option none) words
      | some _, some _ => .error .tooManyValues
      | some .help, none => do
        let _ ← c.settle pending
        return none
      | some .verbose, none => do
        let c ← c.settle pending
        let c ← c.setVerbose
        c.takeWords .nothing words
    | .letters letters => do
      match ← c.takeLetters pending letters with
      | none => return none
      | some (c, pending) => c.takeWords pending words
    | .plain =>
      match pending with
      | .option option none => c.takeWords (.option option (some word)) words
      | pending => do
        let (c, pending) ← c.takePlain pending word
        c.takeWords pending words

/-- The root if none is given. -/
def defaultPath : String := "."

/-- Fill in what was not given, from the environment or by default. -/
def complete (c : ExtractCommand) (variableValue : Option String) : ExtractCommand :=
  { c with
    function := c.function <|> variableValue
    paths := if c.paths.isEmpty then [defaultPath] else c.paths }

def parse (variableValue : Option String) (words : List String) : Except Refusal Request := do
  match ← ({} : ExtractCommand).takeWords .nothing words with
  | none => return .help (extractHelp variableValue)
  | some c =>
    if c.captureIndex.isSome ∧ c.pattern.isNone then throw .missingRequiredArgument
    return .run (some (.extract (c.complete variableValue)))

end ExtractCommand

/-- The words behind the name of the command that makes a file with settings. -/
def parseInit : List String → Except Refusal Request
  | [] => .ok (.run (some .init))
  | word :: words =>
    match Word.of word with
    | .separator => if words.isEmpty then .ok (.run (some .init)) else .error .unknownArgument
    | .long "help" none => .ok (.help initHelp)
    | .long "help" (some _) => .error .tooManyValues
    | .letters ('h' :: _) => .ok (.help initHelp)
    | _ => .error .unknownArgument

/-- The words behind the name of the command that helps: a command to help with, if any. -/
def parseHelp (variableValue : Option String) : List String → Except Refusal Request
  | [] => .ok (.help mainHelp)
  | ["extract"] => .ok (.help (extractHelp variableValue))
  | ["init"] => .ok (.help initHelp)
  | ["help"] => .ok (.help helpHelp)
  | _ => .error .invalidSubcommand

/-- What a command line asks for, given the value of the variable for the function's name. -/
def parse (variableValue : Option String) : List String → Except Refusal Request
  | [] => .ok (.run none)
  | "extract" :: words => ExtractCommand.parse variableValue words
  | "init" :: words => parseInit words
  | "help" :: words => parseHelp variableValue words
  | word :: words =>
    match Word.of word with
    | .separator =>
      match words with
      | [] => .ok (.run none)
      | next :: _ =>
        if next ∈ ["extract", "init", "help"] then .error .unknownArgument
        else .error .invalidSubcommand
    | .long "help" none => .ok (.help mainHelp)
    | .long "help" (some _) => .error .tooManyValues
    | .long "version" none => .ok .version
    | .long "version" (some _) => .error .tooManyValues
    | .letters ('h' :: _) => .ok (.help mainHelp)
    | .letters ('V' :: _) => .ok .version
    | .long _ _ => .error .unknownArgument
    | .letters _ => .error .unknownArgument
    | .plain => .error .invalidSubcommand

end MessageCatalog.CommandLine
