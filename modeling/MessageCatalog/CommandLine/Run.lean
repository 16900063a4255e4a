import MessageCatalog.CommandLine.Arguments
import MessageCatalog.CommandLine.Report
import MessageCatalog.Settings.Discovery

/-! # Running commands

What a command does to the files and to the two streams of the program.
-/

namespace MessageCatalog.CommandLine

/-- The files and streams that a command works on. -/
structure Surroundings where
  files : FileTree
  /-- The places of the files that were opened for writing. -/
  written : List Place
  output : List UInt8
  errors : String
  deriving Repr

namespace Surroundings

/-- Some files, and streams without a byte. -/
def ofFiles (files : FileTree) : Surroundings := ⟨files, [], [], ""⟩

/-- Take over files in which one was opened for writing. -/
def opened (s : Surroundings) (files : FileTree) (place : Place) : Surroundings :=
  { s with files := files, written := s.written ++ [place] }

def print (s : Surroundings) (text : String) : Surroundings :=
  { s with output := s.output ++ Utf8.bytes text }

/-- Write a text to the stream of reports. -/
def printError (s : Surroundings) (text : String) : Surroundings :=
  { s with errors := s.errors ++ text }

def outputSink : Sink Surroundings where
  write s bytes := (.ok bytes.length, { s with output := s.output ++ bytes })
  flush s := (.ok (), s)

/-- What stands at a place as a sink. A device without room tells so only when it is flushed. -/
def fileSink (place : Place) : Sink Surroundings where
  write s bytes := (.ok bytes.length, { s with files := s.files.append place bytes })
  flush s :=
    match s.files.at? place with
    | some .full => (.error (.os .noSpace), s)
    | _ => (.ok (), s)

end Surroundings

/-- How the program shows what it says. -/
structure Presentation where
  colouredReports : Bool
  styledHelp : Bool
  deriving Repr, DecidableEq

/-- The presentation that variables of the environment ask for. -/
def Presentation.ofVariables (force never usual : Option String) (terminal : Bool) :
    Presentation :=
  ⟨colours force never usual terminal, showsStyles force never usual terminal⟩

inductive CommandFailure where
  | settings (e : Settings.LoadFailure)
  | output (path : String) (e : OsError)
  | extraction (e : Failure)
  | init (e : Settings.InitFailure)
  deriving Repr, DecidableEq

def CommandFailure.report : CommandFailure → String
  | .settings e => e.report
  | .output path e => s!"Failed to create output file: {path}: {e.message}"
  | .extraction e => e.report
  | .init e => e.report

/-- How a command ends that does not fail. -/
inductive Status where
  | success
  /-- The command declined to act. -/
  | failure
  deriving Repr, DecidableEq

/-- The exit code of a program that ends so. -/
def Status.code : Status → Nat
  | .success => 0
  | .failure => 1

/-- The exit code of a program whose command fails, or whose command line is refused. -/
def failedCode : Nat := 2

/-- Settings changed by a command line: its lists replace those of the settings, and a function
takes the place of the pattern. -/
def ExtractCommand.override (c : ExtractCommand) (s : Settings) : Settings where
  functionName := c.function.getD s.functionName
  pattern :=
    match c.pattern with
    | some pattern => some pattern
    | none => if c.function.isSome then none else s.pattern
  captureIndex := c.captureIndex.getD s.captureIndex
  includes := if c.includes.isEmpty then s.includes else c.includes
  ignores := if c.ignores.isEmpty then s.ignores else c.ignores
  ignoreDirs := if c.ignoreDirs.isEmpty then s.ignoreDirs else c.ignoreDirs

/-- Extract into a sink, with a buffer between. -/
def extractInto (sink : Sink Surroundings) (coloured : Bool) (cwd : String) (rules : Rules)
    (c : ExtractCommand) (s : Surroundings) : Except CommandFailure Unit × Surroundings :=
  let writer := CatalogWriter.new (Buffered.sink sink) ⟨s, []⟩
  let traverse (b : Buffered Surroundings) (path : String) : Traversal :=
    Traversal.ofRoot rules b.inner.files cwd path
  let (result, writer) := Extraction.run traverse writer c.paths
  let s := writer.state.inner
  match result with
  | .error e => (.error (.extraction e), s)
  | .ok summary =>
    if c.verbose then
      let s := if summary.files = 0 then s.printError (noFilesLine coloured) else s
      (.ok (), s.printError (extractedLine coloured summary))
    else (.ok (), s)

/-- Run the command that extracts, in the directory `cwd`. -/
def extract (coloured : Bool) (cwd : String) (c : ExtractCommand) (s : Surroundings) :
    Except CommandFailure Unit × Surroundings :=
  match Settings.load s.files cwd cwd with
  | .error e => (.error (.settings e), s)
  | .ok loaded =>
    let s := if c.verbose then s.printError (sourceLine coloured loaded.fromFile) else s
    match (c.override loaded.settings).rules cwd with
    | .error e => (.error (.extraction (.settings e)), s)
    | .ok rules =>
      match c.output with
      | none => extractInto Surroundings.outputSink coloured cwd rules c s
      | some path =>
        match s.files.createFile cwd path with
        | .error e => (.error (.output path e), s)
        | .ok (files, place) =>
          extractInto (Surroundings.fileSink place) coloured cwd rules c (s.opened files place)

/-- Run the command that makes a file with settings, in the directory `cwd`. -/
def init (coloured : Bool) (cwd : String) (s : Surroundings) :
    Except CommandFailure Status × Surroundings :=
  match Settings.init s.files cwd "." with
  | .error e => (.error (.init e), s)
  | .ok none => (.ok .failure, s.printError (existsLine coloured))
  | .ok (some (files, place)) =>
    (.ok .success, (s.opened files place).print (createdLine coloured))

/-- Run a command in the directory `cwd`. Without one, the program tells about itself. -/
def run (shown : Presentation) (cwd : String) (command : Option Command) (s : Surroundings) :
    Except CommandFailure Status × Surroundings :=
  match command with
  | none => (.ok .success, s.print (streamed shown.styledHelp mainHelp))
  | some .init => init shown.colouredReports cwd s
  | some (.extract c) =>
    match extract shown.colouredReports cwd c s with
    | (.error e, s) => (.error e, s)
    | (.ok (), s) => (.ok .success, s)

def failedLine (e : CommandFailure) : String := "Error: " ++ e.report ++ "\n"

end MessageCatalog.CommandLine
