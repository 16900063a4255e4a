import MessageCatalog.Text.ControlSequence

/-! # Help texts

What the program says about itself and its commands. Help is written for terminals, with control
sequences around headings and around words to be typed as they are; elsewhere it is shown without
them.
-/

namespace MessageCatalog.CommandLine

/-- The variable of the environment that names the function, unless an option does. -/
def functionVariable : String := "GLOT_EXTRACT_FUNCTION"

def versionText : String := "glot-extract 0.1.0
"

namespace Help

def bold : String := "\x1b[1m"

def underlined : String := "\x1b[4m"

/-- Usual type from here on. -/
def usual : String := "\x1b[0m"

def heading (text : String) : String := bold ++ underlined ++ text ++ usual

def literal (text : String) : String := bold ++ text ++ usual

/-- An entry of a list: the name of something, how the name is written, and what is said about
it. -/
structure Entry where
  name : String
  written : String
  description : String
  deriving Repr

def Entry.command (name description : String) : Entry := ⟨name, literal name, description⟩

def Entry.argument (name description : String) : Entry := ⟨name, name, description⟩

/-- An entry on an option with a long name, perhaps with a letter and a value. -/
def Entry.option (letter : Option Char) (word value description : String) : Entry :=
  let word := "--" ++ word
  let value := if value.isEmpty then "" else " <" ++ value ++ ">"
  match letter with
  | some c =>
    let short := "-" ++ c.toString
    ⟨short ++ ", " ++ word ++ value, literal short ++ ", " ++ literal word ++ value, description⟩
  | none => ⟨"    " ++ word ++ value, "    " ++ literal word ++ value, description⟩

def blanks (n : Nat) : String := String.ofList (List.replicate n ' ')

/-- The column at which the descriptions of a list begin. -/
def column (entries : List Entry) : Nat :=
  4 + (entries.map fun entry => entry.name.length).foldl max 0

def list (title : String) (entries : List Entry) : String :=
  let column := column entries
  let line (entry : Entry) : String :=
    "  " ++ entry.written ++ blanks (column - 2 - entry.name.length) ++
      entry.description.replace "\n" ("\n" ++ blanks column) ++ "\n"
  "\n" ++ heading title ++ "\n" ++ String.join (entries.map line)

/-- Help that begins with what is done and how that is asked for. -/
def text (purpose words arguments : String) (lists : List String) : String :=
  purpose ++ "\n\n" ++ heading "Usage:" ++ " " ++ literal words ++ arguments ++ "\n" ++
    String.join lists

def helpOption : Entry := .option (some 'h') "help" "" "Print help"

end Help

open Help

def mainHelp : String :=
  text "A fast CLI tool for extracting translatable strings into gettext catalogs"
    "glot-extract" " [COMMAND]" [
    list "Commands:" [
      .command "extract" "Extract translatable strings into a gettext catalog template",
      .command "init" "Initialize a new .glotextractrc.json configuration file",
      .command "help" "Print this message or the help of the given subcommand(s)"],
    list "Options:" [
      helpOption,
      .option (some 'V') "version" "" "Print version"]]

/-- Help on extracting, which shows the value of the variable for the function's name. -/
def extractHelp (variableValue : Option String) : String :=
  text "Extract translatable strings into a gettext catalog template"
    "glot-extract extract" " [OPTIONS] [PATHS]..." [
    list "Arguments:" [
      .argument "[PATHS]..." "Files or directories to extract from [default: .]"],
    list "Options:" [
      .option (some 'f') "function" "FUNCTION"
        ("Translation function name (overrides config file) [env: " ++ functionVariable ++ "=" ++
          variableValue.getD "" ++ "]"),
      .option none "pattern" "PATTERN"
        "Custom regular expression used instead of the function call matcher",
      .option none "capture-index" "CAPTURE_INDEX"
        "Capture group of --pattern that holds the literal",
      .option none "include" "INCLUDES"
        "Only extract files whose name matches this glob (repeatable)",
      .option none "ignore" "IGNORES"
        "Skip files whose name matches this glob, replacing the defaults (repeatable)",
      .option none "ignore-dir" "IGNORE_DIRS"
        "Skip directories whose name matches this glob, replacing the defaults (repeatable)",
      .option (some 'o') "output" "OUTPUT" "Write the catalog to a file instead of stdout",
      .option (some 'v') "verbose" "" "Enable verbose output",
      helpOption]]

def initHelp : String :=
  text "Initialize a new .glotextractrc.json configuration file" "glot-extract init" "" [
    list "Options:" [helpOption]]

def helpHelp : String :=
  text "Print this message or the help of the given subcommand(s)"
    "glot-extract help" " [COMMAND]..." [
    list "Arguments:" [
      .argument "[COMMAND]..." "Print help for the subcommand(s)"]]

/-- Whether help is shown with its control sequences: `never` and `force` are the values of variables
that settle it unless they are empty, `usual` is one that can turn them off for terminals. -/
def showsStyles (force never usual : Option String) (terminal : Bool) : Bool :=
  if never.any (!·.isEmpty) then false
  else if force.any (!·.isEmpty) then true
  else usual.all (· ≠ "0") && terminal

/-- Help as it goes to a stream, with or without its control sequences. -/
def streamed (styled : Bool) (help : String) : String :=
  if styled then help else ControlSequence.strip true help

end MessageCatalog.CommandLine
