import MessageCatalog.Extraction
import MessageCatalog.Settings.Text

/-! # Reports

Lines that tell a user what a command did. They can be coloured for terminals.
-/

namespace MessageCatalog.CommandLine

/-- Colours of reports. All but green come in bold. -/
inductive Paint where
  | green
  | boldRed
  | boldYellow
  | boldCyan
  deriving Repr, DecidableEq

/-- The number that turns a colour on. -/
def Paint.code : Paint → String
  | .green => "32"
  | .boldRed => "1;31"
  | .boldYellow => "1;33"
  | .boldCyan => "1;36"

def Paint.apply (paint : Paint) (coloured : Bool) (text : String) : String :=
  if coloured then "\x1b[" ++ paint.code ++ "m" ++ text ++ "\x1b[0m" else text

/-- Whether reports are coloured: `force` and `never` are the values of variables that settle it if
they are set, `usual` is one that can turn colours off for terminals. A value of `0` means no. -/
def colours (force never usual : Option String) (terminal : Bool) : Bool :=
  if force.any (· ≠ "0") then true
  else if never.isSome then false
  else usual.all (· ≠ "0") && terminal

def successMark : String := "✓"

def successLine (coloured : Bool) (text : String) : String :=
  Paint.green.apply coloured successMark ++ " " ++ Paint.green.apply coloured text ++ "\n"

def countText (n : Nat) (one many : String) : String :=
  toString n ++ " " ++ if n = 1 then one else many

def extractedLine (coloured : Bool) (s : Summary) : String :=
  successLine coloured ("Extracted " ++ countText s.entries "message" "messages" ++ " from " ++
    countText s.files "file" "files")

def createdLine (coloured : Bool) : String :=
  successLine coloured ("Created " ++ Settings.fileName)

/-- The line on a file with settings that is there already. -/
def existsLine (coloured : Bool) : String :=
  Paint.boldRed.apply coloured "error:" ++ " " ++ Settings.fileName ++ " already exists\n"

/-- The line on where settings come from. -/
def sourceLine (coloured : Bool) (fromFile : Bool) : String :=
  Paint.boldCyan.apply coloured "note:" ++ " " ++
    (if fromFile then "using " ++ Settings.fileName
      else "no " ++ Settings.fileName ++ " found, using defaults") ++ "\n"

def noFilesLine (coloured : Bool) : String :=
  Paint.boldYellow.apply coloured "warning:" ++ " No eligible files found\n"

end MessageCatalog.CommandLine
