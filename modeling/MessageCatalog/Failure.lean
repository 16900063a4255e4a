import MessageCatalog.Glob
import MessageCatalog.Pattern
import MessageCatalog.Text.Utf8

/-! # Failures

Everything that can stop an extraction, as causes, and the sentences that report them. A report is
one sentence about what was attempted, then its causes.
-/

namespace MessageCatalog

/-- Refusals of the file system. -/
inductive OsError where
  | notFound
  | notADirectory
  | isADirectory
  | nameTooLong
  | tooManyLinks
  | noSpace
  /-- No name of a file holds the character U+0000. -/
  | nulInName
  deriving Repr, DecidableEq

/-- The report on a refusal. -/
def OsError.message : OsError → String
  | .notFound => "No such file or directory (os error 2)"
  | .notADirectory => "Not a directory (os error 20)"
  | .isADirectory => "Is a directory (os error 21)"
  | .nameTooLong => "File name too long (os error 36)"
  | .tooManyLinks => "Too many levels of symbolic links (os error 40)"
  | .noSpace => "No space left on device (os error 28)"
  | .nulInName => "file name contained an unexpected NUL byte"

/-- What an input or output operation failed from. -/
inductive Cause where
  | os (e : OsError)
  /-- A line of a source file is not UTF-8. -/
  | line (e : Utf8.Invalid)
  /-- A file that must be read as a whole is not UTF-8. -/
  | notUtf8
  /-- Visiting an entry of a directory failed. -/
  | entry (path : String) (e : OsError)
  /-- A link leads back to a directory that contains it. -/
  | loop (path ancestor : String)
  /-- A sink takes no bytes any more. -/
  | writeZero
  /-- Any other cause, in its own words. -/
  | other (text : String)
  deriving Repr, DecidableEq

/-- The sentences of a cause, the outermost first. -/
def Cause.sentences : Cause → List String
  | .os e => [e.message]
  | .line e => [e.message]
  | .notUtf8 => ["stream did not contain valid UTF-8"]
  | .entry path e => [s!"IO error for operation on {path}: {e.message}", e.message]
  | .loop path ancestor => [s!"File system loop found: {path} points to an ancestor {ancestor}"]
  | .writeZero => ["write zero"]
  | .other text => [text]

/-- The names of the three lists of globs in the settings. -/
inductive FilterField where
  | includes
  | ignores
  | ignoreDirs
  deriving Repr, DecidableEq

def FilterField.name : FilterField → String
  | .includes => "includes"
  | .ignores => "ignores"
  | .ignoreDirs => "ignoreDirs"

/-- Why settings cannot be used. -/
inductive SettingsFault where
  | pattern (text : String) (e : Pattern.CompileError)
  /-- The pattern has only `groups` groups. -/
  | captureIndex (index : Nat) (text : String) (groups : Nat)
  | glob (field : FilterField) (text : String) (e : Glob.Fault)
  /-- Any other reason, in its own words. -/
  | other (text : String)
  deriving Repr, DecidableEq

/-- The report on settings that cannot be used. -/
def SettingsFault.message : SettingsFault → String
  | .pattern text e => s!"invalid pattern \"{text}\": {e.message text}"
  | .captureIndex index text groups =>
    s!"capture index {index} out of range, pattern \"{text}\" has {groups} group(s)"
  | .glob field text e => s!"invalid glob pattern in '{field.name}': \"{text}\" ({e.message})"
  | .other text => text

/-- What stops an extraction. -/
inductive Failure where
  /-- A root does not exist or cannot be examined. -/
  | stat (path : String) (cause : Cause)
  /-- A file cannot be opened, or reading it fails part-way. -/
  | read (path : String) (cause : Cause)
  /-- A directory cannot be listed. -/
  | listing (path : String) (cause : Cause)
  /-- Extraction was called off. -/
  | cancelled (path : String)
  /-- The catalog cannot be written. -/
  | output (cause : Cause)
  /-- The settings cannot be used. -/
  | settings (fault : SettingsFault)
  deriving Repr, DecidableEq

namespace Failure

/-- What was attempted. -/
def display : Failure → String
  | .stat path _ => s!"Cannot access {path}"
  | .read path _ => s!"Cannot read {path}"
  | .listing path _ => s!"Cannot list {path}"
  | .cancelled path => s!"Extraction of {path} was cancelled"
  | .output _ => "Cannot write catalog"
  | .settings fault => s!"Invalid configuration: {fault.message}"

def cause? : Failure → Option Cause
  | .stat _ cause => some cause
  | .read _ cause => some cause
  | .listing _ cause => some cause
  | .cancelled _ => none
  | .output cause => some cause
  | .settings _ => none

/-- The full report: what was attempted and all causes. -/
def report (f : Failure) : String :=
  ": ".intercalate (f.display :: (f.cause?.map Cause.sentences).getD [])

end Failure

end MessageCatalog
