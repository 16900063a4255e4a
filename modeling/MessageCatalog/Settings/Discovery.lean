import MessageCatalog.FileTree.Edit
import MessageCatalog.Settings.Text

/-! # Finding settings

A file with settings holds for its directory and all below, up to a directory that is the root of a
repository. Settings are taken from the nearest such file, and are the default ones if there is
none.
-/

namespace MessageCatalog.Settings

/-- The name of the entry that marks the root of a repository. -/
def repositoryMark : String := ".git"

/-- The nearest file with settings, from the directory `start` upwards. A repository's root is
the last directory that is looked at. -/
def findFile (t : FileTree) (cwd start : String) : Option String :=
  let candidate := Path.join start fileName
  if t.pathExists cwd candidate then some candidate
  else if t.pathExists cwd (Path.join start repositoryMark) then none
  else
    match _h : Path.parent? start with
    | some parent => findFile t cwd parent
    | none => none
termination_by start.length
decreasing_by exact Path.length_parent?_lt _h

inductive LoadFailure where
  | unreadable (path : String) (cause : Cause)
  | unparsable (path : String) (e : Json.Error)
  | unusable (fault : SettingsFault)
  deriving Repr, DecidableEq

def LoadFailure.report : LoadFailure → String
  | .unreadable path cause =>
    ": ".intercalate (s!"Failed to read config file: {Quoted.text path}" :: cause.sentences)
  | .unparsable path e => s!"Failed to parse config file: {Quoted.text path}: {e.message}"
  | .unusable fault => (Failure.settings fault).report

/-- Settings, and whether they come from a file. -/
structure Loaded where
  settings : Settings
  fromFile : Bool
  deriving Repr, DecidableEq

def loadFile (t : FileTree) (cwd path : String) : Except LoadFailure Settings :=
  match t.bytesOf cwd path with
  | .error e => .error (.unreadable path (.os e))
  | .ok content =>
    match Utf8.decode content with
    | .error _ => .error (.unreadable path .notUtf8)
    | .ok cs =>
      match parse (String.ofList cs) with
      | .error e => .error (.unparsable path e)
      | .ok settings =>
        match settings.fault? with
        | some fault => .error (.unusable fault)
        | none => .ok settings

/-- Load the settings that hold for the directory `start`. -/
def load (t : FileTree) (cwd start : String) : Except LoadFailure Loaded :=
  match findFile t cwd start with
  | none => .ok ⟨default, false⟩
  | some path =>
    match loadFile t cwd path with
    | .error e => .error e
    | .ok settings => .ok ⟨settings, true⟩

structure InitFailure where
  path : String
  cause : OsError
  deriving Repr, DecidableEq

def InitFailure.report (e : InitFailure) : String := s!"Failed to write {e.path}: {e.cause.message}"

/-- Make a file with the default settings in a directory. Gives the files as they are then and the
place of the new one, or nothing if the directory has such a file already. -/
def init (t : FileTree) (cwd directory : String) :
    Except InitFailure (Option (FileTree × Place)) :=
  let path := Path.join directory fileName
  if t.pathExists cwd path then .ok none
  else
    match t.createFile cwd path with
    | .error e => .error ⟨path, e⟩
    | .ok (t, place) => .ok (some (t.append place (Utf8.bytes defaultText), place))

end MessageCatalog.Settings
