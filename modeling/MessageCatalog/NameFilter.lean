import MessageCatalog.Failure

/-! # Filters on names

Which files and directories below a root are looked at, by their names alone.
-/

namespace MessageCatalog

/-- Globs for names: files must match one of `includes`, unless there is none, and nothing may match
what is ignored. -/
structure NameFilter where
  includes : List Glob
  ignores : List Glob
  ignoreDirs : List Glob
  deriving Repr, DecidableEq

namespace NameFilter

/-- File names that are ignored if nothing else is said. -/
def defaultIgnores : List String := [".*", "*.png", "*.jpg", "*.gif", "*.zip", "*.gz"]

/-- Directory names that are ignored if nothing else is said. -/
def defaultIgnoreDirs : List String := [".*", "node_modules", "coverage"]

/-- Read all globs of a list. The first one with a fault is reported. -/
def parseAll (field : FilterField) : List String → Except SettingsFault (List Glob)
  | [] => .ok []
  | text :: texts =>
    match Glob.parse text with
    | .error e => .error (.glob field text e)
    | .ok glob =>
      match parseAll field texts with
      | .error e => .error e
      | .ok globs => .ok (glob :: globs)

def make (includes ignores ignoreDirs : List String) : Except SettingsFault NameFilter := do
  let includes ← parseAll .includes includes
  let ignores ← parseAll .ignores ignores
  let ignoreDirs ← parseAll .ignoreDirs ignoreDirs
  return ⟨includes, ignores, ignoreDirs⟩

/-- The globs of a list that have no fault. -/
def parseValid (texts : List String) : List Glob :=
  texts.filterMap fun text =>
    match Glob.parse text with
    | .ok glob => some glob
    | .error _ => none

/-- The filter that holds if nothing else is said. -/
def default : NameFilter := ⟨[], parseValid defaultIgnores, parseValid defaultIgnoreDirs⟩

/-- Whether a file of this name is looked at. -/
def acceptsFile (f : NameFilter) (name : String) : Bool :=
  (f.includes.isEmpty || f.includes.any (·.accepts name)) && !f.ignores.any (·.accepts name)

def acceptsDir (f : NameFilter) (name : String) : Bool := !f.ignoreDirs.any (·.accepts name)

end NameFilter

end MessageCatalog
