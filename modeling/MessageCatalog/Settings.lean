import MessageCatalog.Matcher
import MessageCatalog.NameFilter
import MessageCatalog.Path

/-! # Settings

What can be set for an extraction, and the rules that settings stand for. Settings are texts and
numbers as a user writes them; rules hold compiled patterns and globs and the directory that
locations are shown relative to.
-/

namespace MessageCatalog

/-- Settings as written. -/
structure Settings where
  functionName : String
  /-- A search pattern in place of the function's calls. -/
  pattern : Option String
  /-- The group of the pattern that holds the literal. -/
  captureIndex : Nat
  includes : List String
  ignores : List String
  ignoreDirs : List String
  deriving Repr, DecidableEq

/-- What guides an extraction. -/
structure Rules where
  matcher : Matcher
  filter : NameFilter
  /-- The directory that locations are relative to. -/
  base : String
  deriving Repr

namespace Settings

/-- The settings that hold if nothing is said. -/
def default : Settings where
  functionName := Matcher.defaultFunction
  pattern := none
  captureIndex := Matcher.defaultGroup
  includes := []
  ignores := NameFilter.defaultIgnores
  ignoreDirs := NameFilter.defaultIgnoreDirs

/-- The rules for settings. A fault of the pattern is reported before one of a glob. -/
def rules (s : Settings) (base : String) : Except SettingsFault Rules := do
  let matcher ← Matcher.make s.functionName s.pattern s.captureIndex
  let filter ← NameFilter.make s.includes s.ignores s.ignoreDirs
  return ⟨matcher, filter, base⟩

def fault? (s : Settings) : Option SettingsFault :=
  match s.rules "" with
  | .ok _ => none
  | .error e => some e

end Settings

namespace Rules

/-- The rules that hold if nothing is said. -/
def default (base : String) : Rules := ⟨.call Matcher.defaultFunction, NameFilter.default, base⟩

/-- How the locations of a file are shown. -/
def displayPath (r : Rules) (path : String) : String := Path.relative r.base path

end Rules

end MessageCatalog
