import MessageCatalog.Json.Printer
import MessageCatalog.Json.Reader
import MessageCatalog.Settings

/-! # Settings as text

Settings are kept as a JSON object with a key for each of them. `Settings.print` writes all of
them, `Settings.parse` reads what is there and takes the default for the rest. A list in place of
an object gives the values in the order of the keys.
-/

namespace MessageCatalog.Settings

/-- The keys of settings, in the order of a list of values. -/
inductive Key where
  | functionName
  | pattern
  | captureIndex
  | includes
  | ignores
  | ignoreDirs
  deriving Repr, DecidableEq

namespace Key

def name : Key → String
  | .functionName => "functionName"
  | .pattern => "pattern"
  | .captureIndex => "captureIndex"
  | .includes => "includes"
  | .ignores => "ignores"
  | .ignoreDirs => "ignoreDirs"

def all : List Key := [.functionName, .pattern, .captureIndex, .includes, .ignores, .ignoreDirs]

def ofName? (name : String) : Option Key := all.find? (·.name = name)

end Key

/-- The values that have been read so far. -/
structure Draft where
  functionName : Option String := none
  pattern : Option (Option String) := none
  captureIndex : Option Nat := none
  includes : Option (List String) := none
  ignores : Option (List String) := none
  ignoreDirs : Option (List String) := none
  deriving Repr, DecidableEq

namespace Draft

def has (d : Draft) : Key → Bool
  | .functionName => d.functionName.isSome
  | .pattern => d.pattern.isSome
  | .captureIndex => d.captureIndex.isSome
  | .includes => d.includes.isSome
  | .ignores => d.ignores.isSome
  | .ignoreDirs => d.ignoreDirs.isSome

def readValue (d : Draft) : Key → Json.Reading Draft
  | .functionName => do return { d with functionName := some (← Json.readString) }
  | .pattern => do return { d with pattern := some (← Json.readOptional) }
  | .captureIndex => do return { d with captureIndex := some (← Json.readCount) }
  | .includes => do return { d with includes := some (← Json.readStrings) }
  | .ignores => do return { d with ignores := some (← Json.readStrings) }
  | .ignoreDirs => do return { d with ignoreDirs := some (← Json.readStrings) }

/-- The settings of a draft, with defaults for what it lacks. -/
def settings (d : Draft) : Settings where
  functionName := d.functionName.getD Settings.default.functionName
  pattern := d.pattern.getD Settings.default.pattern
  captureIndex := d.captureIndex.getD Settings.default.captureIndex
  includes := d.includes.getD Settings.default.includes
  ignores := d.ignores.getD Settings.default.ignores
  ignoreDirs := d.ignoreDirs.getD Settings.default.ignoreDirs

end Draft

/-- Stop at a key that comes a second time. The place is behind the blanks that follow the key, and
behind a bracket there. -/
def failDuplicate {α : Type} (key : Key) : Json.Reading α := do
  if (← Json.peekToken) = some Json.Bracket.object.close then Json.eat
  Json.fail (.duplicateField key.name)

/-- Read the fields of an object from the next one on. Unknown keys are skipped with their
values. -/
def readFields : Nat → Bool → Draft → Json.Reading Draft
  | 0, _, d => return d
  | fuel + 1, isFirst, d => do
    match ← Json.nextKey isFirst with
    | none => return d
    | some name =>
      match Key.ofName? name with
      | none =>
        Json.colon
        Json.skipValue
        readFields fuel false d
      | some key =>
        if d.has key then failDuplicate key
        Json.colon
        readFields fuel false (← d.readValue key)

/-- Read the elements of a list as the values of keys, as many as there are. -/
def readElements : Bool → Draft → List Key → Json.Reading Draft
  | _, d, [] => return d
  | isFirst, d, key :: keys => do
    if ← Json.nextElement isFirst then readElements false (← d.readValue key) keys
    else return d

def read : Json.Reading Settings := do
  match ← Json.peekToken with
  | none => Json.fail .endInValue
  | some c =>
    if c = Char.ofNat 0x7b then
      Json.eat
      let d ← readFields ((← get).rest.length + 1) true {}
      Json.endObject
      return d.settings
    else if c = '[' then
      Json.eat
      let d ← readElements true {} Key.all
      Json.endList
      return d.settings
    else Json.failType "struct Config"

/-- Read a document that holds settings and nothing else. -/
def readDocument : Json.Reading Settings := do
  let s ← read
  Json.endDocument
  return s

def parse (text : String) : Except Json.Error Settings :=
  (readDocument.run (Json.Input.ofString text)).map Prod.fst

/-- The fields of settings. A pattern that is absent has none. -/
def fields (s : Settings) : List (String × Json.Printable) :=
  (Key.functionName.name, .string s.functionName) ::
    ((s.pattern.map fun p => (Key.pattern.name, Json.Printable.string p)).toList ++
      [(Key.captureIndex.name, .natural s.captureIndex),
       (Key.includes.name, .strings s.includes),
       (Key.ignores.name, .strings s.ignores),
       (Key.ignoreDirs.name, .strings s.ignoreDirs)])

def print (s : Settings) : String := Json.printObject s.fields

/-- The name of a file that holds settings. -/
def fileName : String := ".glotextractrc.json"

/-- The text of a new file with settings. -/
def defaultText : String := default.print

end MessageCatalog.Settings
