import MessageCatalog.Pattern.Fault
import MessageCatalog.Unicode.Age
import MessageCatalog.Unicode.Boundary

/-! # Character classes by name

The sets behind `\d`, `[:alpha:]` and `\p{Greek}`.
-/

namespace MessageCatalog.Pattern

/-- A named class inside brackets; all of them hold ASCII characters only. -/
def NamedClass.set : NamedClass → CharSet
  | .alnum => .ofText "30-39 41-5A 61-7A"
  | .alpha => .ofText "41-5A 61-7A"
  | .ascii => .ofText "0-7F"
  | .blank => .ofText "9 20"
  | .cntrl => .ofText "0-1F 7F"
  | .digit => .ofText "30-39"
  | .graph => .ofText "21-7E"
  | .lower => .ofText "61-7A"
  | .print => .ofText "20-7E"
  | .punct => .ofText "21-2F 3A-40 5B-60 7B-7E"
  | .space => .ofText "9-D 20"
  | .upper => .ofText "41-5A"
  | .word => .ofText "30-39 41-5A 5F 61-7A"
  | .xdigit => .ofText "30-39 41-46 61-66"

/-- A class with a letter of its own, over all characters or over ASCII. -/
def LetterClass.set (ascii : Bool) : LetterClass → CharSet
  | .digit => if ascii then NamedClass.digit.set else Unicode.decimalDigits
  | .space => if ascii then NamedClass.space.set else Unicode.whiteSpace
  | .word => if ascii then NamedClass.word.set else Unicode.wordCharacters

/-- The form in which names of properties and their values are compared: no blanks, hyphens and
underscores, no letters outside ASCII, lower case, and no leading `is`. Only the abbreviation `isc`
keeps it. -/
def normalizeName (name : String) : String :=
  let cs := name.toList
  let strip := (cs.take 2).map Char.toLower = ['i', 's']
  let kept := (if strip then cs.drop 2 else cs).filterMap fun c =>
    if c = ' ' ∨ c = '-' ∨ c = '_' ∨ 0x80 ≤ c.toNat then none else some c.toLower
  if strip ∧ kept = ['c'] then "isc" else String.ofList kept

/-- Names of categories and scripts without characters. -/
def emptyValues : List String :=
  ["cs", "surrogate", "zzzz", "unknown", "hrkt", "katakanaorhiragana"]

/-- Names of properties that mean a category where they stand alone. -/
def categoryFirst : List String := ["cf", "sc", "lc"]

/-- The set that a normalized name stands for: a property, a category or a script. -/
def namedSet (name : String) : Except FaultKind CharSet :=
  let isProperty := !categoryFirst.contains name
  match if isProperty then Unicode.property? name else none with
  | some set => .ok set
  | none =>
    if isProperty && Unicode.valuedProperties.contains name then .error .propertyNotFound
    else match (Unicode.category? name).orElse fun _ => Unicode.script? name with
      | some set => .ok set
      | none =>
        .error (if emptyValues.contains name then .propertyValueNotFound else .propertyNotFound)

/-- The properties that can be asked for by their values: their names, and the set of the characters
with a value of a given name. -/
def queryable : List (List String × (String → Option CharSet)) := [
  (["gc", "generalcategory"], Unicode.category?),
  (["sc", "script"], Unicode.script?),
  (["scx", "scriptextensions"], Unicode.scriptExtensions?),
  (["age"], Unicode.age?),
  (["gcb", "graphemeclusterbreak"], Unicode.graphemeBreak?),
  (["wb", "wordbreak"], Unicode.wordBreak?),
  (["sb", "sentencebreak"], Unicode.sentenceBreak?)]

/-- The set of the characters for which a property has a value. -/
def valuedSet (name value : String) : Except FaultKind CharSet :=
  match queryable.find? (fun entry => entry.1.contains name) with
  | some (_, set?) =>
    match set? value with
    | some set => .ok set
    | none => .error .propertyValueNotFound
  | none =>
    if Unicode.valuedProperties.contains name ∨ (Unicode.property? name).isSome then
      .error .propertyValueNotFound
    else .error .propertyNotFound

/-- The set that a property query asks for, whatever its sign. -/
def PropertyQuery.set : PropertyQuery → Except FaultKind CharSet
  | .letter c => namedSet (normalizeName (String.ofList [c]))
  | .named name => namedSet (normalizeName name)
  | .valued name value _ => valuedSet (normalizeName name) (normalizeName value)

end MessageCatalog.Pattern
