import MessageCatalog.Pattern.Fault
import MessageCatalog.Unicode.Recent

/-! # Reading search patterns

`Ast.parse` reads a pattern or tells its first fault. Groups and brackets may nest, so the reader
keeps the levels that are still open on a stack of its own; every round of its loops takes at least
one character, and the number of characters bounds the number of rounds.
-/

namespace MessageCatalog.Pattern

/-- How far reading has come. -/
structure Reader where
  position : Position
  rest : List Char
  /-- Whether blanks and comments between the parts of the pattern are skipped. -/
  extended : Bool
  /-- Capturing groups opened so far. -/
  groups : Nat
  /-- Names of groups, with where they were given. -/
  names : List (String × Span)

/-- A step of reading, which may fail. -/
abbrev Reading := StateT Reader (Except Fault)

/-- Whether a character counts as blank in a pattern. -/
def isPatternBlank (c : Char) : Bool := Unicode.whiteSpace.has c

/-- Behind the blanks and comments at a place; `comment` tells whether a comment is open. -/
def skipIgnored (comment : Bool) (p : Position) : List Char → Position × List Char
  | [] => (p, [])
  | c :: rest =>
    if comment then skipIgnored (c != '\n') (p.after c) rest
    else if isPatternBlank c then skipIgnored false (p.after c) rest
    else if c = '#' then skipIgnored true (p.after c) rest
    else (p, c :: rest)

/-- The character behind the current one, blanks and one comment sign passed over where the pattern
allows them. -/
def afterNext (extended : Bool) (rest : List Char) : Option Char :=
  let next := rest.drop 1
  if !extended then next.head?
  else
    let visible := next.dropWhile isPatternBlank
    let found :=
      match visible with
      | '#' :: more => more.dropWhile isPatternBlank
      | other => other
    match found with
    | [] => next.head?
    | c :: _ => some c

/-- The least positive length of a name in digits, and so on, is one: the value of a digit. -/
def decimalDigit? (c : Char) : Option Nat :=
  if '0' ≤ c ∧ c ≤ '9' then some (c.toNat - '0'.toNat) else none

namespace Reading

def fail {α : Type} (kind : FaultKind) (span : Span) (conflict : Option Span := none) : Reading α :=
  throw ⟨kind, span, conflict⟩

def here : Reading Position := do return (← get).position

def peek : Reading (Option Char) := do return (← get).rest.head?

def atEnd : Reading Bool := do return (← get).rest.isEmpty

/-- The current character as a stretch of text; nothing at the end. -/
def charSpan : Reading Span := do
  let s ← get
  match s.rest with
  | [] => return .at s.position
  | c :: _ => return ⟨s.position, s.position.after c⟩

/-- Take the current character. Tells whether another one follows. -/
def bump : Reading Bool := do
  let s ← get
  match s.rest with
  | [] => return false
  | c :: rest =>
    set { s with position := s.position.after c, rest := rest }
    return !rest.isEmpty

/-- Skip blanks and comments where the pattern allows them. -/
def skipBlanks : Reading Unit := do
  let s ← get
  if s.extended then
    let (position, rest) := skipIgnored false s.position s.rest
    set { s with position := position, rest := rest }

/-- Take the current character and the blanks and comments behind it. Tells whether anything is
left. -/
def bumpAndSkip : Reading Bool := do
  if ← bump then
    skipBlanks
    return !(← atEnd)
  else return false

/-- Take the given text if it comes next. -/
def bumpIf (text : List Char) : Reading Bool := do
  let s ← get
  if text.isPrefixOf s.rest then
    set { s with
      position := text.foldl Position.after s.position
      rest := s.rest.drop text.length }
    return true
  else return false

/-- The number of characters left, which bounds every loop below. -/
def remaining : Reading Nat := do return (← get).rest.length

/-- Take characters that satisfy a test, and blanks behind each. The result is in reverse. -/
def takeSpaced (test : Char → Bool) : Nat → List Char → Reading (List Char)
  | 0, taken => return taken
  | fuel + 1, taken => do
    match ← peek with
    | none => return taken
    | some c =>
      if test c then
        let _ ← bumpAndSkip
        takeSpaced test fuel (c :: taken)
      else return taken

/-- Take the blanks at the current place, whether or not the pattern ignores them. -/
def takeBlanks : Nat → Reading Unit
  | 0 => return ()
  | fuel + 1 => do
    match ← peek with
    | some c =>
      if isPatternBlank c then
        let _ ← bump
        takeBlanks fuel
      else return ()
    | none => return ()

/-- The number that digits in reverse stand for. -/
def numberOf (reversed : List Char) : Nat :=
  reversed.foldr (fun c n => 10 * n + (decimalDigit? c).getD 0) 0

/-- Read a decimal number of at most 32 bits, with blanks around it. -/
def decimal : Reading (Except Fault Nat) := do
  takeBlanks (← remaining)
  let start ← here
  let digits ← takeSpaced (fun c => (decimalDigit? c).isSome) (← remaining) []
  let span : Span := ⟨start, ← here⟩
  takeBlanks (← remaining)
  skipBlanks
  if digits.isEmpty then return .error ⟨.repetitionCountDecimalEmpty, span, none⟩
  else if numberOf digits < UInt32.size then return .ok (numberOf digits)
  else return .error ⟨.decimalInvalid, span, none⟩

/-- The character of a hexadecimal number, unless it is a surrogate or too large. -/
def charOfHex? (digits : List Char) : Option Char :=
  let n := CharSet.hexNumber digits
  if n < 0xD800 ∨ (0xDFFF < n ∧ n ≤ 0x10FFFF) then some (Char.ofNat n) else none

/-- Read `count` hexadecimal digits; `isFirst` tells that none has been read yet. -/
def hexDigits (isFirst : Bool) (taken : List Char) : Nat → Reading (List Char)
  | 0 => return taken.reverse
  | count + 1 => do
    if !isFirst then
      if !(← bumpAndSkip) then fail .escapeUnexpectedEnd (.at (← here))
    match ← peek with
    | none => fail .escapeUnexpectedEnd (.at (← here))
    | some c =>
      if (CharSet.hexDigit? c).isNone then fail .escapeHexInvalidDigit (← charSpan)
      hexDigits false (c :: taken) count

/-- Read the hexadecimal digits up to a closing brace. -/
def hexBraceDigits : Nat → List Char → Reading (List Char)
  | 0, taken => return taken.reverse
  | fuel + 1, taken => do
    if ← bumpAndSkip then
      match ← peek with
      | some '}' => return taken.reverse
      | some c =>
        if (CharSet.hexDigit? c).isNone then fail .escapeHexInvalidDigit (← charSpan)
        hexBraceDigits fuel (c :: taken)
      | none => return taken.reverse
    else return taken.reverse

/-- Read a hexadecimal escape at the letter that says how many digits it has. The escape began at
`start`. -/
def hexEscape (start : Position) (letter : Char) : Reading PatternChar := do
  if !(← bumpAndSkip) then fail .escapeUnexpectedEnd (.at (← here))
  if (← peek) = some '{' then
    let brace ← here
    let first := (← charSpan).stop
    let digits ← hexBraceDigits (← remaining) []
    if ← atEnd then fail .escapeUnexpectedEnd ⟨brace, ← here⟩
    let stop ← here
    let _ ← bumpAndSkip
    if digits.isEmpty then fail .escapeHexEmpty ⟨brace, ← here⟩
    match charOfHex? digits with
    | none => fail .escapeHexInvalid ⟨first, stop⟩
    | some c => return ⟨⟨start, ← here⟩, c, false⟩
  else
    let first ← here
    let count := if letter = 'x' then 2 else if letter = 'u' then 4 else 8
    let digits ← hexDigits true [] count
    let _ ← bumpAndSkip
    let stop ← here
    match charOfHex? digits with
    | none => fail .escapeHexInvalid ⟨first, stop⟩
    | some c => return ⟨⟨start, stop⟩, c, letter = 'x'⟩

def bracedName : Nat → List Char → Reading (List Char)
  | 0, taken => return taken.reverse
  | fuel + 1, taken => do
    if ← bumpAndSkip then
      match ← peek with
      | some '}' => return taken.reverse
      | some c => bracedName fuel (c :: taken)
      | none => return taken.reverse
    else return taken.reverse

/-- The texts around the first occurrence of a separator. -/
def cutAt? (separator : List Char) : List Char → Option (List Char × List Char)
  | [] => none
  | c :: rest =>
    if separator.isPrefixOf (c :: rest) then some ([], (c :: rest).drop separator.length)
    else (cutAt? separator rest).map fun (before, behind) => (c :: before, behind)

/-- What the text between the braces of `\p{…}` asks for. -/
def propertyQuery (name : List Char) : PropertyQuery :=
  match cutAt? ['!', '='] name with
  | some (a, b) => .valued (String.ofList a) (String.ofList b) false
  | none =>
    match cutAt? [':'] name with
    | some (a, b) => .valued (String.ofList a) (String.ofList b) true
    | none =>
      match cutAt? ['='] name with
      | some (a, b) => .valued (String.ofList a) (String.ofList b) true
      | none => .named (String.ofList name)

def propertyEscape : Reading PropertyQuery := do
  if !(← bumpAndSkip) then fail .escapeUnexpectedEnd (.at (← here))
  match ← peek with
  | some '{' =>
    let name ← bracedName (← remaining) []
    if ← atEnd then fail .escapeUnexpectedEnd (.at (← here))
    let _ ← bump
    return propertyQuery name
  | some c =>
    if c = '\\' then fail .propertyNameInvalid (← charSpan)
    let _ ← bumpAndSkip
    return .letter c
  | none => fail .escapeUnexpectedEnd (.at (← here))

/-- Read the name in braces of a special word boundary at its brace, unless the brace opens a
repetition. The escape began at `start`. -/
def wordBoundaryName? (start : Position) : Reading (Option Assertion) := do
  let before ← get
  let isNameChar := fun (c : Char) => c.isAlpha || c = '-'
  if !(← bumpAndSkip) then fail .wordBoundaryOrRepetitionUnclosed ⟨start, ← here⟩
  let contents ← here
  match ← peek with
  | none => fail .wordBoundaryOrRepetitionUnclosed ⟨start, ← here⟩
  | some c =>
    if !isNameChar c then
      set before
      return none
    let name ← takeSpaced isNameChar (← remaining) []
    if (← peek) ≠ some '}' then fail .wordBoundaryUnclosed ⟨before.position, ← here⟩
    let stop ← here
    let _ ← bump
    match String.ofList name.reverse with
    | "start" => return some .wordStart
    | "end" => return some .wordEnd
    | "start-half" => return some .wordStartHalf
    | "end-half" => return some .wordEndHalf
    | _ => fail .wordBoundaryUnrecognized ⟨contents, stop⟩

/-- Characters with a meaning in patterns; a backslash takes it from them. -/
def isMeta (c : Char) : Bool := "\\.+*?()|[]\x7b\x7d^$#&-~".toList.contains c

/-- Whether a backslash before the character is allowed and changes nothing. -/
def isEscapable (c : Char) : Bool :=
  isMeta c || (c.toNat < 0x80 && !c.isAlphanum && c != '<' && c != '>')

/-- What a pattern is made of: a character, a class or a condition. -/
inductive Primitive where
  | literal (c : PatternChar)
  | assertion (span : Span) (kind : Assertion)
  | dot (span : Span)
  | letterClass (span : Span) (negated : Bool) (cls : LetterClass)
  | property (span : Span) (negated : Bool) (query : PropertyQuery)

def Primitive.span : Primitive → Span
  | .literal c => c.span
  | .assertion s _ => s
  | .dot s => s
  | .letterClass s .. => s
  | .property s .. => s

def Primitive.toAst : Primitive → Ast
  | .literal c => .literal c
  | .assertion s k => .assertion s k
  | .dot s => .dot s
  | .letterClass s n c => .letterClass s n c
  | .property s n q => .property s n q

def escape : Reading Primitive := do
  let start ← here
  if !(← bump) then fail .escapeUnexpectedEnd ⟨start, ← here⟩
  match ← peek with
  | none => fail .escapeUnexpectedEnd ⟨start, ← here⟩
  | some c =>
    if c.isDigit then fail .unsupportedBackreference ⟨start, (← charSpan).stop⟩
    else if c = 'x' ∨ c = 'u' ∨ c = 'U' then return .literal (← hexEscape start c)
    else if c = 'p' ∨ c = 'P' then
      let query ← propertyEscape
      return .property ⟨start, ← here⟩ (c = 'P') query
    else
      let _ ← bump
      let span : Span := ⟨start, ← here⟩
      let special := fun (code : Nat) =>
        (pure (.literal ⟨span, Char.ofNat code, false⟩) : Reading Primitive)
      match c with
      | 'd' => return .letterClass span false .digit
      | 'D' => return .letterClass span true .digit
      | 's' => return .letterClass span false .space
      | 'S' => return .letterClass span true .space
      | 'w' => return .letterClass span false .word
      | 'W' => return .letterClass span true .word
      | 'a' => special 7
      | 'f' => special 12
      | 't' => special 9
      | 'n' => special 10
      | 'r' => special 13
      | 'v' => special 11
      | 'A' => return .assertion span .startText
      | 'z' => return .assertion span .endText
      | 'b' =>
        if (← peek) = some '{' then
          match ← wordBoundaryName? start with
          | some kind => return .assertion ⟨start, ← here⟩ kind
          | none => return .assertion span .wordBoundary
        else return .assertion span .wordBoundary
      | 'B' => return .assertion span .notWordBoundary
      | '<' => return .assertion span .wordStart
      | '>' => return .assertion span .wordEnd
      | c =>
        if isEscapable c then return .literal ⟨span, c, false⟩
        else fail .escapeUnrecognized span

/-- Take the current character as it is. -/
def verbatim : Reading PatternChar := do
  let span ← charSpan
  let c := (← peek).getD ' '
  let _ ← bump
  return ⟨span, c, false⟩

/-- Read a character, a class or a condition outside brackets. -/
def primitive : Reading Primitive := do
  match ← peek with
  | some '\\' => escape
  | some '.' =>
    let span ← charSpan
    let _ ← bump
    return .dot span
  | some '^' =>
    let span ← charSpan
    let _ ← bump
    return .assertion span .startLine
  | some '$' =>
    let span ← charSpan
    let _ ← bump
    return .assertion span .endLine
  | _ => return .literal (← verbatim)

/-! ## Brackets -/

/-- A bracket that is open: its opening text, the operation that waits for its right side, and the
items of the current side in reverse. -/
structure SetLevel where
  opening : Span
  negated : Bool
  pending : Option (SetOperation × SetItem)
  items : List SetItem
  /-- Where the current side begins. -/
  start : Position

namespace SetLevel

/-- Add an item. -/
def push (level : SetLevel) (item : SetItem) : SetLevel := { level with items := item :: level.items }

/-- All that the bracket holds so far, with the waiting operation done. -/
def contents (level : SetLevel) : SetItem :=
  let right := SetItem.ofItems (.at level.start) level.items.reverse
  match level.pending with
  | none => right
  | some (op, left) => .binary ⟨left.span.start, right.span.stop⟩ op left right

end SetLevel

def setPrimitive : Reading Primitive := do
  if (← peek) = some '\\' then escape else return .literal (← verbatim)

/-- A primitive as an item of a set. Conditions are none. -/
def setItemOf : Primitive → Reading SetItem
  | .literal c => return .literal c
  | .letterClass s n c => return .letterClass s n c
  | .property s n q => return .property s n q
  | other => fail .classEscapeInvalid other.span

def rangeEnd : Primitive → Reading PatternChar
  | .literal c => return c
  | other => fail .classRangeLiteral other.span

/-- Read an item or a range of the bracket whose opening text is `opening`. -/
def setRange (opening : Span) : Reading SetItem := do
  let first ← setPrimitive
  skipBlanks
  let s ← get
  if s.rest.isEmpty then fail .classUnclosed opening
  let next := afterNext s.extended s.rest
  if s.rest.head? ≠ some '-' ∨ next = some ']' ∨ next = some '-' then setItemOf first
  else
    if !(← bumpAndSkip) then fail .classUnclosed opening
    let second ← setPrimitive
    let span : Span := ⟨first.span.start, second.span.stop⟩
    let low ← rangeEnd first
    let high ← rangeEnd second
    if low.value ≤ high.value then return .range span low high
    else fail .classRangeInvalid span

/-- Read the hyphens that may open a bracket. The items are in reverse. -/
def openingHyphens (start : Position) : Nat → List SetItem → Reading (List SetItem)
  | 0, items => return items
  | fuel + 1, items => do
    if (← peek) = some '-' then
      let item := SetItem.literal ⟨← charSpan, '-', false⟩
      if !(← bumpAndSkip) then fail .classUnclosed (.at start)
      openingHyphens start fuel (item :: items)
    else return items

/-- Read an opening bracket, its negation sign, and what is literal at its start only. -/
def openSet : Reading SetLevel := do
  let start ← here
  if !(← bumpAndSkip) then fail .classUnclosed ⟨start, ← here⟩
  let negated := (← peek) = some '^'
  if negated then
    if !(← bumpAndSkip) then fail .classUnclosed ⟨start, ← here⟩
  let side ← here
  let hyphens ← openingHyphens start (← remaining) []
  if hyphens.isEmpty ∧ (← peek) = some ']' then
    let item := SetItem.literal ⟨← charSpan, ']', false⟩
    if !(← bumpAndSkip) then fail .classUnclosed ⟨start, ← here⟩
    return ⟨⟨start, ← here⟩, negated, none, [item], side⟩
  else return ⟨⟨start, ← here⟩, negated, none, hyphens, side⟩

/-- The class of a name between `[:` and `:]`. -/
def namedClass? : String → Option NamedClass
  | "alnum" => some .alnum
  | "alpha" => some .alpha
  | "ascii" => some .ascii
  | "blank" => some .blank
  | "cntrl" => some .cntrl
  | "digit" => some .digit
  | "graph" => some .graph
  | "lower" => some .lower
  | "print" => some .print
  | "punct" => some .punct
  | "space" => some .space
  | "upper" => some .upper
  | "word" => some .word
  | "xdigit" => some .xdigit
  | _ => none

/-- Read a class such as `[:alpha:]`, or leave the reader where it is. -/
def namedClass : Reading (Option SetItem) := do
  let s ← get
  match s.rest with
  | '[' :: ':' :: body =>
    let negated := body.head? = some '^'
    let text := if negated then body.drop 1 else body
    let name := text.takeWhile (· ≠ ':')
    match namedClass? (String.ofList name), text.drop name.length with
    | some cls, ':' :: ']' :: _ =>
      let length := 4 + name.length + if negated then 1 else 0
      let _ ← bumpIf (s.rest.take length)
      return some (.named ⟨s.position, ← here⟩ negated cls)
    | _, _ => return none
  | _ => return none

/-- Read the rest of a bracket: `level` is the innermost open one, `outer` are those around it. -/
def setLoop : Nat → SetLevel → List SetLevel → Reading Ast
  | 0, level, _ => fail .classUnclosed level.opening
  | fuel + 1, level, outer => do
    skipBlanks
    let s ← get
    let operation := fun (op : SetOperation) => do
      let left := level.contents
      let _ ← bump
      let _ ← bump
      setLoop fuel { level with pending := some (op, left), items := [], start := ← here } outer
    match s.rest with
    | [] => fail .classUnclosed level.opening
    | '[' :: _ =>
      match ← namedClass with
      | some item => setLoop fuel (level.push item) outer
      | none =>
        let inner ← openSet
        setLoop fuel inner (level :: outer)
    | ']' :: _ =>
      let _ ← bump
      let span : Span := ⟨level.opening.start, ← here⟩
      match outer with
      | [] => return .bracketed span level.negated level.contents
      | parent :: outer =>
        setLoop fuel (parent.push (.bracketed span level.negated level.contents)) outer
    | '&' :: '&' :: _ => operation .intersection
    | '-' :: '-' :: _ => operation .difference
    | '~' :: '~' :: _ => operation .symmetricDifference
    | _ =>
      let item ← setRange level.opening
      setLoop fuel (level.push item) outer

def bracket : Reading Ast := do
  let level ← openSet
  setLoop ((← remaining) + 1) level []

/-! ## Groups and repetitions -/

/-- Whether a character may stand in the name of a group. -/
def isNameChar (isFirst : Bool) (c : Char) : Bool :=
  if isFirst then c = '_' || Unicode.nameLetters.has c
  else c = '_' || c = '.' || c = '[' || c = ']' || Unicode.nameCharacters.has c

/-- Read the characters of a group's name, in reverse. -/
def groupNameChars : Nat → List Char → Reading (List Char)
  | 0, taken => return taken
  | fuel + 1, taken => do
    match ← peek with
    | none => return taken
    | some c =>
      if c = '>' then return taken
      if !isNameChar taken.isEmpty c then fail .groupNameInvalid (← charSpan)
      if ← bump then groupNameChars fuel (c :: taken) else return c :: taken

/-- Read the name of a group up to its closing bracket. -/
def groupName : Reading Unit := do
  if ← atEnd then fail .groupNameUnexpectedEnd (.at (← here))
  let start ← here
  let name ← groupNameChars (← remaining) []
  let stop ← here
  if ← atEnd then fail .groupNameUnexpectedEnd (.at (← here))
  let _ ← bump
  if name.isEmpty then fail .groupNameEmpty (.at start)
  let text := String.ofList name.reverse
  let span : Span := ⟨start, stop⟩
  let s ← get
  match s.names.lookup text with
  | some earlier => fail .groupNameDuplicate span (some earlier)
  | none => set { s with names := (text, span) :: s.names }

def flag? : Char → Option Flag
  | 'i' => some .caseInsensitive
  | 'm' => some .multiLine
  | 's' => some .dotMatchesNewLine
  | 'U' => some .swapGreed
  | 'u' => some .unicode
  | 'R' => some .crlf
  | 'x' => some .extended
  | _ => none

/-- Read switches up to a colon or a closing parenthesis. `taken` holds those read so far, the last
one first. -/
def flagItems : Nat → List (FlagItem × Span) → Reading (List FlagItem)
  | 0, _ => return []
  | fuel + 1, taken => do
    let span ← charSpan
    let add := fun (item : FlagItem) (repeated : FaultKind) => do
      match (taken.find? fun t => t.1 = item) with
      | some (_, earlier) => fail repeated span (some earlier)
      | none =>
        if !(← bump) then fail .flagUnexpectedEnd (.at (← here))
        flagItems fuel ((item, span) :: taken)
    match ← peek with
    | none => fail .flagUnexpectedEnd (.at (← here))
    | some c =>
      if c = ':' ∨ c = ')' then
        match taken with
        | (.negation, last) :: _ => fail .flagDanglingNegation last
        | _ => return (taken.map (·.1)).reverse
      else if c = '-' then add .negation .flagRepeatedNegation
      else match flag? c with
        | some f => add (.flag f) .flagDuplicate
        | none => fail .flagUnrecognized span

/-- What an opening parenthesis begins: a group, or switches for the rest of the current group. -/
inductive Opening where
  | group (opening : Span) (kind : GroupKind)
  | flags (span : Span) (items : List FlagItem)

/-- Number the next capturing group. -/
def nextGroup : Reading Nat := do
  let s ← get
  set { s with groups := s.groups + 1 }
  return s.groups + 1

/-- Read what begins at an opening parenthesis. -/
def opening : Reading Opening := do
  let parenthesis ← charSpan
  let _ ← bump
  skipBlanks
  if (← bumpIf ['?', '=']) || (← bumpIf ['?', '!']) then
    fail .unsupportedLookAround ⟨parenthesis.start, ← here⟩
  if (← bumpIf ['?', '<', '=']) || (← bumpIf ['?', '<', '!']) then
    fail .unsupportedLookAround ⟨parenthesis.start, ← here⟩
  let inner ← here
  let named ← bumpIf ['?', 'P', '<']
  let named ← if named then pure true else bumpIf ['?', '<']
  if named then
    let index ← nextGroup
    groupName
    return .group parenthesis (.capture index)
  else if ← bumpIf ['?'] then
    if ← atEnd then fail .groupUnclosed parenthesis
    let items ← flagItems ((← remaining) + 1) []
    let close ← peek
    let _ ← bump
    if close = some ')' then
      if items.isEmpty then fail .repetitionMissing (.at inner)
      return .flags ⟨parenthesis.start, ← here⟩ items
    else return .group parenthesis (.flagged items)
  else
    let index ← nextGroup
    return .group parenthesis (.capture index)

/-- A group that is open, or the pattern as a whole: the branches that are complete and the parts of
the current branch, both in reverse, and where the branches and the current one begin. -/
structure Level where
  branches : List Ast
  branchesStart : Position
  parts : List Ast
  start : Position

/-- The level that a new group begins with. -/
def Level.empty (p : Position) : Level := ⟨[], p, [], p⟩

def Level.branch (level : Level) (stop : Position) : Ast :=
  Ast.ofParts ⟨level.start, stop⟩ level.parts.reverse

/-- All that a level holds, if it ends at `stop`. -/
def Level.contents (level : Level) (stop : Position) : Ast :=
  match level.branches with
  | [] => level.branch stop
  | branches =>
    .alternation ⟨level.branchesStart, stop⟩ (level.branch stop :: branches).reverse

/-- The level around an open group, with what was read of the group when it was opened. -/
structure OpenGroup where
  outer : Level
  opening : Span
  kind : GroupKind
  extended : Bool

/-- Split off the part that a repetition sign applies to. -/
def repeated (level : Level) : Reading (Ast × Level) := do
  match level.parts with
  | [] => fail .repetitionMissing (.at (← here))
  | .empty _ :: _ => fail .repetitionMissing (.at (← here))
  | .flags .. :: _ => fail .repetitionMissing (.at (← here))
  | part :: parts => return (part, { level with parts := parts })

/-- Read a repetition sign of one character. -/
def uncounted (level : Level) (low : Nat) (high : Option Nat) : Reading Level := do
  let (part, level) ← repeated level
  let more ← bump
  let lazy := more && (← peek) = some '?'
  if lazy then let _ ← bump
  let span : Span := ⟨part.span.start, ← here⟩
  return { level with parts := .repetition span low high (!lazy) part :: level.parts }

/-- The bounds of a counted repetition, read behind its brace at `start`. -/
def bounds (start : Position) : Reading (Nat × Option Nat) := do
  if !(← bumpAndSkip) then fail .repetitionCountUnclosed ⟨start, ← here⟩
  let low ← decimal
  if ← atEnd then fail .repetitionCountUnclosed ⟨start, ← here⟩
  if (← peek) = some ',' then
    if !(← bumpAndSkip) then fail .repetitionCountUnclosed ⟨start, ← here⟩
    if (← peek) = some '}' then return (← low, none)
    else
      let low ← (low : Except Fault Nat)
      let high ← (← decimal : Except Fault Nat)
      return (low, some high)
  else
    let low ← (low : Except Fault Nat)
    return (low, some low)

def counted (level : Level) : Reading Level := do
  let start ← here
  let (part, level) ← repeated level
  let (low, high) ← bounds start
  if (← peek) ≠ some '}' then fail .repetitionCountUnclosed ⟨start, ← here⟩
  let more ← bumpAndSkip
  let lazy := more && (← peek) = some '?'
  if lazy then let _ ← bump
  let stop ← here
  if high.any (· < low) then fail .repetitionCountInvalid ⟨start, stop⟩
  let span : Span := ⟨part.span.start, stop⟩
  return { level with parts := .repetition span low high (!lazy) part :: level.parts }

/-- Read the rest of the pattern: `level` is the innermost open group, `outer` are those around
it. -/
def groupLoop : Nat → Level → List OpenGroup → Reading Ast
  | 0, _, _ => do fail .groupUnclosed (.at (← here))
  | fuel + 1, level, outer => do
    skipBlanks
    match ← peek with
    | none =>
      match outer with
      | [] => return level.contents (← here)
      | group :: _ => fail .groupUnclosed group.opening
    | some '(' =>
      match ← opening with
      | .flags span items =>
        if let some extended := flagState items .extended then
          modify fun s => { s with extended := extended }
        groupLoop fuel { level with parts := .flags span items :: level.parts } outer
      | .group span kind =>
        let s ← get
        let extended :=
          match kind with
          | .flagged items => (flagState items .extended).getD s.extended
          | .capture _ => s.extended
        set { s with extended := extended }
        groupLoop fuel (.empty s.position) (⟨level, span, kind, s.extended⟩ :: outer)
    | some ')' =>
      match outer with
      | [] => fail .groupUnopened (← charSpan)
      | group :: outer =>
        let body := level.contents (← here)
        let _ ← bump
        modify fun s => { s with extended := group.extended }
        let part := Ast.group ⟨group.opening.start, ← here⟩ group.kind body
        groupLoop fuel { group.outer with parts := part :: group.outer.parts } outer
    | some '|' =>
      let branch := level.branch (← here)
      let branchesStart := if level.branches.isEmpty then level.start else level.branchesStart
      let _ ← bump
      let p ← here
      groupLoop fuel ⟨branch :: level.branches, branchesStart, [], p⟩ outer
    | some '[' =>
      let part ← bracket
      groupLoop fuel { level with parts := part :: level.parts } outer
    | some '?' => groupLoop fuel (← uncounted level 0 (some 1)) outer
    | some '*' => groupLoop fuel (← uncounted level 0 none) outer
    | some '+' => groupLoop fuel (← uncounted level 1 none) outer
    | some '{' => groupLoop fuel (← counted level) outer
    | some _ =>
      let part ← primitive
      groupLoop fuel { level with parts := part.toAst :: level.parts } outer

end Reading

/-! ## Nesting -/

/-- How deep groups, brackets, repetitions and lists of parts may nest. -/
def nestLimit : Nat := 250

mutual

/-- Check the nesting inside brackets, below `depth` levels. -/
def SetItem.checkNesting (depth : Nat) : SetItem → Except Fault Unit
  | .bracketed span _ inner =>
    if depth < nestLimit then inner.checkNesting (depth + 1)
    else .error ⟨.nestLimitExceeded nestLimit, span, none⟩
  | .union span items =>
    if depth < nestLimit then SetItem.checkNestings (depth + 1) items
    else .error ⟨.nestLimitExceeded nestLimit, span, none⟩
  | .binary span _ left right =>
    if depth < nestLimit then
      match left.checkNesting (depth + 1) with
      | .ok () => right.checkNesting (depth + 1)
      | .error e => .error e
    else .error ⟨.nestLimitExceeded nestLimit, span, none⟩
  | _ => .ok ()

def SetItem.checkNestings (depth : Nat) : List SetItem → Except Fault Unit
  | [] => .ok ()
  | item :: items =>
    match item.checkNesting depth with
    | .ok () => SetItem.checkNestings depth items
    | .error e => .error e

end

mutual

/-- Check the nesting of a pattern below `depth` levels. -/
def Ast.checkNesting (depth : Nat) : Ast → Except Fault Unit
  | .bracketed span _ inner =>
    if depth < nestLimit then inner.checkNesting (depth + 1)
    else .error ⟨.nestLimitExceeded nestLimit, span, none⟩
  | .repetition span _ _ _ body =>
    if depth < nestLimit then body.checkNesting (depth + 1)
    else .error ⟨.nestLimitExceeded nestLimit, span, none⟩
  | .group span _ body =>
    if depth < nestLimit then body.checkNesting (depth + 1)
    else .error ⟨.nestLimitExceeded nestLimit, span, none⟩
  | .alternation span branches =>
    if depth < nestLimit then Ast.checkNestings (depth + 1) branches
    else .error ⟨.nestLimitExceeded nestLimit, span, none⟩
  | .concat span parts =>
    if depth < nestLimit then Ast.checkNestings (depth + 1) parts
    else .error ⟨.nestLimitExceeded nestLimit, span, none⟩
  | _ => .ok ()

def Ast.checkNestings (depth : Nat) : List Ast → Except Fault Unit
  | [] => .ok ()
  | part :: parts =>
    match part.checkNesting depth with
    | .ok () => Ast.checkNestings depth parts
    | .error e => .error e

end

def Ast.parse (pattern : String) : Except Fault Ast := do
  let reader : Reader := ⟨.first, pattern.toList, false, 0, []⟩
  let (ast, _) ← (Reading.groupLoop (reader.rest.length + 1) (.empty .first) []).run reader
  ast.checkNesting 0
  return ast

end MessageCatalog.Pattern
