import MessageCatalog.Decimal.Shortest
import MessageCatalog.Text.Quoted

/-! # Reading JSON text

Steps for reading a JSON document from left to right: blanks, words, strings and numbers, and
skipping values that nobody asks for. A fault is reported with the line and column where reading
stopped; columns count bytes.
-/

namespace MessageCatalog.Json

/-- What a value turned out to be, where something else was expected. -/
inductive Found where
  | null
  | boolean (b : Bool)
  | integer (n : Int)
  | float (text : String)
  | string (s : String)
  | sequence
  | map
  deriving Repr, DecidableEq

def Found.message : Found → String
  | .null => "null"
  | .boolean b => s!"boolean `{b}`"
  | .integer n => s!"integer `{n}`"
  | .float text => s!"floating point `{text}`"
  | .string s => s!"string {Quoted.text s}"
  | .sequence => "sequence"
  | .map => "map"

/-- What is wrong with a document. -/
inductive Fault where
  | endInList
  | endInObject
  | endInString
  | endInValue
  | expectedColon
  | expectedListEnd
  | expectedObjectEnd
  | expectedWord
  | expectedValue
  | invalidEscape
  | invalidNumber
  | numberOutOfRange
  | controlCharacter
  | keyMustBeString
  | loneSurrogate
  | unexpectedEndOfEscape
  | trailingComma
  | trailingCharacters
  /-- A value of another type was expected. -/
  | invalidType (found : Found) (expected : String)
  /-- A value of another range was expected. -/
  | invalidValue (found : Found) (expected : String)
  | duplicateField (name : String)
  deriving Repr, DecidableEq

/-- The sentence that tells what is wrong. -/
def Fault.message : Fault → String
  | .endInList => "EOF while parsing a list"
  | .endInObject => "EOF while parsing an object"
  | .endInString => "EOF while parsing a string"
  | .endInValue => "EOF while parsing a value"
  | .expectedColon => "expected `:`"
  | .expectedListEnd => "expected `,` or `]`"
  | .expectedObjectEnd => "expected `,` or `\x7d`"
  | .expectedWord => "expected ident"
  | .expectedValue => "expected value"
  | .invalidEscape => "invalid escape"
  | .invalidNumber => "invalid number"
  | .numberOutOfRange => "number out of range"
  | .controlCharacter => "control character (\\u0000-\\u001F) found while parsing a string"
  | .keyMustBeString => "key must be a string"
  | .loneSurrogate => "lone leading surrogate in hex escape"
  | .unexpectedEndOfEscape => "unexpected end of hex escape"
  | .trailingComma => "trailing comma"
  | .trailingCharacters => "trailing characters"
  | .invalidType found expected => s!"invalid type: {found.message}, expected {expected}"
  | .invalidValue found expected => s!"invalid value: {found.message}, expected {expected}"
  | .duplicateField name => s!"duplicate field `{name}`"

/-- A place in a document: its line, counted from one, and the bytes of the line before it. -/
structure Mark where
  line : Nat
  column : Nat
  deriving Repr, DecidableEq

def Mark.afterByte (m : Mark) (b : UInt8) : Mark :=
  if b = 0x0A then ⟨m.line + 1, 0⟩ else ⟨m.line, m.column + 1⟩

def Mark.afterBytes (m : Mark) (bs : List UInt8) : Mark := bs.foldl Mark.afterByte m

def Mark.afterChar (m : Mark) (c : Char) : Mark :=
  if c = '\n' then ⟨m.line + 1, 0⟩ else ⟨m.line, m.column + c.utf8Size⟩

/-- A fault and where reading stopped. -/
structure Error where
  fault : Fault
  mark : Mark
  deriving Repr, DecidableEq

def Error.message (e : Error) : String :=
  s!"{e.fault.message} at line {e.mark.line} column {e.mark.column}"

/-- The rest of a document, and where it begins. -/
structure Input where
  rest : List Char
  mark : Mark
  deriving Repr, DecidableEq

def Input.ofString (text : String) : Input := ⟨text.toList, ⟨1, 0⟩⟩

/-- A step of reading. -/
abbrev Reading := StateT Input (Except Error)

/-- Stop with a fault at the place behind all that was taken. -/
def fail {α : Type} (fault : Fault) : Reading α := do throw ⟨fault, (← get).mark⟩

def failAtNext {α : Type} (fault : Fault) : Reading α := do
  let s ← get
  match s.rest with
  | [] => throw ⟨fault, s.mark⟩
  | c :: _ => throw ⟨fault, if c = '\n' then s.mark.afterChar c else s.mark.afterByte 0⟩

/-- The next character, if any is left. -/
def peek : Reading (Option Char) := do return (← get).rest.head?

def eat : Reading Unit := modify fun s =>
  match s.rest with
  | [] => s
  | c :: rest => ⟨rest, s.mark.afterChar c⟩

/-- Whether a character is blank in JSON. -/
def isBlank (c : Char) : Bool := c = ' ' || c = '\n' || c = '\t' || c = '\r'

def skipBlanksFrom (m : Mark) : List Char → Input
  | [] => ⟨[], m⟩
  | c :: rest => if isBlank c then skipBlanksFrom (m.afterChar c) rest else ⟨c :: rest, m⟩

/-- Skip blanks. Gives the next character, if any is left. -/
def peekToken : Reading (Option Char) := do
  modify fun s => skipBlanksFrom s.mark s.rest
  peek

/-- Take a character, which has to be the given one. -/
def expectChar (c : Char) : Reading Unit := do
  match ← peek with
  | none => fail .endInValue
  | some d =>
    if d = c then eat
    else
      let s ← get
      throw ⟨.expectedWord, if d = '\n' then s.mark.afterChar d else s.mark.afterByte 0⟩

def expectWord : List Char → Reading Unit
  | [] => return ()
  | c :: cs => do
    expectChar c
    expectWord cs

def hexValue (a b c d : Char) : Option Nat := do
  let a ← CharSet.hexDigit? a
  let b ← CharSet.hexDigit? b
  let c ← CharSet.hexDigit? c
  let d ← CharSet.hexDigit? d
  return ((16 * a + b) * 16 + c) * 16 + d

def hexEscape : Reading Nat := do
  let s ← get
  let found :=
    match s.rest with
    | a :: b :: c :: d :: rest => (hexValue a b c d).map fun n => (n, rest)
    | _ => none
  match found with
  | some (n, rest) =>
    set (⟨rest, ⟨s.mark.line, s.mark.column + 4⟩⟩ : Input)
    return n
  | none =>
    let bytes := (s.rest.take 4).flatMap String.utf8EncodeChar
    let mark := s.mark.afterBytes (bytes.take 4)
    if bytes.length < 4 then throw ⟨.endInString, mark⟩ else throw ⟨.invalidEscape, mark⟩

/-- Whether a number is the first half of a pair that stands for one character. -/
def isLeading (n : Nat) : Bool := 0xD800 ≤ n && n ≤ 0xDBFF

/-- Whether a number is the second half of such a pair. -/
def isTrailing (n : Nat) : Bool := 0xDC00 ≤ n && n ≤ 0xDFFF

/-- Stop behind the next byte, which should have gone on with an escape. -/
def failInPair {α : Type} : Reading α := do
  match ← peek with
  | none => fail .endInString
  | some _ => failAtNext .unexpectedEndOfEscape

/-- Take the rest of a hexadecimal escape, and of the escape that completes its pair. -/
def unicodeEscape : Reading Char := do
  let n ← hexEscape
  if isTrailing n then fail .loneSurrogate
  else if isLeading n then
    if (← peek) ≠ some '\\' then failInPair
    eat
    if (← peek) ≠ some 'u' then failInPair
    eat
    let m ← hexEscape
    if !isTrailing m then fail .loneSurrogate
    return Char.ofNat (0x10000 + (n - 0xD800) * 1024 + (m - 0xDC00))
  else return Char.ofNat n

/-- The character of a one-letter escape. -/
def simpleEscape? : Char → Option Char
  | '"' => some '"'
  | '\\' => some '\\'
  | '/' => some '/'
  | 'b' => some (Char.ofNat 8)
  | 'f' => some (Char.ofNat 12)
  | 'n' => some '\n'
  | 'r' => some '\r'
  | 't' => some '\t'
  | _ => none

def escape : Reading Char := do
  match ← peek with
  | none => fail .endInString
  | some 'u' =>
    eat
    unicodeEscape
  | some c =>
    match simpleEscape? c with
    | some d =>
      eat
      return d
    | none => failAtNext .invalidEscape

/-- Take the rest of a string behind its opening quote. `taken` holds its characters in reverse. -/
def stringRest : Nat → List Char → Reading String
  | 0, _ => fail .endInString
  | fuel + 1, taken => do
    match ← peek with
    | none => fail .endInString
    | some c =>
      if c = '"' then
        eat
        return String.ofList taken.reverse
      else if c = '\\' then
        eat
        let d ← escape
        stringRest fuel (d :: taken)
      else if c.toNat < 0x20 then
        eat
        fail .controlCharacter
      else
        eat
        stringRest fuel (c :: taken)

def string : Reading String := do
  eat
  stringRest ((← get).rest.length + 1) []

/-! ## Numbers -/

/-- A number as a document can give it: an integer of 64 bits, or a float. -/
inductive Number where
  | natural (n : Nat)
  | negative (n : Nat)
  | float (x : Float)

/-- A float in a report: positional with at least one decimal from `1e-5` to `1e16`, else with a
power of ten and its sign. -/
def floatText (x : Float) : String :=
  let bits := x.toBits.toNat
  let sign := if Nat.pow 2 63 ≤ bits then "-" else ""
  let bits := bits % Nat.pow 2 63
  if bits = 0 then sign ++ "0.0"
  else
    let d := Decimal.ofBits bits
    let digits := d.text
    let e := d.exponent - 1
    let body : List Char :=
      if -5 ≤ e ∧ e < 0 then '0' :: '.' :: (List.replicate (-d.exponent).toNat '0' ++ digits)
      else if 0 ≤ e ∧ e < 16 then
        let whole := d.exponent.toNat
        let padded := digits ++ List.replicate (whole - digits.length) '0'
        let decimals := padded.drop whole
        padded.take whole ++ '.' :: (if decimals.isEmpty then ['0'] else decimals)
      else
        let point := if digits.length = 1 then [] else '.' :: digits.drop 1
        digits.take 1 ++ point ++ ['e', if e < 0 then '-' else '+'] ++ Nat.toDigits 10 e.natAbs
    sign ++ String.ofList body

/-- How a number is named where something else was expected. -/
def Number.found : Number → Found
  | .natural n => .integer n
  | .negative n => .integer (-(n : Int))
  | .float x => .float (floatText x)

/-- The largest integer of 64 bits. -/
def maxNatural : Nat := UInt64.size - 1

/-- Powers of ten that a float can hold. -/
def powerOfTen (e : Nat) : Float := Float.ofScientific 1 false e

/-- Scale a float by a power of ten, in steps that floats can hold. -/
def scale (f : Float) (exponent : Int) : Nat → Reading Float
  | 0 => return f
  | fuel + 1 =>
    if exponent.natAbs ≤ 308 then
      if 0 ≤ exponent then do
        let g := f * powerOfTen exponent.natAbs
        if g.isInf then fail .numberOutOfRange
        return g
      else return f / powerOfTen exponent.natAbs
    else if f == 0.0 then return f
    else if 0 ≤ exponent then fail .numberOutOfRange
    else scale (f / powerOfTen 308) (exponent + 308) fuel

/-- The float of a sign, a significand of 64 bits and a power of ten. -/
def floatOf (positive : Bool) (significand : Nat) (exponent : Int) : Reading Number := do
  let f ← scale (Float.ofNat significand) exponent 8
  return .float (if positive then f else -f)

/-- Take digits. `value` and `count` are those of the digits taken so far; digits behind the first
one that would exceed 64 bits are not part of the value. Gives the value, the number of digits that
are part of it, and the number of the others. -/
def digits : Nat → Nat → Nat → Nat → Reading (Nat × Nat × Nat)
  | 0, value, count, dropped => return (value, count, dropped)
  | fuel + 1, value, count, dropped => do
    match ← peek with
    | some c =>
      if c.isDigit then
        eat
        let next := 10 * value + (c.toNat - '0'.toNat)
        if dropped = 0 ∧ next ≤ maxNatural then digits fuel next (count + 1) 0
        else digits fuel value count (dropped + 1)
      else return (value, count, dropped)
    | none => return (value, count, dropped)

def allDigits (value : Nat) : Reading (Nat × Nat × Nat) := do
  digits ((← get).rest.length) value 0 0

/-- The largest power of ten that is read with its value. -/
def maxExponent : Nat := Nat.pow 2 31 - 1

/-- Take the digits of a power of ten, until they would exceed 31 bits. -/
def exponentDigits : Nat → Nat → Reading (Nat × Bool)
  | 0, value => return (value, false)
  | fuel + 1, value => do
    match ← peek with
    | some c =>
      if c.isDigit then
        eat
        let next := 10 * value + (c.toNat - '0'.toNat)
        if maxExponent < next then return (value, true) else exponentDigits fuel next
      else return (value, false)
    | none => return (value, false)

/-- Take the first digit of a number or of a power of ten. -/
def firstDigit : Reading Nat := do
  match ← peek with
  | none => fail .endInValue
  | some c => if c.isDigit then eat; return c.toNat - '0'.toNat else failAtNext .invalidNumber

def exponentPart (positive : Bool) (significand : Nat) (start : Int) : Reading Number := do
  eat
  let sign ← peek
  if sign = some '+' ∨ sign = some '-' then eat
  let first ← firstDigit
  let (value, overflow) ← exponentDigits ((← get).rest.length) first
  if overflow then
    if significand ≠ 0 ∧ sign ≠ some '-' then fail .numberOutOfRange
    let _ ← allDigits 0
    return .float (if positive then 0.0 else -0.0)
  else
    let e : Int := if sign = some '-' then start - value else start + value
    floatOf positive significand (max (-(maxExponent : Int) - 1) (min e maxExponent))

def atExponent : Reading Bool := do
  let c ← peek
  return c = some 'e' || c = some 'E'

/-- Take decimals at the point. `dropped` digits before the point are not part of the value. -/
def decimalPart (positive : Bool) (significand : Nat) (dropped : Nat) : Reading Number := do
  eat
  let (value, count, ignored) ← allDigits significand
  if count = 0 ∧ ignored = 0 then
    match ← peek with
    | none => fail .endInValue
    | some _ => failAtNext .invalidNumber
  let exponent : Int := (dropped : Int) - count
  if ← atExponent then exponentPart positive value exponent else floatOf positive value exponent

def number (positive : Bool) : Reading Number := do
  let first ← firstDigit
  let next ← peek
  if first = 0 ∧ next.any Char.isDigit then failAtNext .invalidNumber
  let (value, _, dropped) ← allDigits first
  if (← peek) = some '.' then decimalPart positive value dropped
  else if ← atExponent then exponentPart positive value dropped
  else if dropped > 0 then floatOf positive value dropped
  else if positive then return .natural value
  else if value = 0 ∨ Nat.pow 2 63 < value then return .float (-(Float.ofNat value))
  else return .negative value

/-! ## Skipping -/

/-- Skip the escape behind a backslash. Halves of pairs need not be complete. -/
def skipEscape : Reading Unit := do
  match ← peek with
  | none => fail .endInString
  | some 'u' =>
    eat
    let _ ← hexEscape
  | some c => if (simpleEscape? c).isSome then eat else failAtNext .invalidEscape

/-- Skip the rest of a string behind its opening quote. -/
def skipStringRest : Nat → Reading Unit
  | 0 => fail .endInString
  | fuel + 1 => do
    match ← peek with
    | none => fail .endInString
    | some c =>
      if c = '"' then eat
      else if c = '\\' then
        eat
        skipEscape
        skipStringRest fuel
      else if c.toNat < 0x20 then fail .controlCharacter
      else
        eat
        skipStringRest fuel

def skipString : Reading Unit := do
  eat
  skipStringRest ((← get).rest.length + 1)

def skipFirstDigit : Reading Nat := do
  match ← peek with
  | none => fail .invalidNumber
  | some c => if c.isDigit then eat; return c.toNat - '0'.toNat else failAtNext .invalidNumber

def skipExponent : Reading Unit := do
  eat
  let sign ← peek
  if sign = some '+' ∨ sign = some '-' then eat
  let _ ← skipFirstDigit
  let _ ← allDigits 0

def skipNumber : Reading Unit := do
  let first ← skipFirstDigit
  if first = 0 then
    if (← peek).any Char.isDigit then failAtNext .invalidNumber
  else
    let _ ← allDigits 0
  if (← peek) = some '.' then
    eat
    let (_, count, ignored) ← allDigits 0
    if count = 0 ∧ ignored = 0 then failAtNext .invalidNumber
  if ← atExponent then skipExponent

/-- Brackets that can be open. -/
inductive Bracket where
  | list
  | object
  deriving Repr, DecidableEq

def Bracket.close : Bracket → Char
  | .list => ']'
  | .object => Char.ofNat 0x7d

/-- The fault of a document that ends within a bracket. -/
def Bracket.endFault : Bracket → Fault
  | .list => .endInList
  | .object => .endInObject

/-- The fault of a value that is followed by neither comma nor bracket. -/
def Bracket.commaFault : Bracket → Fault
  | .list => .expectedListEnd
  | .object => .expectedObjectEnd

/-- Skip what stands before a value within a bracket: a key and a colon within an object. -/
def skipKey : Bracket → Reading Unit
  | .list => return ()
  | .object => do
    match ← peekToken with
    | none => fail .endInObject
    | some '"' => skipString
    | some _ => failAtNext .keyMustBeString
    match ← peekToken with
    | none => fail .endInObject
    | some ':' => eat
    | some _ => failAtNext .expectedColon

/-- Skip a value that has no parts. Gives nothing back if a bracket opens instead, which is taken
then. -/
def skipScalar : Reading (Option Bracket) := do
  match ← peekToken with
  | none => fail .endInValue
  | some 'n' => eat; expectWord ['u', 'l', 'l']; return none
  | some 't' => eat; expectWord ['r', 'u', 'e']; return none
  | some 'f' => eat; expectWord ['a', 'l', 's', 'e']; return none
  | some '-' => eat; skipNumber; return none
  | some '"' => skipString; return none
  | some '[' => eat; return some .list
  | some c =>
    if c.isDigit then skipNumber; return none
    else if c = Char.ofNat 0x7b then eat; return some .object
    else failAtNext .expectedValue

/-- Skip up to the end of the outermost of the open brackets, the innermost first. `value` tells
whether a value comes next, or else a comma or the end of a bracket. -/
def skipLoop : Nat → Bool → List Bracket → Reading Unit
  | 0, _, _ => fail .endInValue
  | fuel + 1, true, brackets => do
    match ← skipScalar with
    | none => skipLoop fuel false brackets
    | some bracket =>
      match ← peekToken with
      | none => fail bracket.endFault
      | some c =>
        if c = bracket.close then
          eat
          skipLoop fuel false brackets
        else
          skipKey bracket
          skipLoop fuel true (bracket :: brackets)
  | _ + 1, false, [] => return ()
  | fuel + 1, false, bracket :: brackets => do
    match ← peekToken with
    | none => fail bracket.endFault
    | some c =>
      if c = ',' then
        eat
        skipKey bracket
        skipLoop fuel true (bracket :: brackets)
      else if c = bracket.close then
        eat
        skipLoop fuel false brackets
      else failAtNext bracket.commaFault

def skipValue : Reading Unit := do
  skipLoop (2 * (← get).rest.length + 2) true []

/-! ## Typed values -/

/-- Stop because the next value is not of the expected type. -/
def failType {α : Type} (expected : String) : Reading α := do
  match ← peek with
  | some 'n' => eat; expectWord ['u', 'l', 'l']; fail (.invalidType .null expected)
  | some 't' => eat; expectWord ['r', 'u', 'e']; fail (.invalidType (.boolean true) expected)
  | some 'f' => eat; expectWord ['a', 'l', 's', 'e']; fail (.invalidType (.boolean false) expected)
  | some '-' =>
    eat
    let n ← number false
    fail (.invalidType n.found expected)
  | some '"' =>
    let s ← string
    fail (.invalidType (.string s) expected)
  | some '[' => fail (.invalidType .sequence expected)
  | some c =>
    if c.isDigit then
      let n ← number true
      fail (.invalidType n.found expected)
    else if c = Char.ofNat 0x7b then fail (.invalidType .map expected)
    else failAtNext .expectedValue
  | none => failAtNext .expectedValue

def readString : Reading String := do
  match ← peekToken with
  | none => fail .endInValue
  | some '"' => string
  | some _ => failType "a string"

def readOptional : Reading (Option String) := do
  match ← peekToken with
  | some 'n' =>
    eat
    expectWord ['u', 'l', 'l']
    return none
  | _ => return some (← readString)

def readCount : Reading Nat := do
  let ofNumber (n : Number) : Reading Nat :=
    match n with
    | .natural n => return n
    | .negative _ => fail (.invalidValue n.found "usize")
    | .float _ => fail (.invalidType n.found "usize")
  match ← peekToken with
  | none => fail .endInValue
  | some '-' =>
    eat
    ofNumber (← number false)
  | some c => if c.isDigit then ofNumber (← number true) else failType "usize"

/-- Come to the next element of a list, if there is one. -/
def nextElement (isFirst : Bool) : Reading Bool := do
  match ← peekToken with
  | none => fail .endInList
  | some ']' => return false
  | some c =>
    if isFirst then return true
    else if c = ',' then
      eat
      match ← peekToken with
      | none => fail .endInValue
      | some ']' => failAtNext .trailingComma
      | some _ => return true
    else failAtNext .expectedListEnd

/-- Take the end of a list, of which nothing else may be left. -/
def endList : Reading Unit := do
  match ← peekToken with
  | none => fail .endInList
  | some ']' => eat
  | some ',' =>
    eat
    match ← peekToken with
    | some ']' => failAtNext .trailingComma
    | _ => failAtNext .trailingCharacters
  | some _ => failAtNext .trailingCharacters

/-- Read the strings of a list. `taken` holds those read so far in reverse. -/
def readStringsRest : Nat → List String → Reading (List String)
  | 0, taken => return taken.reverse
  | fuel + 1, taken => do
    if ← nextElement taken.isEmpty then
      let s ← readString
      readStringsRest fuel (s :: taken)
    else return taken.reverse

def readStrings : Reading (List String) := do
  match ← peekToken with
  | none => fail .endInValue
  | some '[' =>
    eat
    let strings ← readStringsRest ((← get).rest.length + 1) []
    endList
    return strings
  | some _ => failType "a sequence"

/-- Come to the next key of an object, if there is one, and take it. -/
def nextKey (isFirst : Bool) : Reading (Option String) := do
  match ← peekToken with
  | none => fail .endInObject
  | some c =>
    if c = Bracket.object.close then return none
    else if isFirst then if c = '"' then return some (← string) else failAtNext .keyMustBeString
    else if c = ',' then
      eat
      match ← peekToken with
      | none => fail .endInValue
      | some '"' => return some (← string)
      | some d =>
        if d = Bracket.object.close then failAtNext .trailingComma
        else failAtNext .keyMustBeString
    else failAtNext .expectedObjectEnd

def colon : Reading Unit := do
  match ← peekToken with
  | none => fail .endInObject
  | some ':' => eat
  | some _ => failAtNext .expectedColon

/-- Take the end of an object, of which nothing else may be left. -/
def endObject : Reading Unit := do
  match ← peekToken with
  | none => fail .endInObject
  | some c =>
    if c = Bracket.object.close then eat
    else if c = ',' then failAtNext .trailingComma
    else failAtNext .trailingCharacters

/-- Make sure that nothing but blanks is left of the document. -/
def endDocument : Reading Unit := do
  match ← peekToken with
  | none => return ()
  | some _ => failAtNext .trailingCharacters

end MessageCatalog.Json
