import MessageCatalog.Text.Utf8
import MessageCatalog.Literal

/-! # Calls of a message function

Finds the calls `f('…')` of a function in one line of source text, without parsing the text around
them. A call counts if its first argument is a quoted literal and the text after the literal can
close the call. The scan works on bytes, so all positions are byte positions.
-/

namespace MessageCatalog.Call

abbrev byte (c : Char) : UInt8 := c.toNat.toUInt8

/-- Blanks: space, tab, line feed, form feed and carriage return. -/
def isBlank (b : UInt8) : Bool :=
  b == byte ' ' || b == byte '\t' || b == byte '\n' || b == 0x0C || b == byte '\r'

def isQuote (b : UInt8) : Bool := b == byte '"' || b == byte '\''

def skipBlanks (bs : List UInt8) : List UInt8 := bs.dropWhile isBlank

/-- The number of bytes up to and including the quote that ends a literal, for a text that starts
after its opening quote. A backslash takes the byte after it along. -/
def bodyLength? (quote : UInt8) : List UInt8 → Option Nat
  | [] => none
  | b :: rest =>
    if b == byte '\\' then
      match rest with
      | [] => none
      | _ :: rest => (bodyLength? quote rest).map (· + 2)
    else if b == quote then some 1
    else (bodyLength? quote rest).map (· + 1)

/-- The number of bytes of the quoted literal at the head, if there is one. -/
def literalLength? : List UInt8 → Option Nat
  | [] => none
  | q :: rest => if isQuote q then (bodyLength? q rest).map (· + 1) else none

/-- Where scanning goes on at position `start`: the position after the literal there. -/
def scanLiteral (bs : List UInt8) (start : Nat) : Option Nat :=
  (literalLength? (bs.drop start)).map (start + ·)

/-- Bytes of an argument that is no literal: all but quotes and the closing parenthesis. -/
def isBare (b : UInt8) : Bool := !isQuote b && b != byte ')'

/-- The number of bytes before the last comma of a run. -/
def beforeLastComma? (run : List UInt8) : Option Nat :=
  match run.reverse.dropWhile (· != byte ',') with
  | [] => none
  | _ :: before => some before.length

/-- What follows the separating comma `rest` is behind: either the call is known to close, or to
be broken, or a further tail decides. -/
inductive Argument where
  | closes
  | broken
  | tail (bs : List UInt8)
  deriving Repr, DecidableEq

/-- Read one argument behind its comma. A literal is skipped as a whole. A bare run may end at the
closing parenthesis; if a quote ends it, the run must end with a comma and blanks, and not at its
very start, so that the quote opens the next argument. -/
def readArgument (rest : List UInt8) : Argument :=
  let argument := skipBlanks rest
  match argument.head?.any isQuote with
  | true =>
    match literalLength? argument with
    | some n => .tail (argument.drop n)
    | none => .broken
  | false =>
    let run := rest.takeWhile isBare
    match (rest.drop run.length).head? with
    | none => .broken
    | some stop =>
      if run.isEmpty then .broken
      else if stop == byte ')' then .closes
      else match beforeLastComma? run with
        | none => .broken
        | some n =>
          if n == 0 || !(run.drop (n + 1)).all isBlank then .broken else .tail (rest.drop n)

theorem length_skipBlanks_le (bs : List UInt8) : (skipBlanks bs).length ≤ bs.length :=
  (List.dropWhile_suffix _).length_le

theorem length_le_of_readArgument {rest bs : List UInt8} (h : readArgument rest = .tail bs) :
    bs.length ≤ rest.length := by
  have := length_skipBlanks_le rest
  simp only [readArgument] at h
  repeat' split at h
  all_goals cases h
  all_goals simp only [List.length_drop]; omega

/-- Whether the text after a call's first literal closes the call: a closing parenthesis, perhaps
after further arguments. -/
def closesCall (bs : List UInt8) : Bool :=
  match _h : skipBlanks bs with
  | [] => false
  | b :: rest =>
    if b == byte ')' then true
    else if b == byte ',' then
      match _ha : readArgument rest with
      | .closes => true
      | .broken => false
      | .tail more => closesCall more
    else false
termination_by bs.length
decreasing_by
  have h₁ := length_skipBlanks_le bs
  have h₂ := length_le_of_readArgument _ha
  rw [_h] at h₁
  simp only [List.length_cons] at h₁
  omega

/-- A call that was found: where its name starts, and from where to where its literal goes. -/
structure Site where
  position : Nat
  start : Nat
  stop : Nat
  deriving Repr, DecidableEq

/-- The length of the first literal, if `arguments` starts with one and the call closes. -/
def firstLiteral? (arguments : List UInt8) : Option Nat :=
  match literalLength? arguments with
  | some n => if closesCall (arguments.drop n) then some n else none
  | none => none

/-- The calls of the function `name` in `line`, which starts at position `offset` of the whole line.
The scan goes on right behind the literal of a call, and behind the opening parenthesis of an
occurrence that is no call. -/
def sitesFrom (name : List UInt8) (offset : Nat) (line : List UInt8) : List Site :=
  match _h : line with
  | [] => []
  | _ :: rest =>
    if (name ++ [byte '(']).isPrefixOf line then
      let after := line.drop (name.length + 1)
      let arguments := skipBlanks after
      let start := offset + (line.length - arguments.length)
      match firstLiteral? arguments with
      | some n =>
        ⟨offset, start, start + n⟩ :: sitesFrom name (start + n) (arguments.drop n)
      | none => sitesFrom name (offset + name.length + 1) after
    else sitesFrom name (offset + 1) rest
termination_by line.length
decreasing_by
  all_goals subst _h
  · have := length_skipBlanks_le after
    simp only [after, List.length_drop, List.length_cons] at this
    simp only [List.length_drop, List.length_cons]
    omega
  · simp only [List.length_drop, List.length_cons]
    omega
  · simp

/-- The calls of the function `name` in a line, from left to right. -/
def sites (name line : List UInt8) : List Site := sitesFrom name 0 line

/-- The bytes from position `start` up to position `stop`. -/
def slice (bs : List UInt8) (start stop : Nat) : List UInt8 := (bs.drop start).take (stop - start)

/-- The first arguments of all calls of a function in a line, as written. -/
def literals (function line : String) : List Literal :=
  let bs := Utf8.bytes line
  (sites (Utf8.bytes function) bs).map fun site => ⟨Utf8.text (slice bs site.start site.stop)⟩

end MessageCatalog.Call
