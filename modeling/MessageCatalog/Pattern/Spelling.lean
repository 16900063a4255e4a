import MessageCatalog.Unicode.CharSet

/-! # Byte ranges

An automaton that reads bytes takes a character as one to four of them. `byteRanges` gives
the sequences of byte ranges that spell the members of a set: every sequence stands for the
characters whose bytes lie in its ranges, one by one.
-/

namespace MessageCatalog.Pattern

/-- A range of bytes, with both ends included. -/
abbrev ByteRange := Nat × Nat

def spell (x : Nat) : List Nat :=
  if x < 0x80 then [x]
  else if x < 0x800 then [0xC0 + x / 64, 0x80 + x % 64]
  else if x < 0x10000 then [0xE0 + x / 4096, 0x80 + x / 64 % 64, 0x80 + x % 64]
  else [0xF0 + x / 262144, 0x80 + x / 4096 % 64, 0x80 + x / 64 % 64, 0x80 + x % 64]

/-- The most bytes of a code point. -/
def maxSpelling : Nat := 4

/-- A cut inside a range of code points, so that both halves are nearer to having byte ranges of
their own: at the surrogates, where the number of bytes grows, or where leading bytes change. The
first half ends at the given code point. -/
def cut? (a b : Nat) : Option Nat :=
  let between (x : Nat) : Bool := a ≤ x && x < b
  if between 0xD7FF then some 0xD7FF
  else if between 0x7F then some 0x7F
  else if between 0x7FF then some 0x7FF
  else if between 0xFFFF then some 0xFFFF
  else if b < 0x80 then none
  else
    let byBlock (m : Nat) : Option Nat :=
      if a / m = b / m then none
      else if a % m ≠ 0 then some (a / m * m + m - 1)
      else if b % m ≠ m - 1 then some (b / m * m - 1)
      else none
    (byBlock 64).orElse fun _ => (byBlock 4096).orElse fun _ => byBlock 262144

/-- The sequences for the code points from `a` to `b`, surrogates left out, in increasing order. No
range has more than a few cuts, which bounds the rounds. -/
def byteRangesBetween : Nat → Nat → Nat → List (List ByteRange)
  | 0, _, _ => []
  | fuel + 1, a, b =>
    if 0xD800 ≤ a ∧ a ≤ 0xDFFF then
      if b ≤ 0xDFFF then [] else byteRangesBetween fuel 0xE000 b
    else if a > b then []
    else match cut? a b with
      | some m => byteRangesBetween fuel a m ++ byteRangesBetween fuel (m + 1) b
      | none => [(spell a).zip (spell b)]

/-- The sequences for the members of a set, in increasing order. -/
def byteRanges (set : CharSet) : List (List ByteRange) :=
  set.toList.flatMap fun range => byteRangesBetween 40 range.1 range.2

end MessageCatalog.Pattern
