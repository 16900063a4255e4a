/-! # UTF-8

Characters as bytes and back. `Utf8.decode` reads a byte sequence or says where and how it stops
being UTF-8; `Utf8.decodeLossy` puts the replacement character in place of every faulty part.
-/

namespace MessageCatalog.Utf8

def encode (cs : List Char) : List UInt8 := cs.flatMap String.utf8EncodeChar

def bytes (s : String) : List UInt8 := encode s.toList

/-- Why no character can be read. -/
inductive Fault where
  /-- The next `length` bytes start no character. -/
  | malformed (length : Nat)
  /-- The bytes end inside a character. -/
  | truncated
  deriving Repr, DecidableEq

/-- What stands at the head of a byte sequence: a character that takes `more` bytes after the
first, or a fault. -/
inductive Head where
  | char (c : Char) (more : Nat)
  | fault (why : Fault)
  deriving Repr, DecidableEq

def isContinuation (b : UInt8) : Bool := 0x80 ≤ b && b ≤ 0xBF

/-- Whether `b` may follow the first byte `a` of a character of three or four bytes: this excludes
overlong forms, surrogates and numbers above the last code point. -/
def mayFollow (a b : UInt8) : Bool :=
  if a = 0xE0 then 0xA0 ≤ b && b ≤ 0xBF
  else if a = 0xED then 0x80 ≤ b && b ≤ 0x9F
  else if a = 0xF0 then 0x90 ≤ b && b ≤ 0xBF
  else if a = 0xF4 then 0x80 ≤ b && b ≤ 0x8F
  else isContinuation b

/-- The six low bits of a continuation byte. -/
def payload (b : UInt8) : Nat := b.toNat % 64

def headOfTwo (a : UInt8) : List UInt8 → Head
  | [] => .fault .truncated
  | b :: _ =>
    if isContinuation b then .char (Char.ofNat (a.toNat % 32 * 64 + payload b)) 1
    else .fault (.malformed 1)

def headOfThree (a : UInt8) : List UInt8 → Head
  | [] => .fault .truncated
  | b :: rest =>
    if mayFollow a b then
      match rest with
      | [] => .fault .truncated
      | c :: _ =>
        if isContinuation c then
          .char (Char.ofNat (a.toNat % 16 * 4096 + payload b * 64 + payload c)) 2
        else .fault (.malformed 2)
    else .fault (.malformed 1)

def headOfFour (a : UInt8) : List UInt8 → Head
  | [] => .fault .truncated
  | b :: rest =>
    if mayFollow a b then
      match rest with
      | [] => .fault .truncated
      | c :: rest =>
        if isContinuation c then
          match rest with
          | [] => .fault .truncated
          | d :: _ =>
            if isContinuation d then
              .char (Char.ofNat
                (a.toNat % 8 * 262144 + payload b * 4096 + payload c * 64 + payload d)) 3
            else .fault (.malformed 3)
        else .fault (.malformed 2)
    else .fault (.malformed 1)

/-- Read the character that starts with byte `a` and goes on in `rest`. -/
def head (a : UInt8) (rest : List UInt8) : Head :=
  if a < 0x80 then .char (Char.ofNat a.toNat) 0
  else if 0xC2 ≤ a && a ≤ 0xDF then headOfTwo a rest
  else if 0xE0 ≤ a && a ≤ 0xEF then headOfThree a rest
  else if 0xF0 ≤ a && a ≤ 0xF4 then headOfFour a rest
  else .fault (.malformed 1)

/-- Where and why a byte sequence is not UTF-8: all before `index` is. -/
structure Invalid where
  index : Nat
  fault : Fault
  deriving Repr, DecidableEq

def Invalid.message (e : Invalid) : String :=
  match e.fault with
  | .malformed n => s!"invalid utf-8 sequence of {n} bytes from index {e.index}"
  | .truncated => s!"incomplete utf-8 byte sequence from index {e.index}"

/-- The characters of a byte sequence that starts at position `index` of a larger one. -/
def decodeFrom (index : Nat) : List UInt8 → Except Invalid (List Char)
  | [] => .ok []
  | a :: rest =>
    match head a rest with
    | .char c more =>
      match decodeFrom (index + more + 1) (rest.drop more) with
      | .ok cs => .ok (c :: cs)
      | .error e => .error e
    | .fault why => .error ⟨index, why⟩
termination_by bs => bs.length
decreasing_by simp only [List.length_drop, List.length_cons]; omega

/-- The characters of a byte sequence, if it is UTF-8. -/
def decode (bs : List UInt8) : Except Invalid (List Char) := decodeFrom 0 bs

/-- The characters of a byte sequence, with the replacement character for each faulty part. -/
def decodeLossy : List UInt8 → List Char
  | [] => []
  | a :: rest =>
    match head a rest with
    | .char c more => c :: decodeLossy (rest.drop more)
    | .fault (.malformed n) => Char.ofNat 0xFFFD :: decodeLossy (rest.drop (n - 1))
    | .fault .truncated => [Char.ofNat 0xFFFD]
termination_by bs => bs.length
decreasing_by all_goals simp only [List.length_drop, List.length_cons]; omega

/-- The text of a byte sequence, with the replacement character for each faulty part. -/
def text (bs : List UInt8) : String := String.ofList (decodeLossy bs)

end MessageCatalog.Utf8
