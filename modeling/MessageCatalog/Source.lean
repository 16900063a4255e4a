import MessageCatalog.Message
import MessageCatalog.Settings

/-! # Sources

The text of a source is read line by line, and every line with messages gives a group. Lines end at
a line feed, perhaps with a carriage return before it; what follows the last line feed is a line of
its own, unless nothing does.
-/

namespace MessageCatalog.Source

/-- The byte that ends lines. -/
def lineFeed : UInt8 := 0x0A

/-- The byte that may stand before the one that ends a line. -/
def carriageReturn : UInt8 := 0x0D

/-- A line without the carriage return that may stand at its end. -/
def dropReturn (line : List UInt8) : List UInt8 :=
  if line.getLast? = some carriageReturn then line.dropLast else line

/-- The number of bytes that are read at a time. -/
def blockSize : Nat := 8192

/-- The blocks in which the lines of a text end, for a text that starts at some position. The last
line has no entry if no line feed ends it. -/
def lineBlocks (position : Nat) : List UInt8 → List Nat
  | [] => []
  | b :: rest =>
    if b = lineFeed then position / blockSize :: lineBlocks (position + 1) rest
    else lineBlocks (position + 1) rest

/-- The first line and what follows it, unless nothing is left. -/
def takeLine (bs : List UInt8) : Option (List UInt8 × List UInt8) :=
  let line := bs.takeWhile (· ≠ lineFeed)
  match bs.drop line.length with
  | _ :: rest => some (dropReturn line, rest)
  | [] => if bs.isEmpty then none else some (bs, [])

theorem length_lt_of_takeLine {bs line rest : List UInt8} (h : takeLine bs = some (line, rest)) :
    rest.length < bs.length := by
  simp only [takeLine] at h
  split at h
  · rename_i b more hdrop
    cases h
    have := congrArg List.length hdrop
    simp only [List.length_drop, List.length_cons] at this
    omega
  · split at h
    · cases h
    · rename_i hne
      cases h
      simpa [List.length_pos_iff] using hne

end Source

/-- A source that is being read: what is left of it, and the lines read so far. -/
structure Source where
  rules : Rules
  path : String
  rest : List UInt8
  linesRead : Nat
  deriving Repr

namespace Source

def ofBytes (rules : Rules) (path : String) (content : List UInt8) : Source :=
  ⟨rules, path, content, 0⟩

/-- The messages of a line, spelled as in catalogs. -/
def texts (rules : Rules) (line : List Char) : List String :=
  (rules.matcher.literals (String.ofList line)).map Literal.normalized

/-- Read on to the next line with messages. A line that is not UTF-8 is taken but not counted. -/
def next (s : Source) : Except Failure (Option MessageGroup) × Source :=
  match _h : takeLine s.rest with
  | none => (.ok none, s)
  | some (line, rest) =>
    match Utf8.decode line with
    | .error e => (.error (.read s.path (.line e)), { s with rest := rest })
    | .ok cs =>
      let number := s.linesRead + 1
      match texts s.rules cs with
      | [] => next { s with rest := rest, linesRead := number }
      | text :: more =>
        (.ok (some ⟨⟨s.rules.displayPath s.path, number⟩, text :: more⟩),
          { s with rest := rest, linesRead := number })
termination_by s.rest.length
decreasing_by exact length_lt_of_takeLine _h

theorem length_rest_lt_of_next {s s' : Source} {g : MessageGroup} (h : s.next = (.ok (some g), s')) :
    s'.rest.length < s.rest.length := by
  fun_induction next s with
  | case1 => cases h
  | case2 => cases h
  | case3 s line rest hline cs hcs number ht ih =>
    have := ih h
    have := length_lt_of_takeLine hline
    simp only at *
    omega
  | case4 s line rest hline cs hcs number text more ht =>
    cases h
    exact length_lt_of_takeLine hline

/-- All groups that are left, up to the first failure if there is one. -/
def drain (s : Source) : List MessageGroup × Option Failure :=
  match _h : s.next with
  | (.error e, _) => ([], some e)
  | (.ok none, _) => ([], none)
  | (.ok (some g), s') =>
    let (groups, failure) := s'.drain
    (g :: groups, failure)
termination_by s.rest.length
decreasing_by exact length_rest_lt_of_next _h

/-- How many of some groups of a text are found block by block: a block is gone through at once, and
before the next one is there its groups can be heard. -/
def bursts (content : List UInt8) (groups : List MessageGroup) : List Nat :=
  let blocks := (lineBlocks 0 content).toArray
  let block (g : MessageGroup) : Option Nat := blocks[g.location.line - 1]?
  (groups.splitBy fun a b => block a = block b).map List.length

/-- All groups that are left, if none of the lines fails. -/
def collect (s : Source) : Except Failure (List MessageGroup) :=
  match s.drain with
  | (groups, none) => .ok groups
  | (_, some e) => .error e

end Source

end MessageCatalog
