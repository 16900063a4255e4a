import MessageCatalog.Text.Split

/-! # Sets of characters

A set of code points as sorted, disjoint ranges. Character classes of a search pattern and the
tables of character properties are values of this type; `CharSet.ofText` reads the compact text in
which the tables are written.
-/

namespace MessageCatalog

/-- A set of code points: ranges with both ends included, sorted, disjoint and never adjacent. -/
structure CharSet where
  ranges : Array (Nat × Nat)
  deriving Repr, DecidableEq, Inhabited

namespace CharSet

/-- The largest code point. -/
def maxCode : Nat := 0x10FFFF

def empty : CharSet := ⟨#[]⟩

/-- Join ranges that are sorted by their lower end and overlap or touch. -/
def joinSorted : List (Nat × Nat) → List (Nat × Nat)
  | [] => []
  | [r] => [r]
  | (a, b) :: (c, d) :: rest =>
    if c ≤ b + 1 then joinSorted ((a, max b d) :: rest)
    else (a, b) :: joinSorted ((c, d) :: rest)
termination_by rs => rs.length

/-- The set of all code points that lie in some range of the list. -/
def ofRanges (rs : List (Nat × Nat)) : CharSet :=
  ⟨(joinSorted ((rs.filter fun r => r.1 ≤ r.2).mergeSort fun r s => r.1 ≤ s.1)).toArray⟩

def range (a b : Nat) : CharSet := if a ≤ b then ⟨#[(a, b)]⟩ else empty

def singleton (c : Char) : CharSet := ⟨#[(c.toNat, c.toNat)]⟩

/-- The ranges in increasing order. -/
def toList (s : CharSet) : List (Nat × Nat) := s.ranges.toList

/-- Binary search among the ranges with an index from `lo` up to, but not including, `hi`. -/
def hasBetween (ranges : Array (Nat × Nat)) (x lo hi : Nat) : Bool :=
  if lo < hi then
    let mid := (lo + hi) / 2
    match ranges[mid]? with
    | none => false
    | some (a, b) =>
      if x < a then hasBetween ranges x lo mid
      else if b < x then hasBetween ranges x (mid + 1) hi
      else true
  else false
termination_by hi - lo

def hasCode (s : CharSet) (x : Nat) : Bool := hasBetween s.ranges x 0 s.ranges.size

def has (s : CharSet) (c : Char) : Bool := s.hasCode c.toNat

def union (s t : CharSet) : CharSet := ofRanges (s.toList ++ t.toList)

/-- The code point behind another. Surrogates, which are no characters, are passed over. -/
def codeAfter (x : Nat) : Nat := if x = 0xD7FF then 0xE000 else x + 1

/-- The code point before another. Surrogates are passed over. -/
def codeBefore (x : Nat) : Nat := if x = 0xE000 then 0xD7FF else x - 1

/-- The gaps behind a range that ends at `last`, between the ranges that follow. Two ranges that
end and begin on the two sides of the surrogates have these two ends as the gap between them. -/
def gapsAfter (last : Nat) : List (Nat × Nat) → List (Nat × Nat)
  | [] => if last < maxCode then [(codeAfter last, maxCode)] else []
  | (a, b) :: rest =>
    (min (codeAfter last) (codeBefore a), max (codeAfter last) (codeBefore a)) :: gapsAfter b rest

def complement (s : CharSet) : CharSet :=
  match s.toList with
  | [] => range 0 maxCode
  | (a, b) :: rest =>
    let front := if 0 < a then [(0, codeBefore a)] else []
    ⟨(front ++ gapsAfter b rest).toArray⟩

/-- What two lists of sorted ranges have in common. -/
def interSorted : List (Nat × Nat) → List (Nat × Nat) → List (Nat × Nat)
  | [], _ => []
  | _, [] => []
  | (a, b) :: rs, (c, d) :: ts =>
    let common := if max a c ≤ min b d then [(max a c, min b d)] else []
    if b < d then common ++ interSorted rs ((c, d) :: ts)
    else common ++ interSorted ((a, b) :: rs) ts
termination_by rs ts => rs.length + ts.length

def inter (s t : CharSet) : CharSet := ⟨(interSorted s.toList t.toList).toArray⟩

/-- What is left of sorted ranges without those of a second list. -/
def diffSorted : List (Nat × Nat) → List (Nat × Nat) → List (Nat × Nat)
  | [], _ => []
  | rs, [] => rs
  | (a, b) :: rs, (c, d) :: ts =>
    if b < c then (a, b) :: diffSorted rs ((c, d) :: ts)
    else if d < a then diffSorted ((a, b) :: rs) ts
    else
      let front := if a < c then [(a, codeBefore c)] else []
      if d < b then front ++ diffSorted ((codeAfter d, b) :: rs) ts
      else front ++ diffSorted rs ((c, d) :: ts)
termination_by rs ts => rs.length + ts.length

def diff (s t : CharSet) : CharSet := ⟨(diffSorted s.toList t.toList).toArray⟩

def symmDiff (s t : CharSet) : CharSet := (s.diff t).union (t.diff s)

/-- Whether every code point of the set is below 128. -/
def isAscii (s : CharSet) : Bool := s.ranges.all fun r => r.2 < 0x80

def hexDigit? (c : Char) : Option Nat :=
  if '0' ≤ c ∧ c ≤ '9' then some (c.toNat - '0'.toNat)
  else if 'A' ≤ c ∧ c ≤ 'F' then some (c.toNat - 'A'.toNat + 10)
  else if 'a' ≤ c ∧ c ≤ 'f' then some (c.toNat - 'a'.toNat + 10)
  else none

/-- The number that a run of hexadecimal digits stands for; other characters are passed over. -/
def hexNumber (cs : List Char) : Nat :=
  cs.foldl (fun n c => match hexDigit? c with | some d => 16 * n + d | none => n) 0

/-- The words of a text: its longest runs without blank and line feed. -/
def words (cs : List Char) : List (List Char) :=
  (splitAt (fun c => c = ' ' || c = '\n') cs).filter (· ≠ [])

/-- One range of a table: `41` or `41-5A`, in hexadecimal. -/
def rangeOfText (cs : List Char) : Nat × Nat :=
  match splitAt (· = '-') cs with
  | [a, b] => (hexNumber a, hexNumber b)
  | _ => (hexNumber cs, hexNumber cs)

/-- Read a table: ranges in hexadecimal, with blanks or line feeds between them. -/
def ofText (text : String) : CharSet := ofRanges ((words text.toList).map rangeOfText)

end CharSet

end MessageCatalog
