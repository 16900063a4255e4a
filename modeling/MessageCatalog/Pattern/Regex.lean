import MessageCatalog.Unicode.CharSet

/-! # Regular expressions

The meaning of a pattern once its switches are resolved: texts, sets of characters, conditions on
places, groups, sequences, ordered alternatives and repetitions. The functions that put regular
expressions together leave out what has no effect and join what belongs together, so that the
automaton of a pattern stays small.
-/

namespace MessageCatalog.Pattern

/-- Conditions on the place between two characters. In those about words, `ascii` tells that only
ASCII characters count as word characters. -/
inductive Look where
  | textStart
  | textEnd
  | lineStart
  | lineEnd
  /-- Like `lineStart` and `lineEnd`, where a carriage return ends lines too and a carriage return
  with a line feed is one line end. -/
  | crlfLineStart
  | crlfLineEnd
  | wordBoundary (ascii : Bool)
  | notWordBoundary (ascii : Bool)
  | wordStart (ascii : Bool)
  | wordEnd (ascii : Bool)
  | wordStartHalf (ascii : Bool)
  | wordEndHalf (ascii : Bool)
  deriving Repr, DecidableEq

/-- A regular expression. Of several alternatives the first that leads to a match is taken; a
greedy repetition prefers more rounds, a lazy one fewer. -/
inductive Regex where
  | empty
  /-- A text, taken as it is. -/
  | literal (text : List Char)
  | chars (set : CharSet)
  | look (condition : Look)
  | group (index : Nat) (body : Regex)
  | seq (parts : List Regex)
  | alt (branches : List Regex)
  | rep (low : Nat) (high : Option Nat) (greedy : Bool) (body : Regex)
  deriving Repr, Inhabited

namespace Regex

/-! ## Lengths and groups -/

mutual

/-- The least number of characters of a match. There is none if some part never matches. -/
def minLength : Regex → Option Nat
  | .empty => some 0
  | .literal text => some text.length
  | .chars set => if set.ranges.isEmpty then none else some 1
  | .look _ => some 0
  | .group _ body => body.minLength
  | .seq parts => minLengthSum parts
  | .alt branches => minLengthLeast branches
  | .rep low _ _ body => body.minLength.map (low * ·)

/-- The least number of characters of matches of all parts in a row. -/
def minLengthSum : List Regex → Option Nat
  | [] => some 0
  | part :: parts => do return (← part.minLength) + (← minLengthSum parts)

/-- The least number of characters of a match of some branch. -/
def minLengthLeast : List Regex → Option Nat
  | [] => none
  | [branch] => branch.minLength
  | branch :: branches => do return min (← branch.minLength) (← minLengthLeast branches)

end

mutual

/-- The greatest number of characters of a match. There is none if matches have no bound, or if
some part never matches. -/
def maxLength : Regex → Option Nat
  | .empty => some 0
  | .literal text => some text.length
  | .chars set => if set.ranges.isEmpty then none else some 1
  | .look _ => some 0
  | .group _ body => body.maxLength
  | .seq parts => maxLengthSum parts
  | .alt branches => maxLengthGreatest branches
  | .rep _ high _ body => do return (← high) * (← body.maxLength)

/-- The greatest number of characters of matches of all parts in a row. -/
def maxLengthSum : List Regex → Option Nat
  | [] => some 0
  | part :: parts => do return (← part.maxLength) + (← maxLengthSum parts)

/-- The greatest number of characters of a match of some branch. -/
def maxLengthGreatest : List Regex → Option Nat
  | [] => none
  | [branch] => branch.maxLength
  | branch :: branches => do return max (← branch.maxLength) (← maxLengthGreatest branches)

end

/-- Whether all matches are empty. -/
def isEmptyOnly (regex : Regex) : Bool := regex.maxLength == some 0

mutual

def lastGroup : Regex → Nat
  | .group index body => max index body.lastGroup
  | .seq parts => lastGroups parts
  | .alt branches => lastGroups branches
  | .rep _ _ _ body => body.lastGroup
  | _ => 0

/-- The highest number of a group in any of several parts, or zero. -/
def lastGroups : List Regex → Nat
  | [] => 0
  | part :: parts => max part.lastGroup (lastGroups parts)

end

/-! ## Ends of the text -/

mutual

/-- Whether it shows that matches begin at the start of the text only. -/
def beginsText : Regex → Bool
  | .look condition => condition == .textStart
  | .group _ body => body.beginsText
  | .seq parts => someBeginsText parts
  | .alt branches => allBeginText branches
  | .rep low _ _ body => low != 0 && body.beginsText
  | _ => false

def someBeginsText : List Regex → Bool
  | [] => false
  | part :: parts => part.beginsText || (part.isEmptyOnly && someBeginsText parts)

def allBeginText : List Regex → Bool
  | [] => true
  | branch :: branches => branch.beginsText && allBeginText branches

end

mutual

/-- Whether it shows that matches end at the end of the text only. -/
def endsText : Regex → Bool
  | .look condition => condition == .textEnd
  | .group _ body => body.endsText
  | .seq parts => someEndsText parts
  | .alt branches => allEndText branches
  | .rep low _ _ body => low != 0 && body.endsText
  | _ => false

def someEndsText : List Regex → Bool
  | [] => false
  | part :: parts => someEndsText parts || (part.endsText && maxLengthSum parts == some 0)

def allEndText : List Regex → Bool
  | [] => true
  | branch :: branches => branch.endsText && allEndText branches

end

/-! ## Equality -/

mutual

/-- Whether two regular expressions are the same. -/
def same : Regex → Regex → Bool
  | .empty, .empty => true
  | .literal a, .literal b => a == b
  | .chars a, .chars b => a == b
  | .look a, .look b => a == b
  | .group i a, .group j b => i == j && a.same b
  | .seq as, .seq bs => sameAll as bs
  | .alt as, .alt bs => sameAll as bs
  | .rep low high greedy a, .rep low' high' greedy' b =>
    low == low' && high == high' && greedy == greedy' && a.same b
  | _, _ => false

/-- Whether two lists of regular expressions are the same. -/
def sameAll : List Regex → List Regex → Bool
  | [], [] => true
  | a :: as, b :: bs => a.same b && sameAll as bs
  | _, _ => false

end

/-! ## Putting together -/

/-- One character of a set. A set of one character is a text. -/
def ofSet (set : CharSet) : Regex :=
  match set.toList with
  | [(a, b)] => if a = b then .literal [Char.ofNat a] else .chars set
  | _ => .chars set

/-- A repetition. What matches nothing but the empty text is not repeated. Without rounds it is
empty, groups inside included. -/
def repeated (low : Nat) (high : Option Nat) (greedy : Bool) (body : Regex) : Regex :=
  let once := body.isEmptyOnly
  let low := if once then min low 1 else low
  let high := if once then some (min (high.getD 1) 1) else high
  if high = some 0 then .empty
  else if low = 1 ∧ high = some 1 then body
  else .rep low high greedy body

/-- The parts of a sequence; anything else is its only part, unless it is empty. -/
def parts : Regex → List Regex
  | .seq parts => parts
  | .empty => []
  | regex => [regex]

/-- The branches of a choice; anything else is its only branch. -/
def branches : Regex → List Regex
  | .alt branches => branches
  | regex => [regex]

/-- Put a part before others. Texts next to each other are one text. -/
def before : Regex → List Regex → List Regex
  | .literal text, .literal more :: rest => .literal (text ++ more) :: rest
  | part, rest => part :: rest

def ofParts : List Regex → Regex
  | [] => .empty
  | [part] => part
  | parts => .seq parts

def concat (regexes : List Regex) : Regex :=
  ofParts ((regexes.flatMap parts).foldr before [])

/-- The range of a text of one character. -/
def charRange? : Regex → Option (Nat × Nat)
  | .literal [c] => some (c.toNat, c.toNat)
  | _ => none

def setRanges? : Regex → Option (List (Nat × Nat))
  | .chars set => some set.toList
  | _ => none

/-- Branches of a choice, as they are. If all are characters or all are sets, the choice is a set,
since no two matches of them have different lengths. -/
def ofBranches (branches : List Regex) : Regex :=
  match branches with
  | [branch] => branch
  | _ =>
    match branches.mapM charRange? with
    | some ranges => ofSet (.ofRanges ranges)
    | none =>
      match branches.mapM setRanges? with
      | some ranges => ofSet (.ofRanges ranges.flatten)
      | none => .alt branches

/-- The parts that two lists begin with. -/
def common : List Regex → List Regex → List Regex
  | a :: as, b :: bs => if a.same b then a :: common as bs else []
  | _, _ => []

/-- The parts that all branches begin with, if all of them are sequences. -/
def commonParts : List Regex → List Regex
  | .seq parts :: branches =>
    branches.foldl (fun shared branch =>
      match branch with
      | .seq parts => common shared parts
      | _ => []) parts
  | _ => []

/-- A choice between several regular expressions. What all of them begin with stands before the
choice. -/
def choice (regexes : List Regex) : Regex :=
  let all := regexes.flatMap branches
  let shared := if all.length ≤ 1 then [] else commonParts all
  if shared.isEmpty then ofBranches all
  else
    let rests := all.map fun branch => ofParts (branch.parts.drop shared.length)
    concat (shared ++ [ofBranches (rests.flatMap branches)])

end Regex

end MessageCatalog.Pattern
