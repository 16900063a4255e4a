import MessageCatalog.Pattern.Program
import MessageCatalog.Unicode.Property

/-! # Searching with programs

Runs a program on a text with all ways to match side by side, in the order of preference, one
character at a time. A way is dropped when one of higher preference has reached the same
instruction, so the time for a text is bounded by its length times the size of the program.
-/

namespace MessageCatalog.Pattern

/-- A place in a text: its index, and the characters on both sides. -/
structure Place where
  index : Nat
  before : Option Char
  after : Option Char
  deriving Repr, DecidableEq

def isWordChar (ascii : Bool) (c : Char) : Bool :=
  if ascii then c.isAlphanum || c = '_' else Unicode.wordCharacters.has c

namespace Look

def holds (p : Place) : Look → Bool
  | .textStart => p.before.isNone
  | .textEnd => p.after.isNone
  | .lineStart => p.before.isNone || p.before = some '\n'
  | .lineEnd => p.after.isNone || p.after = some '\n'
  | .crlfLineStart =>
    p.before.isNone || p.before = some '\n' || (p.before = some '\r' && p.after ≠ some '\n')
  | .crlfLineEnd =>
    p.after.isNone || p.after = some '\r' || (p.after = some '\n' && p.before ≠ some '\r')
  | .wordBoundary ascii => p.before.any (isWordChar ascii) != p.after.any (isWordChar ascii)
  | .notWordBoundary ascii => p.before.any (isWordChar ascii) == p.after.any (isWordChar ascii)
  | .wordStart ascii => !p.before.any (isWordChar ascii) && p.after.any (isWordChar ascii)
  | .wordEnd ascii => p.before.any (isWordChar ascii) && !p.after.any (isWordChar ascii)
  | .wordStartHalf ascii => !p.before.any (isWordChar ascii)
  | .wordEndHalf ascii => !p.after.any (isWordChar ascii)

end Look

/-- The places noted on one way to match, by slot. -/
abbrev Slots := Array (Option Nat)

/-- One way to match that is being followed: the instruction it waits at, and its notes. -/
structure Thread where
  pc : Nat
  slots : Slots
  deriving Repr

namespace Program

def size (p : Program) : Nat := p.code.size

def noSlots (p : Program) : Slots := Array.replicate (2 * p.groups) none

/-- Follow threads up to the instructions that take a character or end a match. `seen` marks the
instructions that some thread has reached at this place; the threads that wait are collected in
reverse. Every instruction is entered once and has two successors at most, which bounds the
rounds. -/
def settle (p : Program) (place : Place) :
    Nat → List Thread → Array Bool → List Thread → List Thread × Array Bool
  | 0, _, seen, waiting => (waiting, seen)
  | _ + 1, [], seen, waiting => (waiting, seen)
  | fuel + 1, t :: stack, seen, waiting =>
    if seen.getD t.pc true then settle p place fuel stack seen waiting
    else
      let seen := seen.setIfInBounds t.pc true
      match p.code[t.pc]? with
      | none => settle p place fuel stack seen waiting
      | some (.chars ..) => settle p place fuel stack seen (t :: waiting)
      | some .done => settle p place fuel stack seen (t :: waiting)
      | some (.split first second) =>
        settle p place fuel (⟨first, t.slots⟩ :: ⟨second, t.slots⟩ :: stack) seen waiting
      | some (.look condition next) =>
        if condition.holds place then settle p place fuel (⟨next, t.slots⟩ :: stack) seen waiting
        else settle p place fuel stack seen waiting
      | some (.save slot next) =>
        settle p place fuel (⟨next, t.slots.setIfInBounds slot (some place.index)⟩ :: stack) seen
          waiting

/-- Follow one thread from an instruction on. -/
def enter (p : Program) (place : Place) (t : Thread) (waiting : List Thread) (seen : Array Bool) :
    List Thread × Array Bool :=
  settle p place (2 * p.size + 2) [t] seen waiting

def unseen (p : Program) : Array Bool := Array.replicate p.size false

/-- Take a character with every thread, in the order of preference. A thread at the end of a match
gives the match and drops the threads after it. -/
def take (p : Program) (c : Char) (behind : Place) :
    List Thread → List Thread → Array Bool → List Thread × Array Bool × Option Slots
  | [], waiting, seen => (waiting, seen, none)
  | t :: threads, waiting, seen =>
    match p.code[t.pc]? with
    | some .done => (waiting, seen, some t.slots)
    | some (.chars set next) =>
      if set.has c then
        let (waiting, seen) := p.enter behind ⟨next, t.slots⟩ waiting seen
        take p c behind threads waiting seen
      else take p c behind threads waiting seen
    | _ => take p c behind threads waiting seen

/-- The notes of the first thread that is at the end of a match. -/
def firstDone? (p : Program) : List Thread → Option Slots
  | [] => none
  | t :: threads =>
    match p.code[t.pc]? with
    | some .done => some t.slots
    | _ => firstDone? p threads

/-- Search from a place on. `waiting` holds the threads at this place in reverse, and `best` the
preferred match so far; while there is none, a new thread begins at every place. -/
def searchFrom (p : Program) (index : Nat) (before : Option Char) (waiting : List Thread)
    (seen : Array Bool) (best : Option Slots) : List Char → Option Slots
  | [] =>
    let place : Place := ⟨index, before, none⟩
    let waiting :=
      if best.isSome then waiting else (p.enter place ⟨p.start, p.noSlots⟩ waiting seen).1
    match p.firstDone? waiting.reverse with
    | some slots => some slots
    | none => best
  | c :: rest =>
    let place : Place := ⟨index, before, some c⟩
    let waiting :=
      if best.isSome then waiting else (p.enter place ⟨p.start, p.noSlots⟩ waiting seen).1
    if waiting.isEmpty && best.isSome then best
    else
      let behind : Place := ⟨index + 1, some c, rest.head?⟩
      let (next, seen, found) := p.take c behind waiting.reverse [] p.unseen
      searchFrom p (index + 1) (some c) next seen (found.orElse fun _ => best) rest

/-- The first match from a place on. -/
def search? (p : Program) (index : Nat) (before : Option Char) (rest : List Char) : Option Slots :=
  p.searchFrom index before [] p.unseen none rest

def matchEnd (slots : Slots) : Nat := (slots.getD 1 none).getD 0

def isEmptyMatch (slots : Slots) : Bool := slots.getD 0 none == slots.getD 1 none

/-- All matches from a place on, from left to right, none overlapping another. After a match ended
at the place (`touching`), an empty match there does not count: the search goes on one character
further. -/
def matchesFrom (p : Program) (index : Nat) (before : Option Char) (touching : Bool)
    (rest : List Char) : List Slots :=
  match p.search? index before rest with
  | none => []
  | some slots =>
    let stop := matchEnd slots
    if touching && isEmptyMatch slots && stop == index then
      match rest with
      | [] => []
      | c :: rest => matchesFrom p (index + 1) (some c) false rest
    else
      let taken := rest.take (stop - index)
      let behind := rest.drop (stop - index)
      if behind.length < rest.length then
        slots :: matchesFrom p stop (taken.getLast?.orElse fun _ => before) true behind
      else if touching then [slots]
      else slots :: matchesFrom p index before true rest
termination_by (rest.length, if touching then 0 else 1)
decreasing_by
  · exact Prod.Lex.left _ _ (Nat.lt_succ_self _)
  · exact Prod.Lex.left _ _ (by assumption)
  · refine Prod.Lex.right _ ?_
    simp_all

def allMatches (p : Program) (text : List Char) : List Slots := p.matchesFrom 0 none false text

end Program

end MessageCatalog.Pattern
