import MessageCatalog.Pattern.Regex
import MessageCatalog.Pattern.Spelling
import Std.Data.HashMap

/-! # Sizes of patterns

A pattern is refused when one of its two automata, for reading a text forwards and backwards, takes
more than `sizeLimit` bytes. The automata read bytes. They are not built here: an `Extent` counts
the states and links that building them would add, in the same order, since how much the states for
a set of characters share with each other depends on the numbers of these states.
-/

namespace MessageCatalog.Pattern

/-- The most bytes that an automaton may take. -/
def sizeLimit : Nat := 10485760

/-- Bytes of one state, without its links. -/
def stateSize : Nat := 32

/-- Bytes of a link from a state that reads one byte of several ranges. -/
def rangeSize : Nat := 8

/-- Bytes of a link from a state that chooses the next one without reading. -/
def branchSize : Nat := 4

/-- The two ways to read a text. -/
inductive Direction where
  | forward
  | backward
  deriving Repr, DecidableEq

/-- How much there is of an automaton: the number of its states, which is the number of the next
one, and the bytes of its links. -/
structure Extent where
  states : Nat
  linkBytes : Nat
  deriving Repr, DecidableEq

namespace Extent

def bytes (e : Extent) : Nat := stateSize * e.states + e.linkBytes

def isTooBig (e : Extent) : Bool := sizeLimit < e.bytes

def addStates (e : Extent) (count : Nat) : Extent := { e with states := e.states + count }

/-- Add a state that reads one byte of several ranges. -/
def addReader (e : Extent) (ranges : Nat) : Extent :=
  ⟨e.states + 1, e.linkBytes + rangeSize * ranges⟩

/-- Add a state that chooses between several ones. -/
def addChooser (e : Extent) (branches : Nat) : Extent :=
  ⟨e.states + 1, e.linkBytes + branchSize * branches⟩

/-- Build something `count` times. Nothing more is built once the automaton is too large. -/
def copies (build : Extent → Extent) : Nat → Extent → Extent
  | 0, e => e
  | count + 1, e => if e.isTooBig then e else copies build count (build e)

/-- An automaton that is too large already stays as it is. -/
theorem copies_of_isTooBig {build : Extent → Extent} {count : Nat} {e : Extent}
    (h : e.isTooBig = true) : copies build count e = e := by
  cases count with
  | zero => rfl
  | succ count => simp only [copies, h, if_true]

end Extent

/-! ## Sets of characters

A state that another one is equal to is not added again, as far as it is remembered: a table with a
fixed number of slots has room for one state in each slot.
-/

/-- Start of the slot numbers. -/
def slotSeed : UInt64 := 14695981039346656037

/-- Take a number into the number of a slot. -/
def mixSlot (slot : UInt64) (n : Nat) : UInt64 := (slot ^^^ n.toUInt64) * 1099511628211

/-- The links of a state that reads: byte ranges, and the states behind them. -/
abbrev Links := List (ByteRange × Nat)

/-- An automaton under construction, with the states of a set that are remembered. -/
structure Sharing where
  extent : Extent
  remembered : Std.HashMap Nat (Links × Nat)

namespace Sharing

/-- Nothing is remembered yet. -/
def ofExtent (e : Extent) : Sharing := ⟨e, ∅⟩

/-- The slot of a state with these links, in a table of `slots`. -/
def slot (slots : Nat) (links : Links) : Nat :=
  (links.foldl (fun h ((a, b), next) => mixSlot (mixSlot (mixSlot h a) b) next) slotSeed).toNat
    % slots

/-- The number of a state with these links, if it is remembered in its slot. -/
def number? (s : Sharing) (slot : Nat) (links : Links) : Option Nat :=
  match s.remembered[slot]? with
  | some (other, number) => if other == links then some number else none
  | none => none

/-- The number of a state with these links. Unless one is remembered, `add` adds it, and it takes
the slot of the state that was remembered there. -/
def state (s : Sharing) (add : Extent → Extent) (slot : Nat) (links : Links) : Nat × Sharing :=
  match s.number? slot links with
  | some number => (number, s)
  | none =>
    let number := s.extent.states
    (number, ⟨add s.extent, s.remembered.insert slot (links, number)⟩)

/-- Slots of the table for reading forwards. -/
def forwardSlots : Nat := 10000

/-- Slots of the table for reading backwards. -/
def backwardSlots : Nat := 1000

/-- Add the states that read sequences of byte ranges up to the state `last`, and give the first one
of them. The sequences are sorted; those that begin with the same range share the state behind it.
No sequence is longer than `length`. -/
def addForward (last : Nat) : Nat → List (List ByteRange) → Sharing → Nat × Sharing
  | 0, _, s => (last, s)
  | length + 1, seqs, s =>
    let groups := seqs.splitBy fun seq seq' => seq.head? == seq'.head?
    let (links, s) := groups.foldl (fun (links, s) group =>
      match group with
      | (range :: rest) :: _ =>
        let (next, s) :=
          if rest.isEmpty then (last, s)
          else addForward last length (group.map (·.drop 1)) s
        ((range, next) :: links, s)
      | _ => (links, s)) (([] : Links), s)
    let links := links.reverse
    s.state (·.addReader links.length) (slot forwardSlots links) links

/-- Add the states that read sequences of byte ranges from the last range to the first. Behind the
first range of each sequence stands the state `last`. -/
def addBackward (last : Nat) (seqs : List (List ByteRange)) (s : Sharing) : Sharing :=
  seqs.foldl (fun s seq =>
    (seq.foldl (fun (next, s) range =>
      s.state (·.addStates 1) (slotOfRange next range) [(range, next)]) (last, s)).2) s
where
  /-- The slot of a state that reads one range. -/
  slotOfRange (next : Nat) (range : ByteRange) : Nat :=
    (mixSlot (mixSlot (mixSlot slotSeed next) range.1) range.2).toNat % backwardSlots

end Sharing

/-- Build what reads one character of a set. -/
def Extent.addSet (direction : Direction) (e : Extent) (set : CharSet) : Extent :=
  if set.isAscii then (e.addStates 1).addReader set.ranges.size
  else
    let seqs := byteRanges set
    match direction with
    | .forward => (Sharing.addForward e.states maxSpelling seqs (.ofExtent (e.addStates 1))).2.extent
    | .backward =>
      let e := (e.addChooser seqs.length).addStates 1
      (Sharing.addBackward (e.states - 1) seqs (.ofExtent e)).extent

/-! ## Texts

A choice between texts is built as a tree, in which texts that begin alike share their beginnings.
-/

/-- Split the texts that come through a state at those that end there. Texts that end before any
goes on count once. -/
def runsBetweenEnds (texts : List (List Nat)) : List (List (List Nat)) :=
  let ends := texts.takeWhile List.isEmpty
  let runs := (texts.drop ends.length).foldr (fun text runs =>
    if text.isEmpty then [] :: runs
    else match runs with
      | run :: runs => (text :: run) :: runs
      | [] => [[text]]) [[]]
  if ends.isEmpty then runs else [] :: runs

/-- Build a choice between texts, given by their bytes; none is longer than `length`. Texts in one
run between ends share a state for their first bytes. -/
def Extent.addTree : Nat → List (List Nat) → Extent → Extent
  | 0, _, e => e
  | length + 1, texts, e =>
    let runs := runsBetweenEnds texts
    let filled := runs.filter (! ·.isEmpty)
    let e := filled.foldl (fun e run =>
      let firsts := (run.filterMap List.head?).eraseDups
      let e := firsts.foldl (fun e first =>
        let rests := (run.filter (·.head? == some first)).map (·.drop 1)
        if rests.all List.isEmpty then e else addTree length rests e) e
      if firsts.length = 1 then e.addStates 1 else e.addReader firsts.length) e
    e.addChooser (filled.length + (runs.length - 1))

def textBytes (text : List Char) : List Nat := text.flatMap fun c => spell c.toNat

/-- The bytes of a regular expression that is a text. -/
def Regex.textBytes? : Regex → Option (List Nat)
  | .literal text => some (textBytes text)
  | _ => none

/-! ## Regular expressions -/

/-- Build a repetition of what `build` builds, which may be empty or not. -/
def Extent.addRepetition (build : Extent → Extent) (mayBeEmpty : Bool) (low : Nat)
    (high : Option Nat) (e : Extent) : Extent :=
  match high with
  | none =>
    if low = 0 then
      if mayBeEmpty then (((build e).addChooser 2).addChooser 2).addStates 1
      else build (e.addChooser 2)
    else (copies build low e).addChooser 2
  | some high =>
    if low = 0 ∧ high = 1 then (build (e.addChooser 2)).addStates 1
    else
      let e := if low = 0 then e.addStates 1 else copies build low e
      if low = high then e
      else copies (fun e => build (e.addChooser 2)) (high - low) (e.addStates 1)

namespace Regex

mutual

/-- Build what reads the matches of a regular expression. Groups are noted forwards only. -/
def extend (direction : Direction) (e : Extent) : Regex → Extent
  | .empty => e.addStates 1
  | .literal text => e.addStates (textBytes text).length
  | .chars set => e.addSet direction set
  | .look _ => e.addStates 1
  | .group _ body =>
    match direction with
    | .forward => (body.extend direction (e.addStates 1)).addStates 1
    | .backward => body.extend direction e
  | .seq parts => extendSeq direction e parts
  | .alt branches =>
    match branches.mapM textBytes? with
    | some texts =>
      let texts := match direction with
        | .forward => texts
        | .backward => texts.map List.reverse
      (e.addStates 1).addTree ((texts.map List.length).max?.getD 0) texts
    | none => extendAlt direction branches.length 0 e branches
  | .rep low high _ body =>
    e.addRepetition (fun e => body.extend direction e) (!body.minLength.any (0 < ·)) low high

/-- Build parts in a row, in the order in which they are read. -/
def extendSeq (direction : Direction) (e : Extent) : List Regex → Extent
  | [] => e
  | part :: parts =>
    match direction with
    | .forward => extendSeq direction (part.extend direction e) parts
    | .backward => part.extend direction (extendSeq direction e parts)

/-- Build the branches of a choice, of which `built` stand already. The choice itself and its end
are built behind the second one. -/
def extendAlt (direction : Direction) (count built : Nat) (e : Extent) : List Regex → Extent
  | [] => e
  | branch :: branches =>
    let e := branch.extend direction e
    let e := if built = 1 then (e.addChooser count).addStates 1 else e
    extendAlt direction count (built + 1) e branches

end

/-- The extent of the automaton that reads in a direction. A match begins anywhere, unless it shows
that it begins where reading does. -/
def extent (direction : Direction) (regex : Regex) : Extent :=
  let anchored := match direction with
    | .forward => regex.beginsText
    | .backward => regex.endsText
  let start : Extent := ⟨0, 0⟩
  let start := if anchored then start.addStates 1
    else ((start.addChooser 2).addStates 1).addReader 1
  ((Regex.group 0 regex).extend direction start).addStates 1

def isTooBig (regex : Regex) : Bool :=
  (regex.extent .forward).isTooBig || (regex.extent .backward).isTooBig

end Regex

end MessageCatalog.Pattern
