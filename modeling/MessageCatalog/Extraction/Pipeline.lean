import Mathlib
import MessageCatalog.Extraction
import MessageCatalog.Traversal.Schedule

/-! # Pipelines

How roots are extracted by workers that go on at the same time: a root is traversed while its
groups are written. The sink takes bytes in portions and may refuse them at any time. A writer
whose bytes are refused goes away, and the traversal finds no consumer then; the root is done with
when both have come to an end. As in schedules of directories, `State.step?` tells what an event
does, whichever worker it belongs to.
-/

namespace MessageCatalog.Pipeline

open Schedule (FileWork Limits)

/-- What there is to find at a root. -/
inductive RootWork where
  /-- The root cannot be examined. -/
  | missing (e : Failure)
  | file (work : FileWork)
  /-- The files that are listed below a directory, and the failure of the listing if it has one. -/
  | directory (works : List FileWork) (failure : Option Failure)
  /-- What is neither file nor directory. -/
  | special
  deriving Repr, DecidableEq

/-- What reading a file gives. -/
def fileWork (rules : Rules) (t : FileTree) (cwd path : String) : FileWork :=
  let (groups, failure) := Traversal.file rules t cwd path
  ⟨path, groups, failure⟩

namespace RootWork

/-- What there is to find at a root in a tree of files. -/
def ofRoot (rules : Rules) (t : FileTree) (cwd path : String) : RootWork :=
  match t.stat cwd path with
  | .error e => .missing (.stat path (.os e))
  | .ok (_, .file _) => .file (fileWork rules t cwd path)
  | .ok (_, .directory _) =>
    let listing := Listing.ofRoot rules.filter t cwd path
    .directory (listing.files.map (fileWork rules t cwd)) listing.failure
  | .ok (_, _) => .special

/-- The groups of a root. A file that fails has those before its failure. -/
def groups : RootWork → List MessageGroup
  | .missing _ => []
  | .file work => work.groups
  | .directory works _ => works.flatMap FileWork.groups
  | .special => []

/-- All that a root can fail with. -/
def failures : RootWork → List Failure
  | .missing e => [e]
  | .file work => work.failure.toList
  | .directory works failure => failure.toList ++ works.filterMap FileWork.failure
  | .special => []

def files : RootWork → Nat
  | .missing _ => 0
  | .file _ => 1
  | .directory works _ => works.length
  | .special => 0

def entries (root : RootWork) : Nat := (root.groups.map MessageGroup.size).sum

def text (root : RootWork) : String := Catalog.renderRoot root.groups

def texts : List RootWork → String
  | [] => ""
  | root :: roots => root.text ++ texts roots

/-- The roots up to the first one that fails, and this one. -/
def throughFailure : List RootWork → List RootWork
  | [] => []
  | root :: roots => if root.failures = [] then root :: throughFailure roots else [root]

end RootWork

/-- The traversal of a root that is no directory: its groups are handed over one by one. -/
structure Direct where
  /-- Groups that are still to be handed over. -/
  left : List MessageGroup
  failure : Option Failure
  files : Nat
  /-- Groups that wait for the consumer. -/
  sink : List MessageGroup
  consumed : List MessageGroup
  consumerGone : Bool
  /-- What the traversal gave, once it has returned. -/
  result : Option (Except Failure Nat)
  deriving Repr

namespace Direct

/-- A traversal before its first event. -/
def start (groups : List MessageGroup) (failure : Option Failure) (files : Nat) : Direct :=
  ⟨groups, failure, files, [], [], false, none⟩

def hand? (l : Limits) (d : Direct) : Option Direct :=
  match d.left with
  | g :: rest =>
    if d.result.isNone then
      -- Without a consumer the traversal returns as if it had come to its end.
      if d.consumerGone then some { d with result := some (.ok d.files) }
      else if d.sink.length < l.groupBuffer then
        some { d with left := rest, sink := d.sink ++ [g] }
      else none
    else none
  | [] => none

def idle? (d : Direct) : Option Direct :=
  if d.left.isEmpty && d.result.isNone then
    match d.failure with
    | some e => some { d with result := some (.error e) }
    | none => some { d with result := some (.ok d.files) }
  else none

def consume? (d : Direct) : Option Direct :=
  match d.sink with
  | g :: rest =>
    if d.consumerGone then none else some { d with sink := rest, consumed := d.consumed ++ [g] }
  | [] => none

def quit? (d : Direct) : Option Direct :=
  if d.consumerGone then none else some { d with consumerGone := true }

/-- What an event does, where it is possible. There is nothing to list and nothing to join. -/
def step? (l : Limits) (d : Direct) : Schedule.Event → Option Direct
  | .hand => d.hand? l
  | .idle => d.idle?
  | .consume => d.consume?
  | .quit => d.quit?
  | _ => none

end Direct

/-- A root that is being traversed. -/
inductive Traversing where
  | direct (d : Direct)
  | directory (s : Schedule.State)
  deriving Repr

namespace Traversing

/-- The traversal of a root before its first event. -/
def start : RootWork → Traversing
  | .missing e => .direct (.start [] (some e) 0)
  | .file work => .direct (.start work.groups work.failure 1)
  | .directory works failure => .directory (.initial works failure)
  | .special => .direct (.start [] none 0)

def sink : Traversing → List MessageGroup
  | .direct d => d.sink
  | .directory s => s.sink

def consumed : Traversing → List MessageGroup
  | .direct d => d.consumed
  | .directory s => s.consumed

def consumerGone : Traversing → Bool
  | .direct d => d.consumerGone
  | .directory s => s.consumerGone

def result : Traversing → Option (Except Failure Nat)
  | .direct d => d.result
  | .directory s => s.result

def step? (l : Limits) (tr : Traversing) (event : Schedule.Event) : Option Traversing :=
  match tr with
  | .direct d => (d.step? l event).map .direct
  | .directory s => (s.step? l event).map .directory

end Traversing

/-- What becomes of the groups of a root. -/
inductive Writing where
  /-- The writer waits for a group. -/
  | waiting
  /-- A group is written, of whose text the sink has still to take `left`. -/
  | writing (left : List UInt8) (g : MessageGroup)
  /-- The writer has come to its end. -/
  | ended (outcome : Except Failure Unit)
  deriving Repr

/-- Where an extraction stands. -/
inductive Stage where
  /-- A root is done with, or none has begun. -/
  | between
  /-- The head of a root is written, of which the sink has still to take `left`. -/
  | header (root : RootWork) (left : List UInt8)
  /-- A root is traversed, and its groups are written. -/
  | body (root : RootWork) (traversal : Traversing) (writing : Writing)
  /-- All groups of a root are written, which has this number of files. -/
  | flushing (root : RootWork) (files : Nat)
  deriving Repr

namespace Stage

def root? : Stage → Option RootWork
  | .between => none
  | .header root _ => some root
  | .body root _ _ => some root
  | .flushing root _ => some root

/-- What the sink has still to take of the text that is being written. -/
def left : Stage → List UInt8
  | .header _ left => left
  | .body _ _ (.writing left _) => left
  | _ => []

/-- The same text is written, with less of it to take. -/
def setLeft (left : List UInt8) : Stage → Stage
  | .header root _ => .header root left
  | .body root traversal (.writing _ g) => .body root traversal (.writing left g)
  | stage => stage

end Stage

/-- An extraction at work. -/
structure State where
  /-- Roots that are done with. -/
  done : List RootWork
  stage : Stage
  /-- Roots that have not begun. -/
  later : List RootWork
  /-- The bytes that the sink has taken. -/
  accepted : List UInt8
  /-- The bytes that it had taken when it was last flushed. -/
  flushed : List UInt8
  files : Nat
  entries : Nat
  /-- What the extraction gave, once it has returned. -/
  result : Option (Except Failure Summary)
  deriving Repr

/-- What can happen next. -/
inductive Event where
  /-- The next root begins. -/
  | begin
  /-- The sink takes some of the bytes that it is offered. -/
  | accept (count : Nat)
  /-- The sink refuses the bytes that it is offered. -/
  | refuse (cause : Cause)
  /-- The sink has taken all of a head or of a group. -/
  | wrote
  /-- The traversal goes on. -/
  | traverse (event : Schedule.Event)
  /-- The writer receives a group. -/
  | receive
  /-- The writer finds that the traversal has returned, and that all groups are received. -/
  | close
  /-- Traversal and writer have both come to their end. -/
  | join
  /-- The sink is flushed. -/
  | flush
  /-- The sink refuses to be flushed. -/
  | refuseFlush (cause : Cause)
  /-- All roots are done with. -/
  | finish
  deriving Repr, DecidableEq

/-- Whether an event is a refusal of the sink. -/
def Event.isRefusal : Event → Bool
  | .refuse _ => true
  | .refuseFlush _ => true
  | _ => false

namespace State

def finishWith (s : State) (result : Except Failure Summary) : State :=
  { s with result := some result }

def begin? (s : State) : Option State :=
  match s.stage, s.later with
  | .between, root :: later =>
    some { s with stage := .header root (Utf8.bytes Catalog.header), later := later }
  | _, _ => none

def accept? (s : State) (count : Nat) : Option State :=
  let left := s.stage.left
  if 0 < count && count ≤ left.length then
    some { s with
      stage := s.stage.setLeft (left.drop count)
      accepted := s.accepted ++ left.take count }
  else none

def refuse? (l : Limits) (s : State) (cause : Cause) : Option State :=
  match s.stage with
  | .header _ (_ :: _) => some (s.finishWith (.error (.output cause)))
  | .body root tr (.writing (_ :: _) _) =>
    -- The writer takes the receiving end of the groups with it.
    match tr.step? l .quit with
    | some tr => some { s with stage := .body root tr (.ended (.error (.output cause))) }
    | none => none
  | _ => none

def wrote? (s : State) : Option State :=
  match s.stage with
  | .header root [] => some { s with stage := .body root (.start root) .waiting }
  | .body root tr (.writing [] g) =>
    some { s with stage := .body root tr .waiting, entries := s.entries + g.size }
  | _ => none

def traverse? (l : Limits) (s : State) (event : Schedule.Event) : Option State :=
  match s.stage with
  | .body root tr writing =>
    -- What the consumer does is up to the writer.
    if event = .consume || event = .quit then none
    else (tr.step? l event).map fun tr => { s with stage := .body root tr writing }
  | _ => none

def receive? (l : Limits) (s : State) : Option State :=
  match s.stage with
  | .body root tr .waiting =>
    match tr.sink, tr.step? l .consume with
    | g :: _, some tr =>
      some { s with stage := .body root tr (.writing (Utf8.bytes (Catalog.renderGroup g)) g) }
    | _, _ => none
  | _ => none

def close? (s : State) : Option State :=
  match s.stage with
  | .body root tr .waiting =>
    if tr.sink.isEmpty && tr.result.isSome then
      some { s with stage := .body root tr (.ended (.ok ())) }
    else none
  | _ => none

def join? (s : State) : Option State :=
  match s.stage with
  | .body root tr (.ended outcome) =>
    -- A failure of the traversal is reported before one of the writer.
    match tr.result, outcome with
    | some (.error e), _ => some (s.finishWith (.error e))
    | some (.ok _), .error e => some (s.finishWith (.error e))
    | some (.ok files), .ok () => some { s with stage := .flushing root files }
    | none, _ => none
  | _ => none

def flush? (s : State) : Option State :=
  match s.stage with
  | .flushing root files =>
    some { s with
      done := s.done ++ [root]
      stage := .between
      flushed := s.accepted
      files := s.files + files }
  | _ => none

def refuseFlush? (s : State) (cause : Cause) : Option State :=
  match s.stage with
  | .flushing _ _ => some (s.finishWith (.error (.output cause)))
  | _ => none

def finish? (s : State) : Option State :=
  match s.stage, s.later with
  | .between, [] => some (s.finishWith (.ok ⟨s.done.length, s.files, s.entries⟩))
  | _, _ => none

/-- What an event does, where it is possible. Nothing happens after the extraction has returned. -/
def step? (l : Limits) (s : State) (event : Event) : Option State :=
  if s.result.isSome then none
  else
    match event with
    | .begin => s.begin?
    | .accept count => s.accept? count
    | .refuse cause => s.refuse? l cause
    | .wrote => s.wrote?
    | .traverse event => s.traverse? l event
    | .receive => s.receive? l
    | .close => s.close?
    | .join => s.join?
    | .flush => s.flush?
    | .refuseFlush cause => s.refuseFlush? cause
    | .finish => s.finish?

/-- What a sequence of events does, where all of them are possible. -/
def steps? (l : Limits) (s : State) : List Event → Option State
  | [] => some s
  | event :: events =>
    match s.step? l event with
    | some s => s.steps? l events
    | none => none

def initial (works : List RootWork) : State := ⟨[], .between, works, [], [], 0, 0, none⟩

/-- What an extraction gave, with the text that its sink has taken. -/
def outcome? (s : State) : Option (Except Failure (String × Summary)) :=
  s.result.map fun result => result.map fun summary => (Utf8.text s.accepted, summary)

end State

/-- What can be reached from a state, with refusals of the sink only if it `mayRefuse`. -/
inductive Reachable (l : Limits) (mayRefuse : Prop) (start : State) : State → Prop where
  | refl : Reachable l mayRefuse start start
  | step {s s' : State} {event : Event} (before : Reachable l mayRefuse start s)
    (allowed : event.isRefusal = true → mayRefuse) (next : s.step? l event = some s') :
    Reachable l mayRefuse start s'

namespace State

/-- Events that may be possible. The sink takes all that it is offered. -/
def candidates (s : State) : List Event :=
  let traversal : List Event :=
    match s.stage with
    | .body _ (.directory s) _ => s.candidates.map .traverse
    | _ => [.traverse .hand, .traverse .idle]
  [.begin, .accept s.stage.left.length, .wrote, .receive] ++ traversal ++
    [.close, .join, .flush, .finish]

/-- Take the first possible event. -/
def next? (l : Limits) (s : State) : Option State := s.candidates.findSome? (s.step? l)

/-- Take the first possible event again and again, `fuel` times at most. -/
def run (l : Limits) : Nat → State → State
  | 0, s => s
  | fuel + 1, s =>
    match s.next? l with
    | some s => run l fuel s
    | none => s

end State

theorem State.isRefusal_of_mem_candidates {s : State} {event : Event} (h : event ∈ s.candidates) :
    event.isRefusal = false := by
  simp only [candidates, List.mem_append, List.mem_cons, List.not_mem_nil, or_false] at h
  rcases h with (h | h) | h
  · rcases h with rfl | rfl | rfl | rfl <;> rfl
  · split at h
    · obtain ⟨_, _, rfl⟩ := List.mem_map.mp h
      rfl
    · simp only [List.mem_cons, List.not_mem_nil, or_false] at h
      rcases h with rfl | rfl <;> rfl
  · rcases h with rfl | rfl | rfl | rfl <;> rfl

theorem Reachable.run {l : Limits} {mayRefuse : Prop} {start s : State} (fuel : Nat)
    (hs : Reachable l mayRefuse start s) : Reachable l mayRefuse start (s.run l fuel) := by
  induction fuel generalizing s with
  | zero => exact hs
  | succ fuel ih =>
    simp only [State.run]
    split
    · rename_i next hnext
      obtain ⟨event, hmem, hevent⟩ := List.exists_of_findSome?_eq_some hnext
      have accepts := State.isRefusal_of_mem_candidates hmem
      exact ih (.step hs (fun refusal => by simp [accepts] at refusal) hevent)
    · exact hs

end MessageCatalog.Pipeline
