import MessageCatalog.Progress
import MessageCatalog.Traversal

/-! # Schedules

How a directory is traversed by several workers at once. A walker lists files, every file is read by
a run of its own, and an aggregator starts runs, joins them and hands their groups to a consumer, the
groups of the oldest run first. Bounded buffers stand between all of them. `State.step?` tells what
an event does, whichever worker it belongs to, so that a schedule is any sequence of events that are
possible one after another.
-/

namespace MessageCatalog.Schedule

/-- How much may be open or wait at a time. -/
structure Limits where
  /-- Runs that were started and are not drained. -/
  openFiles : Nat
  /-- Files that wait for a run; while there are so many, the listing is not heard. -/
  queuedFiles : Nat
  /-- What the walker has listed and the aggregator has not heard. -/
  listingBuffer : Nat
  /-- Groups of one run that the aggregator has not received. -/
  fileBuffer : Nat
  /-- Groups that the consumer has not received. -/
  groupBuffer : Nat
  deriving Repr, DecidableEq

/-- The limits of every traversal. -/
def Limits.standard : Limits where
  openFiles := 32
  queuedFiles := 256
  listingBuffer := 64
  fileBuffer := Traversal.fileBuffer
  groupBuffer := 32

/-- What reading a file gives: its groups up to its failure, if it has one. -/
structure FileWork where
  path : String
  groups : List MessageGroup
  failure : Option Failure
  deriving Repr, DecidableEq

/-- What the walker lists. -/
inductive Listed where
  | file (work : FileWork)
  | failed (e : Failure)
  deriving Repr, DecidableEq

/-- A run that was started. -/
structure Run where
  work : FileWork
  /-- Groups that are still to be found. -/
  left : List MessageGroup
  /-- Groups that wait for the aggregator, the oldest first. -/
  buffer : List MessageGroup
  ended : Bool
  joined : Bool
  deriving Repr, DecidableEq

/-- A run at its start. -/
def Run.start (work : FileWork) : Run := ⟨work, work.groups, [], false, false⟩

/-- All workers of a traversal and the buffers between them. -/
structure State where
  /-- What the walker has still to list. -/
  unlisted : List Listed
  /-- What was listed and not heard, the oldest first. -/
  listing : List Listed
  walkerGone : Bool
  progress : Progress
  /-- Files that wait for a run. -/
  queued : List FileWork
  /-- All runs in the order of their start. -/
  runs : List Run
  /-- How many of the first runs are drained: they have ended and all of their groups were
  received. -/
  drained : Nat
  /-- A group that the aggregator received and has still to hand over. -/
  sending : Option MessageGroup
  /-- Groups that wait for the consumer. -/
  sink : List MessageGroup
  consumed : List MessageGroup
  consumerGone : Bool
  /-- What the traversal gave, once it has returned. -/
  result : Option (Except Failure Nat)
  deriving Repr

/-- What can happen next. Runs are counted in the order of their start. -/
inductive Event where
  /-- The walker lists one more file, or fails. -/
  | list
  /-- The walker goes away after its last file or its failure. -/
  | leave
  /-- A run finds its next group. -/
  | push (run : Nat)
  /-- A run ends. -/
  | finish (run : Nat)
  /-- The aggregator starts the run of the file that waits longest. -/
  | start
  /-- The aggregator takes note of a run that has ended. -/
  | join (run : Nat)
  /-- The aggregator receives a group of the oldest run. -/
  | receive
  /-- The aggregator finds that the oldest run is drained. -/
  | drain
  /-- The aggregator hears the walker, or that it has gone away. -/
  | hear
  /-- The aggregator finds that nothing is left to wait for. -/
  | idle
  /-- The aggregator hands a group to the consumer, or finds that it has gone away. -/
  | hand
  /-- The consumer receives a group. -/
  | consume
  /-- The consumer goes away. -/
  | quit
  deriving Repr, DecidableEq

namespace State

/-- Runs that are not drained, the oldest first. -/
def pending (s : State) : List Run := s.runs.drop s.drained

def handed (s : State) : List MessageGroup := s.consumed ++ s.sink

/-- Whether the traversal has not returned. -/
def isActive (s : State) : Bool := s.result.isNone

def canStart (l : Limits) (s : State) : Bool :=
  !s.queued.isEmpty && s.pending.length < l.openFiles

/-- Whether the aggregator waits for what happens next: it has nothing to hand over and no run to
start. -/
def isWaiting (l : Limits) (s : State) : Bool :=
  s.isActive && s.sending.isNone && !s.canStart l

/-- Whether the aggregator wants to hear the walker. -/
def wantsListing (l : Limits) (s : State) : Bool :=
  !s.progress.listingDone && s.queued.length < l.queuedFiles

def finishWith (s : State) (result : Except Failure Nat) : State :=
  { s with result := some result }

/-- The traversal returns the number of its files. -/
def succeed (s : State) : State := s.finishWith (.ok s.progress.discovered)

/-- The traversal returns if it is complete and all runs are drained. -/
def settle (s : State) (complete : Bool) : State :=
  if complete && s.pending.isEmpty then s.succeed else s

def setRun (s : State) (run : Nat) (r : Run) : State := { s with runs := s.runs.set run r }

/-- The walker lists what comes next. -/
def list? (l : Limits) (s : State) : Option State :=
  match s.unlisted with
  | item :: rest =>
    if s.isActive && s.listing.length < l.listingBuffer then
      some { s with unlisted := rest, listing := s.listing ++ [item] }
    else none
  | [] => none

def leave? (s : State) : Option State :=
  if s.isActive && s.unlisted.isEmpty && !s.walkerGone then some { s with walkerGone := true }
  else none

/-- A run finds its next group. -/
def push? (l : Limits) (s : State) (run : Nat) : Option State :=
  match s.runs[run]? with
  | some r =>
    match r.left with
    | g :: rest =>
      if s.isActive && r.buffer.length < l.fileBuffer then
        some (s.setRun run { r with left := rest, buffer := r.buffer ++ [g] })
      else none
    | [] => none
  | none => none

def finish? (s : State) (run : Nat) : Option State :=
  match s.runs[run]? with
  | some r =>
    if s.isActive && r.left.isEmpty && !r.ended then some (s.setRun run { r with ended := true })
    else none
  | none => none

def start? (l : Limits) (s : State) : Option State :=
  match s.queued with
  | work :: rest =>
    if s.isActive && s.sending.isNone && s.canStart l then
      some { s with queued := rest, runs := s.runs ++ [Run.start work] }
    else none
  | [] => none

/-- The aggregator joins a run. A failed run ends the traversal. -/
def join? (l : Limits) (s : State) (run : Nat) : Option State :=
  match s.runs[run]? with
  | some r =>
    if s.isWaiting l && r.ended && !r.joined then
      let s := s.setRun run { r with joined := true }
      match r.work.failure with
      | some e => some (s.finishWith (.error e))
      | none =>
        let (complete, progress) := s.progress.childFinished
        some ({ s with progress := progress }.settle complete)
    else none
  | none => none

/-- The aggregator receives a group of the oldest run. -/
def receive? (l : Limits) (s : State) : Option State :=
  match s.pending with
  | r :: _ =>
    match r.buffer with
    | g :: rest =>
      if s.isWaiting l then
        some { s.setRun s.drained { r with buffer := rest } with sending := some g }
      else none
    | [] => none
  | [] => none

/-- The aggregator leaves the oldest run behind. -/
def drain? (l : Limits) (s : State) : Option State :=
  match s.pending with
  | r :: _ =>
    if s.isWaiting l && r.buffer.isEmpty && r.ended then
      let s := { s with drained := s.drained + 1 }
      some (s.settle s.progress.isComplete)
    else none
  | [] => none

/-- The aggregator hears the walker. A failed listing ends the traversal. -/
def hear? (l : Limits) (s : State) : Option State :=
  if s.isWaiting l && s.wantsListing l then
    match s.listing with
    | .file work :: rest =>
      some { s with
        listing := rest
        progress := s.progress.childDiscovered
        queued := s.queued ++ [work] }
    | .failed e :: rest => some ({ s with listing := rest }.finishWith (.error e))
    | [] =>
      if s.walkerGone then
        let (complete, progress) := s.progress.listingFinished
        some ({ s with progress := progress }.settle complete)
      else none
  else none

/-- The aggregator returns because nothing is left to wait for. -/
def idle? (l : Limits) (s : State) : Option State :=
  if s.isWaiting l && s.runs.all (·.joined) && s.pending.isEmpty && !s.wantsListing l then
    some s.succeed
  else none

/-- The aggregator hands a group over. Without a consumer the traversal returns. -/
def hand? (l : Limits) (s : State) : Option State :=
  match s.sending with
  | some g =>
    if s.isActive then
      if s.consumerGone then some s.succeed
      else if s.sink.length < l.groupBuffer then
        some { s with sending := none, sink := s.sink ++ [g] }
      else none
    else none
  | none => none

def consume? (s : State) : Option State :=
  match s.sink with
  | g :: rest =>
    if s.consumerGone then none else some { s with sink := rest, consumed := s.consumed ++ [g] }
  | [] => none

def quit? (s : State) : Option State :=
  if s.consumerGone then none else some { s with consumerGone := true }

def step? (l : Limits) (s : State) : Event → Option State
  | .list => s.list? l
  | .leave => s.leave?
  | .push run => s.push? l run
  | .finish run => s.finish? run
  | .start => s.start? l
  | .join run => s.join? l run
  | .receive => s.receive? l
  | .drain => s.drain? l
  | .hear => s.hear? l
  | .idle => s.idle? l
  | .hand => s.hand? l
  | .consume => s.consume?
  | .quit => s.quit?

/-- What a sequence of events does, where all of them are possible. -/
def steps? (l : Limits) (s : State) : List Event → Option State
  | [] => some s
  | event :: events =>
    match s.step? l event with
    | some s => s.steps? l events
    | none => none

def initial (works : List FileWork) (failure : Option Failure) : State where
  unlisted := works.map .file ++ (failure.map .failed).toList
  listing := []
  walkerGone := false
  progress := .initial
  queued := []
  runs := []
  drained := 0
  sending := none
  sink := []
  consumed := []
  consumerGone := false
  result := none

/-- The traversal of a directory before its first event. -/
def ofRoot (rules : Rules) (t : FileTree) (cwd root : String) : State :=
  let listing := Listing.ofRoot rules.filter t cwd root
  let work (path : String) : FileWork :=
    let (groups, failure) := Traversal.file rules t cwd path
    ⟨path, groups, failure⟩
  initial (listing.files.map work) listing.failure

end State

/-- What can be reached from a state by some schedule. -/
inductive Reachable (l : Limits) (start : State) : State → Prop where
  | refl : Reachable l start start
  | step {s s' : State} {event : Event} :
    Reachable l start s → s.step? l event = some s' → Reachable l start s'

theorem Reachable.of_steps {l : Limits} {start s s' : State} {events : List Event}
    (hs : Reachable l start s) (h : s.steps? l events = some s') : Reachable l start s' := by
  induction events generalizing s with
  | nil =>
    cases h
    exact hs
  | cons event events ih =>
    simp only [State.steps?] at h
    split at h
    · rename_i next hnext
      exact ih (.step hs hnext) h
    · cases h

namespace State

/-- Events that may be possible, those of the aggregator first. The consumer stays. -/
def candidates (s : State) : List Event :=
  let runs := List.range s.runs.length
  [.hand, .start] ++ runs.map .join ++ [.receive, .drain, .hear, .idle, .consume, .list, .leave] ++
    runs.map .push ++ runs.map .finish

/-- Take the first possible event. -/
def next? (l : Limits) (s : State) : Option State := s.candidates.findSome? (s.step? l)

/-- Take the first possible event again and again, `fuel` times at most. -/
def run (l : Limits) : Nat → State → State
  | 0, s => s
  | fuel + 1, s =>
    match s.next? l with
    | some s => run l fuel s
    | none => s

end State

theorem Reachable.run {l : Limits} {start s : State} (fuel : Nat) (hs : Reachable l start s) :
    Reachable l start (s.run l fuel) := by
  induction fuel generalizing s with
  | zero => exact hs
  | succ fuel ih =>
    simp only [State.run]
    split
    · rename_i next hnext
      obtain ⟨event, _, hevent⟩ := List.exists_of_findSome?_eq_some hnext
      exact ih (.step hs hevent)
    · exact hs

end MessageCatalog.Schedule
