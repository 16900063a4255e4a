import MessageCatalog.Proofs.Schedule.Step

/-! # What every schedule keeps

At any time each file stands at one place between the walker and the runs, in the order of the
listing, and each group at one place between its file and the consumer. `Invariant` adds to this
how the counters and the result follow from the runs. It holds at first, every step keeps it, and
so it holds in all that can be reached.
-/

namespace MessageCatalog.Schedule

/-- The groups of a run that the aggregator has not received. -/
def Run.rest (r : Run) : List MessageGroup := r.buffer ++ r.left

/-- Whether a run was joined after its file was read to the end. -/
def Run.succeeded (r : Run) : Bool := r.joined && r.work.failure.isNone

/-- The groups that come with what the walker lists. -/
def Listed.groups : Listed → List MessageGroup
  | .file work => work.groups
  | .failed _ => []

/-- All that the walker lists: every file, and its failure at the end if it has one. -/
def announced (works : List FileWork) (failure : Option Failure) : List Listed :=
  works.map .file ++ (failure.map .failed).toList

namespace State

/-- The files that the aggregator has heard of, in the order of the listing. -/
def heard (s : State) : List FileWork := s.runs.map Run.work ++ s.queued

/-- What the aggregator has not heard of. -/
def unheard (s : State) : List Listed := s.listing ++ s.unlisted

/-- The groups that are not handed over, in the order in which they are to be. -/
def undelivered (s : State) : List MessageGroup :=
  s.sending.toList ++ s.pending.flatMap Run.rest ++ s.queued.flatMap FileWork.groups ++
    s.unheard.flatMap Listed.groups

/-- Nothing is left to wait for: the listing has ended, the run of every file was joined, and none
waits to be started or drained. -/
structure Done (s : State) : Prop where
  listed : s.progress.listingDone = true
  joined : ∀ r ∈ s.runs, r.joined = true
  drained : s.pending = []
  started : s.queued = []

theorem done_of_isWaiting {l : Limits} {s : State} (openFiles : 0 < l.openFiles)
    (queuedFiles : 0 < l.queuedFiles) (waiting : s.isWaiting l = true)
    (joined : ∀ r ∈ s.runs, r.joined = true) (drained : s.pending = [])
    (unwanted : s.wantsListing l = false) : s.Done := by
  obtain ⟨_, _, full⟩ := isWaiting_iff.mp waiting
  have started : s.queued = [] := by
    rw [drained] at full
    exact full.resolve_right (Nat.not_le.mpr openFiles)
  have listed : s.progress.listingDone = true := by
    simpa [wantsListing, started, queuedFiles] using unwanted
  exact ⟨listed, joined, drained, started⟩

/-- Nothing is left to do, and every file was read to its end. -/
structure Complete (s : State) : Prop where
  sent : s.sending = none
  drained : s.pending = []
  started : s.queued = []
  listed : s.progress.listingDone = true
  read : ∀ r ∈ s.runs, r.work.failure = none

end State

/-- What every schedule keeps, for a walker that lists `works` and may fail after them. -/
structure Invariant (works : List FileWork) (failure : Option Failure) (s : State) : Prop where
  /-- Each group stands at one place, in the order of the listing. -/
  delivered : s.handed ++ s.undelivered = works.flatMap FileWork.groups
  /-- Each file stands at one place. A failure of the walker is heard last and is the result. -/
  listed : ∃ failed : Option Failure,
    s.heard.map .file ++ (failed.map .failed).toList ++ s.unheard = announced works failure ∧
      ∀ e, failed = some e → s.result = some (.error e)
  drained_le : s.drained ≤ s.runs.length
  walkerDone : s.walkerGone = true → s.unlisted = []
  listingDone : s.progress.listingDone = true → s.walkerGone = true ∧ s.listing = []
  ended : ∀ r ∈ s.runs, r.ended = true → r.left = []
  discovered : s.progress.discovered = s.heard.length
  finished : s.progress.finished = s.runs.countP Run.succeeded
  joined : ∀ r ∈ s.runs, r.joined = true → ∀ e, r.work.failure = some e →
    s.result = some (.error e)
  succeeded : ∀ n, s.result = some (.ok n) →
    n = s.progress.discovered ∧ (s.consumerGone = true ∨ s.Complete)
  failed : ∀ e, s.result = some (.error e) →
    failure = some e ∨ ∃ work ∈ works, work.failure = some e

theorem flatMap_groups_announced (works : List FileWork) (failure : Option Failure) :
    (announced works failure).flatMap Listed.groups = works.flatMap FileWork.groups := by
  cases failure <;> simp [announced, List.flatMap_map, Listed.groups]

theorem Invariant.initial (works : List FileWork) (failure : Option Failure) :
    Invariant works failure (State.initial works failure) where
  delivered := by
    simpa [State.handed, State.undelivered, State.pending, State.unheard, State.initial, announced]
      using flatMap_groups_announced works failure
  listed := ⟨none, by simp [State.heard, State.unheard, State.initial, announced], by simp⟩
  drained_le := Nat.le_refl _
  walkerDone := by simp [State.initial]
  listingDone := by simp [State.initial, Progress.initial]
  ended := by simp [State.initial]
  discovered := rfl
  finished := rfl
  joined := by simp [State.initial]
  succeeded := by simp [State.initial]
  failed := by simp [State.initial]

theorem map_set_of_getElem? {α β : Type} {f : α → β} {items : List α} {i : Nat} {a b : α}
    (here : items[i]? = some a) (same : f b = f a) : (items.set i b).map f = items.map f := by
  obtain ⟨inside, rfl⟩ := List.getElem?_eq_some_iff.mp here
  rw [List.map_set, same, ← List.getElem_map f (h := by simpa using inside), List.set_getElem_self]

section Run

variable {s : State} {i : Nat} {r changed : Run}

theorem heard_setRun (run : s.runs[i]? = some r) (work : changed.work = r.work) :
    (s.setRun i changed).heard = s.heard := by
  simp only [State.heard, State.setRun, map_set_of_getElem? run work]

theorem pending_setRun (run : s.runs[i]? = some r) (rest : changed.rest = r.rest) :
    (s.setRun i changed).pending.flatMap Run.rest = s.pending.flatMap Run.rest := by
  simp only [State.pending, State.setRun, List.flatMap_def, List.map_drop,
    map_set_of_getElem? run rest]

theorem undelivered_setRun (run : s.runs[i]? = some r) (rest : changed.rest = r.rest) :
    (s.setRun i changed).undelivered = s.undelivered := by
  have pending := pending_setRun run rest
  simp only [State.undelivered, pending]
  rfl

theorem forall_mem_setRun {p : Run → Prop} (all : ∀ r ∈ s.runs, p r) (new : p changed) :
    ∀ r ∈ (s.setRun i changed).runs, p r := by
  intro other member
  rcases List.mem_or_eq_of_mem_set member with old | rfl
  · exact all other old
  · exact new

theorem succeeded_setRun (run : s.runs[i]? = some r) (same : changed.succeeded = r.succeeded) :
    (s.setRun i changed).runs.countP Run.succeeded = s.runs.countP Run.succeeded := by
  have mapped := congrArg (List.countP id) (map_set_of_getElem? run same)
  simpa only [State.setRun, List.countP_map, Function.id_comp] using mapped

end Run

namespace Invariant

variable {works : List FileWork} {failure : Option Failure} {s : State}

theorem not_returned (active : s.result = none) {outcome : Except Failure Nat} :
    s.result ≠ some outcome := by
  simp only [active, ne_eq, reduceCtorEq, not_false_eq_true]

/-- While the traversal has not returned, it has heard of no failure of the walker. -/
theorem order (h : Invariant works failure s) (active : s.result = none) :
    s.heard.map Listed.file ++ s.unheard = announced works failure := by
  obtain ⟨failed, order, result⟩ := h.listed
  have none_failed : failed = none :=
    Option.eq_none_iff_forall_ne_some.mpr fun e same => not_returned active (result e same)
  simpa only [none_failed, Option.map_none, Option.toList_none, List.append_nil] using order

theorem read (h : Invariant works failure s) (active : s.result = none) {r : Run}
    (member : r ∈ s.runs) (joined : r.joined = true) : r.work.failure = none :=
  Option.eq_none_iff_forall_ne_some.mpr fun e failed =>
    not_returned active (h.joined r member joined e failed)

/-- A run may change as long as its file and the order of its groups stay. -/
theorem setRun (h : Invariant works failure s) (unsettled : ∀ n, s.result ≠ some (.ok n)) {i : Nat}
    {r changed : Run} {p : Progress} (run : s.runs[i]? = some r) (work : changed.work = r.work)
    (rest : changed.rest = r.rest) (ended : changed.ended = true → changed.left = [])
    (joined : changed.joined = true → ∀ e, changed.work.failure = some e →
      s.result = some (.error e))
    (discovered : p.discovered = s.progress.discovered)
    (listing : p.listingDone = s.progress.listingDone)
    (finished : p.finished = (s.setRun i changed).runs.countP Run.succeeded) :
    Invariant works failure { s.setRun i changed with progress := p } := by
  have heard := heard_setRun run work
  exact
    { h with
      delivered := by
        have undelivered := undelivered_setRun run rest
        exact (congrArg (s.handed ++ ·) undelivered).trans h.delivered
      listed := by
        obtain ⟨failed, order, result⟩ := h.listed
        exact ⟨failed, by rw [← heard] at order; exact order, result⟩
      drained_le := by simpa only [State.setRun, List.length_set] using h.drained_le
      listingDone := fun done => h.listingDone (listing ▸ done)
      ended := forall_mem_setRun h.ended ended
      discovered := discovered.trans (h.discovered.trans (congrArg List.length heard.symm))
      finished := finished
      joined := forall_mem_setRun h.joined joined
      succeeded := fun n returned => absurd returned (unsettled n) }

theorem list (h : Invariant works failure s) (active : s.result = none) {item : Listed}
    {rest : List Listed} (next : s.unlisted = item :: rest) :
    Invariant works failure { s with unlisted := rest, listing := s.listing ++ [item] } := by
  have there : s.walkerGone ≠ true := fun gone => by
    have atEnd := h.walkerDone gone
    simp only [next, reduceCtorEq] at atEnd
  exact
    { h with
      delivered := by
        have delivered := h.delivered
        simp only [State.undelivered, State.unheard, next] at delivered
        simpa [State.handed, State.undelivered, State.pending, State.unheard] using delivered
      listed := by
        obtain ⟨failed, order, result⟩ := h.listed
        simp only [State.unheard, next] at order
        exact ⟨failed, by simpa [State.heard, State.unheard] using order, result⟩
      walkerDone := fun gone => absurd gone there
      listingDone := fun done => absurd (h.listingDone done).1 there
      succeeded := fun n returned => absurd returned (not_returned active) }

theorem work (h : Invariant works failure s) (active : s.result = none) {i : Nat} {r changed : Run}
    (run : s.runs[i]? = some r) (work : changed.work = r.work) (rest : changed.rest = r.rest)
    (joined : changed.joined = r.joined) (ended : changed.ended = true → changed.left = []) :
    Invariant works failure (s.setRun i changed) := by
  refine setRun (p := s.progress) h (fun _ => not_returned active) run work rest ended ?_ rfl rfl ?_
  · rw [joined, work]
    exact h.joined r (List.mem_of_getElem? run)
  · have same : changed.succeeded = r.succeeded := by simp only [Run.succeeded, joined, work]
    exact h.finished.trans (succeeded_setRun run same).symm

/-- The traversal may succeed if nothing is left to do, or nobody is there to hand groups to. -/
theorem succeed (h : Invariant works failure s) (active : s.result = none)
    (atEnd : s.consumerGone = true ∨ s.Complete) : Invariant works failure s.succeed := by
  exact
    { h with
      listed := by
        refine ⟨none, ?_, by simp⟩
        rw [Option.map_none, Option.toList_none, List.append_nil]
        exact h.order active
      joined := fun r member joined e failed => by
        simp only [h.read active member joined, reduceCtorEq] at failed
      succeeded := fun n returned => by
        cases returned
        exact ⟨rfl, atEnd.imp_right fun complete => { complete with }⟩
      failed := fun e returned => by cases returned }

/-- When all files are counted as finished and all runs are drained, nothing is left to wait for. -/
theorem done_of_isComplete (h : Invariant works failure s) (all : s.progress.isComplete = true)
    (drained : s.pending = []) : s.Done := by
  simp only [Progress.isComplete, Bool.and_eq_true, beq_iff_eq, h.finished, h.discovered,
    State.heard, List.length_append, List.length_map] at all
  have most : s.runs.countP Run.succeeded ≤ s.runs.length := List.countP_le_length
  have every : s.runs.countP Run.succeeded = s.runs.length := by omega
  refine ⟨all.1, fun r member => ?_, drained, List.length_eq_zero_iff.mp (by omega)⟩
  have succeeded := List.countP_eq_length.mp every r member
  simp only [Run.succeeded, Bool.and_eq_true] at succeeded
  exact succeeded.1

theorem complete (h : Invariant works failure s) (active : s.result = none) (sent : s.sending = none)
    (done : s.Done) : s.Complete :=
  ⟨sent, done.drained, done.started, done.listed, fun r member =>
    h.read active member (done.joined r member)⟩

theorem settle (h : Invariant works failure s) (active : s.result = none) (sent : s.sending = none)
    {complete : Bool} (counted : complete = true → s.progress.isComplete = true) :
    Invariant works failure (s.settle complete) := by
  unfold State.settle
  split
  · rename_i atEnd
    simp only [Bool.and_eq_true, List.isEmpty_iff] at atEnd
    have done := h.done_of_isComplete (counted atEnd.1) atEnd.2
    exact h.succeed active (.inr (h.complete active sent done))
  · exact h

theorem start (h : Invariant works failure s) (active : s.result = none) {work rest}
    (next : s.queued = work :: rest) :
    Invariant works failure { s with queued := rest, runs := s.runs ++ [Run.start work] } := by
  have heard : ({ s with queued := rest, runs := s.runs ++ [Run.start work] } : State).heard =
      s.heard := by
    simp [State.heard, next, Run.start]
  have undelivered : ({ s with queued := rest, runs := s.runs ++ [Run.start work] } :
      State).undelivered = s.undelivered := by
    simp [State.undelivered, State.pending, State.unheard, next,
      List.drop_append_of_le_length h.drained_le, Run.rest, Run.start]
  exact
    { h with
      delivered := by
        rw [undelivered]
        exact h.delivered
      listed := by
        rw [heard]
        exact h.listed
      drained_le := by
        have := h.drained_le
        simp only [List.length_append, List.length_singleton]
        omega
      ended := by
        simpa [or_imp, forall_and, Run.start] using h.ended
      discovered := by
        rw [heard]
        exact h.discovered
      finished := by
        simpa [List.countP_append, Run.succeeded, Run.start] using h.finished
      joined := by
        simpa [or_imp, forall_and, Run.start] using h.joined
      succeeded := fun n returned => absurd returned (not_returned active) }

theorem join (h : Invariant works failure s) (active : s.result = none) (sent : s.sending = none)
    {i : Nat} {r : Run} (run : s.runs[i]? = some r) (atEnd : r.ended = true)
    (new : r.joined = false) (read : r.work.failure = none) :
    Invariant works failure
      (({ s.setRun i { r with joined := true } with
        progress := s.progress.childFinished.2 } : State).settle s.progress.childFinished.1) := by
  obtain ⟨inside, same⟩ := List.getElem?_eq_some_iff.mp run
  have idle : s.runs[i].succeeded = false := by simp only [same, Run.succeeded, new, Bool.false_and]
  have counted : Invariant works failure
      { s.setRun i { r with joined := true } with progress := s.progress.childFinished.2 } := by
    refine setRun h (fun _ => not_returned active) run rfl rfl ?_ ?_ rfl rfl ?_
    · intro _
      exact h.ended r (List.mem_of_getElem? run) atEnd
    · intro _ e failed
      simp only [read, reduceCtorEq] at failed
    · simp only [State.setRun, List.countP_set inside, idle, Progress.childFinished, h.finished]
      simp [Run.succeeded, read]
  exact settle counted active sent id

theorem mem_of_heard (h : Invariant works failure s) {work : FileWork} (member : work ∈ s.heard) :
    work ∈ works := by
  obtain ⟨failed, order, _⟩ := h.listed
  have listed : Listed.file work ∈ announced works failure := by
    rw [← order, List.append_assoc]
    exact List.mem_append_left _ (List.mem_map_of_mem member)
  simpa [announced] using listed

theorem joinFailed (h : Invariant works failure s) (active : s.result = none) {i : Nat} {r : Run}
    {e : Failure} (run : s.runs[i]? = some r) (atEnd : r.ended = true)
    (failed : r.work.failure = some e) :
    Invariant works failure ((s.setRun i { r with joined := true }).finishWith (.error e)) := by
  have member : r ∈ s.runs := List.mem_of_getElem? run
  have heard : r.work ∈ s.heard := List.mem_append_left _ (List.mem_map_of_mem member)
  have returned : Invariant works failure (s.finishWith (.error e)) :=
    { h with
      listed := by
        refine ⟨none, ?_, by simp⟩
        rw [Option.map_none, Option.toList_none, List.append_nil]
        exact h.order active
      joined := fun r member joined e failed => by
        simp only [h.read active member joined, reduceCtorEq] at failed
      succeeded := fun n returned => by cases returned
      failed := fun e returned => by
        cases returned
        exact .inr ⟨r.work, h.mem_of_heard heard, failed⟩ }
  obtain ⟨inside, same⟩ := List.getElem?_eq_some_iff.mp run
  refine setRun (p := s.progress) returned (by simp [State.finishWith]) run rfl rfl ?_ ?_ rfl rfl ?_
  · intro _
    exact h.ended r member atEnd
  · intro _ e' failed'
    rw [failed] at failed'
    cases failed'
    rfl
  · simp [State.setRun, State.finishWith, List.countP_set inside, same, Run.succeeded, failed,
      h.finished]

theorem receive (h : Invariant works failure s) (active : s.result = none) (sent : s.sending = none)
    {r : Run} {others : List Run} {g : MessageGroup} {rest : List MessageGroup}
    (front : s.pending = r :: others) (next : r.buffer = g :: rest) :
    Invariant works failure
      { s.setRun s.drained { r with buffer := rest } with sending := some g } := by
  have run := State.getElem?_of_pending front
  have heard : (s.setRun s.drained { r with buffer := rest }).heard = s.heard := heard_setRun run rfl
  have undelivered : ({ s.setRun s.drained { r with buffer := rest } with sending := some g } :
      State).undelivered = s.undelivered := by
    simp only [State.pending] at front
    simp [State.undelivered, State.pending, State.unheard, State.setRun, List.drop_set, front, sent,
      next, Run.rest]
  exact
    { h with
      delivered := (congrArg (s.handed ++ ·) undelivered).trans h.delivered
      listed := by
        obtain ⟨failed, order, result⟩ := h.listed
        exact ⟨failed, by rw [← heard] at order; exact order, result⟩
      drained_le := by simpa only [State.setRun, List.length_set] using h.drained_le
      ended := forall_mem_setRun h.ended (h.ended r (List.mem_of_getElem? run))
      discovered := h.discovered.trans (congrArg List.length heard.symm)
      finished := by
        have same : ({ r with buffer := rest } : Run).succeeded = r.succeeded := rfl
        exact h.finished.trans (succeeded_setRun run same).symm
      joined := forall_mem_setRun h.joined (h.joined r (List.mem_of_getElem? run))
      succeeded := fun n returned => absurd returned (not_returned active) }

theorem drain (h : Invariant works failure s) (active : s.result = none) (sent : s.sending = none)
    {r : Run} {others : List Run} (front : s.pending = r :: others) (empty : r.buffer = [])
    (atEnd : r.ended = true) :
    Invariant works failure
      (({ s with drained := s.drained + 1 } : State).settle s.progress.isComplete) := by
  have member : r ∈ s.pending := front ▸ List.mem_cons_self
  have pending : ({ s with drained := s.drained + 1 } : State).pending = others := by
    have tail := congrArg List.tail front
    simpa only [State.pending, List.tail_drop, List.tail_cons] using tail
  have undelivered : ({ s with drained := s.drained + 1 } : State).undelivered = s.undelivered := by
    have left := h.ended r (List.mem_of_mem_drop member) atEnd
    simp [State.undelivered, pending, front, Run.rest, empty, left, State.unheard]
  have later : Invariant works failure { s with drained := s.drained + 1 } :=
    { h with
      delivered := (congrArg (s.handed ++ ·) undelivered).trans h.delivered
      drained_le := by
        have length := congrArg List.length front
        simp only [State.pending, List.length_drop, List.length_cons] at length
        simp only
        omega
      succeeded := fun n returned => absurd returned (not_returned active) }
  exact later.settle active sent id

theorem hearFile (h : Invariant works failure s) (active : s.result = none) {work : FileWork}
    {rest : List Listed} (next : s.listing = .file work :: rest) :
    Invariant works failure
      { s with
        listing := rest
        progress := s.progress.childDiscovered
        queued := s.queued ++ [work] } := by
  have order := h.order active
  exact
    { h with
      delivered := by
        have delivered := h.delivered
        simp only [State.undelivered, State.unheard, next] at delivered
        simpa [State.handed, State.undelivered, State.pending, State.unheard, Listed.groups]
          using delivered
      listed := by
        refine ⟨none, ?_, by simp⟩
        simp only [State.heard, State.unheard, next] at order
        simpa [State.heard, State.unheard] using order
      listingDone := fun done => by
        have empty := (h.listingDone done).2
        simp only [next, reduceCtorEq] at empty
      discovered := by
        simp [Progress.childDiscovered, h.discovered, State.heard, Nat.add_assoc]
      succeeded := fun n returned => absurd returned (not_returned active) }

theorem hearFailed (h : Invariant works failure s) (active : s.result = none) {e : Failure}
    {rest : List Listed} (next : s.listing = .failed e :: rest) :
    Invariant works failure (({ s with listing := rest } : State).finishWith (.error e)) := by
  have order := h.order active
  have origin : failure = some e := by
    have listed : Listed.failed e ∈ announced works failure := by
      rw [← order]
      simp [State.unheard, next]
    simpa [announced] using listed
  exact
    { h with
      delivered := by
        have delivered := h.delivered
        simp only [State.undelivered, State.unheard, next] at delivered
        simpa [State.handed, State.undelivered, State.pending, State.unheard, State.finishWith,
          Listed.groups] using delivered
      listed := by
        refine ⟨some e, ?_, fun e' same => by cases same; rfl⟩
        simp only [State.unheard, next] at order
        simpa [State.heard, State.unheard, State.finishWith] using order
      listingDone := fun done => by
        have empty := (h.listingDone done).2
        simp only [next, reduceCtorEq] at empty
      joined := fun r member joined e failed => by
        simp only [h.read active member joined, reduceCtorEq] at failed
      succeeded := fun n returned => by cases returned
      failed := fun e' returned => by
        cases returned
        exact .inl origin }

theorem hearEnd (h : Invariant works failure s) (active : s.result = none) (sent : s.sending = none)
    (empty : s.listing = []) (gone : s.walkerGone = true) :
    Invariant works failure
      (({ s with progress := s.progress.listingFinished.2 } : State).settle
        s.progress.listingFinished.1) := by
  have later : Invariant works failure { s with progress := s.progress.listingFinished.2 } :=
    { h with
      listingDone := fun _ => ⟨gone, empty⟩
      succeeded := fun n returned => absurd returned (not_returned active) }
  exact later.settle active sent id

theorem hand (h : Invariant works failure s) (active : s.result = none) {g : MessageGroup}
    (next : s.sending = some g) :
    Invariant works failure { s with sending := none, sink := s.sink ++ [g] } :=
  { h with
    delivered := by
      have delivered := h.delivered
      simp only [State.undelivered, next] at delivered
      simpa [State.handed, State.undelivered, State.pending, State.unheard] using delivered
    succeeded := fun n returned => absurd returned (not_returned active) }

theorem consume (h : Invariant works failure s) {g : MessageGroup} {rest : List MessageGroup}
    (next : s.sink = g :: rest) :
    Invariant works failure { s with sink := rest, consumed := s.consumed ++ [g] } :=
  { h with
    delivered := by
      have delivered := h.delivered
      simp only [State.handed, next] at delivered
      simpa [State.handed, State.undelivered, State.pending, State.unheard] using delivered
    succeeded := fun n returned => by
      obtain ⟨count, atEnd⟩ := h.succeeded n returned
      exact ⟨count, atEnd.imp_right fun complete => { complete with }⟩ }

/-- Every step keeps the invariant, if some file may be open and some may wait. -/
theorem step {l : Limits} (openFiles : 0 < l.openFiles) (queuedFiles : 0 < l.queuedFiles)
    (h : Invariant works failure s) {event : Event} {s' : State} (step : Step l s event s') :
    Invariant works failure s' := by
  cases step with
  | list next active room => exact h.list active next
  | leave atEnd active there =>
      exact
        { h with
          walkerDone := fun _ => atEnd
          listingDone := fun done => ⟨rfl, (h.listingDone done).2⟩
          succeeded := fun n returned => absurd returned (not_returned active) }
  | push run next active room =>
      refine h.work active run rfl ?_ rfl ?_
      · simp [Run.rest, next]
      · intro atEnd
        have empty := h.ended _ (List.mem_of_getElem? run) atEnd
        simp only [next, reduceCtorEq] at empty
  | finish run atEnd active going => exact h.work active run rfl rfl rfl fun _ => atEnd
  | start next active free room => exact h.start active next
  | joinFailed run waiting atEnd new failed =>
      obtain ⟨active, sent, _⟩ := State.isWaiting_iff.mp waiting
      exact h.joinFailed active run atEnd failed
  | join run waiting atEnd new read =>
      obtain ⟨active, sent, _⟩ := State.isWaiting_iff.mp waiting
      exact h.join active sent run atEnd new read
  | receive front next waiting =>
      obtain ⟨active, sent, _⟩ := State.isWaiting_iff.mp waiting
      exact h.receive active sent front next
  | drain front waiting empty atEnd =>
      obtain ⟨active, sent, _⟩ := State.isWaiting_iff.mp waiting
      exact h.drain active sent front empty atEnd
  | hearFile next waiting wanted =>
      obtain ⟨active, sent, _⟩ := State.isWaiting_iff.mp waiting
      exact h.hearFile active next
  | hearFailed next waiting wanted =>
      obtain ⟨active, sent, _⟩ := State.isWaiting_iff.mp waiting
      exact h.hearFailed active next
  | hearEnd empty gone waiting wanted =>
      obtain ⟨active, sent, _⟩ := State.isWaiting_iff.mp waiting
      exact h.hearEnd active sent empty gone
  | idle waiting joined drained unwanted =>
      obtain ⟨active, sent, _⟩ := State.isWaiting_iff.mp waiting
      have done := State.done_of_isWaiting openFiles queuedFiles waiting joined drained unwanted
      exact h.succeed active (.inr (h.complete active sent done))
  | handGone next active gone => exact h.succeed active (.inl gone)
  | hand next active there room => exact h.hand active next
  | consume next there => exact h.consume next
  | quit there =>
      exact
        { h with
          succeeded := fun n returned => ⟨(h.succeeded n returned).1, .inl rfl⟩ }

end Invariant

theorem Reachable.invariant {l : Limits} (openFiles : 0 < l.openFiles)
    (queuedFiles : 0 < l.queuedFiles) {works : List FileWork} {failure : Option Failure} {s : State}
    (reached : Reachable l (State.initial works failure) s) : Invariant works failure s := by
  induction reached with
  | refl => exact .initial works failure
  | step _ next ih => exact ih.step openFiles queuedFiles (.of_step? next)

end MessageCatalog.Schedule
