import MessageCatalog.Proofs.Schedule.Completion
import MessageCatalog.Proofs.Schedule.Delivery

/-! # When a traversal returns

Three events can end a traversal: the last run is joined, the last run is drained, and the listing
ends. Each looks at a part of the state only. Together they miss nothing: a traversal that reads all
of its files to the end returns with the event that leaves nothing to wait for, and not before.
-/

namespace MessageCatalog.Schedule

variable {works : List FileWork} {failure : Option Failure} {l : Limits} {s s' : State}

namespace Invariant

theorem isComplete_of_done (h : Invariant works failure s) (active : s.result = none)
    (done : s.Done) : s.progress.isComplete = true := by
  have succeeded : ∀ r ∈ s.runs, r.succeeded = true := fun r member => by
    simp only [Run.succeeded, done.joined r member, h.read active member (done.joined r member),
      Option.isNone_none, Bool.and_self]
  simp only [Progress.isComplete, done.listed, h.finished, h.discovered, State.heard, done.started,
    List.countP_eq_length.mpr succeeded, List.append_nil, List.length_map, beq_self_eq_true,
    Bool.and_self]

end Invariant

/-- A traversal has returned as soon as nothing is left to wait for, and it does not succeed before
that in front of its consumer. -/
structure State.Timely (s : State) : Prop where
  active : s.result = none → ¬s.Done
  returned : ∀ n, s.result = some (.ok n) → s.consumerGone = true ∨ s.Done

namespace State.Timely

theorem initial (works : List FileWork) (failure : Option Failure) :
    (State.initial works failure).Timely :=
  ⟨fun _ done => absurd done.listed Bool.false_ne_true, fun _ => nofun⟩

theorem frame (h : s.Timely) (listed : s'.progress = s.progress) (runs : s'.runs = s.runs)
    (drained : s'.drained = s.drained) (queued : s'.queued = s.queued)
    (result : s'.result = s.result) (gone : s.consumerGone = true → s'.consumerGone = true) :
    s'.Timely := by
  have pending : s'.pending = s.pending := by simp only [State.pending, runs, drained]
  refine ⟨fun active done => h.active (result ▸ active) ?_, fun n returned => ?_⟩
  · exact ⟨listed ▸ done.listed, runs ▸ done.joined, pending ▸ done.drained, queued ▸ done.started⟩
  · refine (h.returned n (result ▸ returned)).imp gone fun done => ?_
    exact ⟨listed ▸ done.listed, runs ▸ done.joined, pending ▸ done.drained, queued ▸ done.started⟩

theorem of_active (active : s.result = none) (more : ¬s.Done) : s.Timely :=
  ⟨fun _ => more, fun _ returned => absurd returned (Invariant.not_returned active)⟩

theorem finishWith_error (s : State) (e : Failure) : (s.finishWith (.error e)).Timely :=
  ⟨nofun, fun _ => nofun⟩

theorem succeed (atEnd : s.consumerGone = true ∨ s.Done) : s.succeed.Timely :=
  ⟨nofun, fun _ _ =>
    atEnd.imp_right fun done => ⟨done.listed, done.joined, done.drained, done.started⟩⟩

theorem settle {complete : Bool} (h : Invariant works failure (s.settle complete))
    (active : s.result = none) (counted : complete = s.progress.isComplete) :
    (s.settle complete).Timely := by
  revert h
  unfold State.settle
  split
  · rename_i atEnd
    simp only [Bool.and_eq_true, List.isEmpty_iff] at atEnd
    intro h
    exact ⟨nofun, fun _ _ => .inr (h.done_of_isComplete (counted ▸ atEnd.1) atEnd.2)⟩
  · rename_i further
    intro h
    refine of_active active fun done => further ?_
    simp only [counted, h.isComplete_of_done active done, done.drained, List.isEmpty_nil,
      Bool.and_self]

theorem done_of_setRun {i : Nat} {r changed : Run} (done : (s.setRun i changed).Done)
    (run : s.runs[i]? = some r) (same : changed.joined = r.joined) : s.Done := by
  refine ⟨done.listed, ?_, ?_, done.started⟩
  · have joined := (map_set_of_getElem? run same : (s.runs.set i changed).map Run.joined = _)
    intro r member
    obtain ⟨other, inside, equal⟩ : ∃ other ∈ s.runs.set i changed, other.joined = r.joined := by
      rw [← List.mem_map, joined]
      exact List.mem_map_of_mem member
    exact equal.symm.trans (done.joined other inside)
  · simpa [State.pending, State.setRun] using done.drained

/-- Every step keeps a traversal timely, if some file may be open and some may wait. -/
theorem step (h : s.Timely) (openFiles : 0 < l.openFiles) (queuedFiles : 0 < l.queuedFiles)
    {event : Event} (step : Step l s event s') (after : Invariant works failure s') :
    s'.Timely := by
  cases step with
  | list next active room => exact h.frame rfl rfl rfl rfl rfl id
  | leave atEnd active there => exact h.frame rfl rfl rfl rfl rfl id
  | push run next active room =>
      exact of_active active fun done => h.active active (done_of_setRun done run rfl)
  | finish run atEnd active going =>
      exact of_active active fun done => h.active active (done_of_setRun done run rfl)
  | start next active free room =>
      exact of_active active fun done => nomatch
        done.joined (Run.start _) (List.mem_append_right _ List.mem_cons_self)
  | joinFailed run waiting atEnd new failed => exact finishWith_error _ _
  | join run waiting atEnd new read =>
      exact settle after (State.isWaiting_iff.mp waiting).1 rfl
  | @receive r others g rest front next waiting =>
      have active := (State.isWaiting_iff.mp waiting).1
      refine of_active active fun done => h.active active ?_
      have received : (s.setRun s.drained { r with buffer := rest }).Done :=
        ⟨done.listed, done.joined, done.drained, done.started⟩
      exact done_of_setRun received (State.getElem?_of_pending front) rfl
  | drain front waiting empty atEnd =>
      exact settle after (State.isWaiting_iff.mp waiting).1 rfl
  | hearFile next waiting wanted =>
      refine of_active (State.isWaiting_iff.mp waiting).1 fun done => ?_
      exact List.append_ne_nil_of_right_ne_nil _ (List.cons_ne_nil _ _) done.started
  | hearFailed next waiting wanted => exact finishWith_error _ _
  | hearEnd empty gone waiting wanted =>
      exact settle after (State.isWaiting_iff.mp waiting).1 rfl
  | idle waiting joined drained unwanted =>
      exact succeed
        (.inr (State.done_of_isWaiting openFiles queuedFiles waiting joined drained unwanted))
  | handGone next active gone => exact succeed (.inl gone)
  | hand next active there room => exact h.frame rfl rfl rfl rfl rfl id
  | consume next there => exact h.frame rfl rfl rfl rfl rfl id
  | quit there => exact h.frame rfl rfl rfl rfl rfl fun _ => rfl

end State.Timely

theorem Reachable.timely (openFiles : 0 < l.openFiles) (queuedFiles : 0 < l.queuedFiles)
    (reached : Reachable l (State.initial works failure) s) : s.Timely := by
  induction reached with
  | refl => exact .initial works failure
  | step reached next ih =>
      have after := (Reachable.step reached next).invariant openFiles queuedFiles
      exact ih.step openFiles queuedFiles (.of_step? next) after

theorem Reachable.leftBehind (reached : Reachable l (State.initial works failure) s) :
    s.LeftBehind := by
  induction reached with
  | refl => exact ⟨Nat.le_refl _, fun i r run behind => absurd behind (Nat.not_lt_zero i)⟩
  | step _ next ih => exact ih.step (.of_step? next)

/-- A timely traversal is never left to find that there is nothing to wait for: it has returned
before. -/
theorem State.Timely.idle_eq_none (h : s.Timely) (openFiles : 0 < l.openFiles)
    (queuedFiles : 0 < l.queuedFiles) : s.step? l .idle = none := by
  refine Option.eq_none_iff_forall_ne_some.mpr fun s' next => ?_
  cases Step.of_step? next with
  | idle waiting joined drained unwanted =>
      have done := State.done_of_isWaiting openFiles queuedFiles waiting joined drained unwanted
      exact h.active (State.isWaiting_iff.mp waiting).1 done

theorem consumerGone_of_steps {events : List Event} (there : s.consumerGone = false)
    (stays : .quit ∉ events) (run : s.steps? l events = some s') : s'.consumerGone = false := by
  induction events generalizing s with
  | nil =>
      cases run
      exact there
  | cons event events ih =>
      rw [List.mem_cons, not_or] at stays
      obtain ⟨other, later⟩ := stays
      simp only [State.steps?] at run
      split at run
      · rename_i next step
        have same := (Step.of_step? step).consumerGone_eq (Ne.symm other)
        exact ih (same.trans there) later run
      · cases run

/-- A schedule has at most as many events as there is to do. -/
theorem State.length_le_of_steps (weigh : MessageGroup → Nat) {events : List Event}
    (run : s.steps? l events = some s') : events.length ≤ s.remaining weigh := by
  induction events generalizing s with
  | nil => exact Nat.zero_le _
  | cons event events ih =>
      rw [steps?] at run
      split at run
      · rename_i next step
        exact Nat.succ_le_of_lt ((ih run).trans_lt ((Step.of_step? step).remaining_lt weigh))
      · cases run

theorem State.remaining_initial (works : List FileWork) :
    (initial works none).remaining (fun _ => 0) =
      (works.map fun work => 4 * work.groups.length + 6).sum + 4 := by
  have each : (fun work : FileWork => (Listed.file work).remaining (fun _ => 0) + 2) =
      fun work => 4 * work.groups.length + 6 := by
    funext work
    simp [Listed.remaining, FileWork.remaining, load]
    omega
  simp [remaining, initial, Progress.initial, Function.comp_def, each]

/-- A traversal whose walker and files all come to their end, in front of a consumer that stays,
under every schedule: it has returned if and only if nothing is left to wait for, with the number
of the files. It never comes to find that there is nothing to wait for, having returned before.
Until it returns, the aggregator, the walker or a run can go on whenever the consumer has room for
a group. Every event leaves less to do, so that a schedule has at most four events for each group,
six for each file and four more. -/
theorem returns_when_done (limits : l.Positive) (read : ∀ work ∈ works, work.failure = none)
    {events : List Event} (stays : .quit ∉ events)
    (run : (State.initial works none).steps? l events = some s) :
    (s.result = none ↔ ¬s.Done) ∧
      (s.Done → s.result = some (.ok works.length)) ∧
      s.step? l .idle = none ∧
      (s.result = none → s.sink.length < l.groupBuffer → s.GoesOn l) ∧
      (∀ event s', s.step? l event = some s' →
        s'.remaining (fun _ => 0) < s.remaining (fun _ => 0)) ∧
      events.length ≤ (works.map fun work => 4 * work.groups.length + 6).sum + 4 := by
  have reached : Reachable l (State.initial works none) s := .of_steps .refl run
  have h := reached.invariant limits.openFiles limits.queuedFiles
  have timely := reached.timely limits.openFiles limits.queuedFiles
  have there : s.consumerGone = false := consumerGone_of_steps rfl stays run
  have succeeds : ∀ outcome, s.result = some outcome → outcome = .ok works.length ∧ s.Done := by
    intro outcome returned
    cases outcome with
    | error e =>
        obtain failed | ⟨work, member, failed⟩ := h.failed e returned
        · cases failed
        · cases (read work member).symm.trans failed
    | ok n =>
        obtain ⟨_, _, _, count⟩ := h.read_all returned there
        exact ⟨congrArg _ count, (timely.returned n returned).resolve_left (by simp [there])⟩
  have returns : s.Done → s.result = some (.ok works.length) := by
    intro done
    cases returned : s.result with
    | none => exact absurd done (timely.active returned)
    | some outcome => rw [(succeeds outcome returned).1]
  refine ⟨⟨timely.active, fun more => ?_⟩, returns,
    timely.idle_eq_none limits.openFiles limits.queuedFiles,
    fun active room => State.goesOn limits reached.leftBehind active (.inl room),
    fun event s' next => (Step.of_step? next).remaining_lt _, ?_⟩
  · exact Option.eq_none_iff_forall_ne_some.mpr fun outcome returned =>
      more (succeeds outcome returned).2
  · exact (State.length_le_of_steps _ run).trans_eq (State.remaining_initial works)

/-- Of two files the second is drained last, long after the listing has ended. -/
theorem returns_when_done_drained_last :
    let works : List FileWork := [⟨"a.js", [⟨⟨"a.js", 1⟩, ["\"a\""]⟩], none⟩, ⟨"b.js", [], none⟩]
    let events : List Event :=
      [.list, .list, .leave, .hear, .start, .hear, .start, .hear, .push 0, .finish 0, .finish 1,
        .join 1, .join 0, .receive, .hand, .drain, .drain]
    Limits.standard.Positive ∧ (∀ work ∈ works, work.failure = none) ∧ .quit ∉ events ∧
      ∃ s, (State.initial works none).steps? .standard events = some s ∧
        s.result = some (.ok 2) ∧ s.Done ∧ s.step? .standard .idle = none := by
  intro works events
  have read : ∀ work ∈ works, work.failure = none := by decide
  have stays : .quit ∉ events := by decide
  obtain ⟨s, run, returned⟩ : ∃ s, (State.initial works none).steps? .standard events = some s ∧
      s.result = some (.ok 2) := by
    refine Option.map_eq_some_iff.mp ?_
    decide +kernel
  obtain ⟨active, _, idle, _⟩ := returns_when_done Limits.standard_positive read stays run
  have done : s.Done := by
    by_contra more
    cases returned.symm.trans (active.mpr more)
  exact ⟨Limits.standard_positive, read, stays, s, run, returned, done, idle⟩

end MessageCatalog.Schedule
