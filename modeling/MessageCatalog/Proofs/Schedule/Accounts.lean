import MessageCatalog.Proofs.Schedule.Ending

/-! # Accounts of a traversal

Joining a run and draining it are different events, which come in either order, so that the runs
that are not drained, those that are not joined and the counters differ most of the time. Still every
file that the aggregator has heard of has its place, in the order in which it was heard of, and the
limits on open files and on files that wait are kept.
-/

namespace MessageCatalog.Schedule

variable {works : List FileWork} {failure : Option Failure} {l : Limits} {s s' : State}
  {event : Event}

/-! ## The limits -/

/-- No more runs are waiting to be drained, and no more files for a run, than there may be. -/
structure State.Bounded (l : Limits) (s : State) : Prop where
  pending : s.pending.length ≤ l.openFiles
  queued : s.queued.length ≤ l.queuedFiles

namespace State.Bounded

theorem initial (l : Limits) (works : List FileWork) (failure : Option Failure) :
    (State.initial works failure).Bounded l := ⟨Nat.zero_le _, Nat.zero_le _⟩

theorem frame (h : s.Bounded l) (runs : s'.runs.length = s.runs.length)
    (drained : s.drained ≤ s'.drained) (queued : s'.queued.length ≤ s.queued.length) :
    s'.Bounded l := by
  obtain ⟨pending, waiting⟩ := h
  refine ⟨?_, queued.trans waiting⟩
  simp only [State.pending, List.length_drop] at pending ⊢
  omega

theorem setRun (h : s.Bounded l) (i : Nat) (changed : Run) : (s.setRun i changed).Bounded l :=
  h.frame (by simp only [State.setRun, List.length_set]) (Nat.le_refl _) (Nat.le_refl _)

theorem settle (h : s.Bounded l) (complete : Bool) : (s.settle complete).Bounded l := by
  unfold State.settle
  split
  · exact h.frame rfl (Nat.le_refl _) (Nat.le_refl _)
  · exact h

/-- Every step keeps the limits: a run is started only if there is room for one, and the walker is
heard only if there is room for a file. -/
theorem step (h : s.Bounded l) (step : Step l s event s') : s'.Bounded l := by
  cases step with
  | push run next active room => exact h.setRun _ _
  | finish run atEnd active going => exact h.setRun _ _
  | start next active free room =>
      have waiting := h.queued
      rw [next, List.length_cons] at waiting
      refine ⟨?_, Nat.le_of_succ_le waiting⟩
      simp only [State.pending, List.length_drop, List.length_append, List.length_singleton]
        at room ⊢
      omega
  | joinFailed run waiting atEnd new failed =>
      exact (h.setRun _ _).frame rfl (Nat.le_refl _) (Nat.le_refl _)
  | join run waiting atEnd new read =>
      refine settle ?_ _
      exact (h.setRun _ _).frame rfl (Nat.le_refl _) (Nat.le_refl _)
  | receive front next waiting =>
      exact (h.setRun _ _).frame rfl (Nat.le_refl _) (Nat.le_refl _)
  | drain front waiting empty atEnd =>
      refine settle ?_ _
      exact h.frame rfl (Nat.le_succ _) (Nat.le_refl _)
  | hearFile next waiting wanted =>
      refine ⟨h.pending, ?_⟩
      simp only [State.wantsListing, Bool.and_eq_true, decide_eq_true_eq] at wanted
      simp only [List.length_append, List.length_singleton]
      omega
  | hearEnd empty gone waiting wanted =>
      refine settle ?_ _
      exact h.frame rfl (Nat.le_refl _) (Nat.le_refl _)
  | list next active room => exact h.frame rfl (Nat.le_refl _) (Nat.le_refl _)
  | leave atEnd active there => exact h.frame rfl (Nat.le_refl _) (Nat.le_refl _)
  | hearFailed next waiting wanted => exact h.frame rfl (Nat.le_refl _) (Nat.le_refl _)
  | idle waiting joined drained unwanted => exact h.frame rfl (Nat.le_refl _) (Nat.le_refl _)
  | handGone next active gone => exact h.frame rfl (Nat.le_refl _) (Nat.le_refl _)
  | hand next active there room => exact h.frame rfl (Nat.le_refl _) (Nat.le_refl _)
  | consume next there => exact h.frame rfl (Nat.le_refl _) (Nat.le_refl _)
  | quit there => exact h.frame rfl (Nat.le_refl _) (Nat.le_refl _)

end State.Bounded

theorem Reachable.bounded (reached : Reachable l (State.initial works failure) s) :
    s.Bounded l := by
  induction reached with
  | refl => exact .initial l works failure
  | step _ next ih => exact ih.step (.of_step? next)

/-! ## What is received from the walker -/

namespace State

/-- The file that the aggregator receives from the walker with an event. -/
def receives? (s : State) : Event → Option FileWork
  | .hear =>
    match s.listing with
    | .file work :: _ => some work
    | _ => none
  | _ => none

/-- The files that the aggregator receives from the walker in a schedule, one after the other. -/
def received (l : Limits) (s : State) : List Event → List FileWork
  | [] => []
  | event :: events =>
    (s.receives? event).toList ++
      match s.step? l event with
      | some next => next.received l events
      | none => []

end State

theorem State.heard_settle (s : State) (complete : Bool) : (s.settle complete).heard = s.heard := by
  unfold State.settle
  split <;> rfl

/-- What is received comes behind all that the aggregator has heard of. -/
theorem Step.heard_eq (step : Step l s event s') :
    s'.heard = s.heard ++ (s.receives? event).toList := by
  cases step with
  | push run next active room =>
      refine Eq.trans (heard_setRun run ?_) (List.append_nil _).symm
      rfl
  | finish run atEnd active going =>
      refine Eq.trans (heard_setRun run ?_) (List.append_nil _).symm
      rfl
  | start next active free room => simp [State.heard, State.receives?, next, Run.start]
  | @joinFailed i r e run waiting atEnd new failed =>
      have same : (s.setRun i { r with joined := true }).heard = s.heard := heard_setRun run rfl
      exact same.trans (List.append_nil _).symm
  | @join i r run waiting atEnd new read =>
      have same : (s.setRun i { r with joined := true }).heard = s.heard := heard_setRun run rfl
      rw [State.heard_settle]
      exact same.trans (List.append_nil _).symm
  | @receive r others g rest front next waiting =>
      have same : (s.setRun s.drained { r with buffer := rest }).heard = s.heard :=
        heard_setRun (State.getElem?_of_pending front) rfl
      exact same.trans (List.append_nil _).symm
  | drain front waiting empty atEnd =>
      rw [State.heard_settle]
      exact (List.append_nil _).symm
  | hearFile next waiting wanted => simp [State.heard, State.receives?, next]
  | hearFailed next waiting wanted => simp [State.heard, State.receives?, State.finishWith, next]
  | hearEnd empty gone waiting wanted =>
      rw [State.heard_settle]
      simp [State.heard, State.receives?, empty]
  | list next active room => exact (List.append_nil _).symm
  | leave atEnd active there => exact (List.append_nil _).symm
  | idle waiting joined drained unwanted => exact (List.append_nil _).symm
  | handGone next active gone => exact (List.append_nil _).symm
  | hand next active there room => exact (List.append_nil _).symm
  | consume next there => exact (List.append_nil _).symm
  | quit there => exact (List.append_nil _).symm

theorem State.heard_of_steps {events : List Event} (run : s.steps? l events = some s') :
    s'.heard = s.heard ++ s.received l events := by
  induction events generalizing s with
  | nil =>
      cases run
      exact (List.append_nil _).symm
  | cons event events ih =>
      rw [steps?] at run
      split at run
      · rename_i next step
        rw [ih run, (Step.of_step? step).heard_eq, received, step, List.append_assoc]
      · cases run

/-! ## The accounts -/

/-- How the files that were received are accounted for. -/
structure Accounted (l : Limits) (received : List FileWork) (s : State) : Prop where
  pending_le : s.pending.length ≤ l.openFiles
  queued_le : s.queued.length ≤ l.queuedFiles
  /-- A run that has not ended is one of those that are not drained. -/
  pending : ∀ i r, s.runs[i]? = some r → r.ended = false →
    s.drained ≤ i ∧ s.pending[i - s.drained]? = some r
  open_le : s.runs.countP (!·.ended) ≤ l.openFiles
  discovered : s.progress.discovered = received.length
  finished : s.progress.finished = s.runs.countP Run.succeeded
  inFlight : s.progress.inFlight = s.queued.length + s.runs.countP (!·.succeeded)
  /-- Unless the traversal has failed, the runs in flight are those that are not joined. -/
  unjoined : (∀ e, s.result ≠ some (.error e)) →
    s.progress.inFlight = s.queued.length + s.runs.countP (!·.joined)
  /-- A run that is joined is counted as finished while fewer are than were discovered. -/
  finished_lt : ∀ i s', s.step? l (.join i) = some s' →
    s.progress.finished < s.progress.discovered
  /-- The drained ones come first, then those that are not drained, then those that wait. -/
  order : (s.runs.take s.drained).map Run.work ++ s.pending.map Run.work ++ s.queued = received

namespace State.LeftBehind

theorem drained_le_of_open (behind : s.LeftBehind) {i : Nat} {r : Run} (run : s.runs[i]? = some r)
    (going : r.ended = false) : s.drained ≤ i := by
  refine Nat.not_lt.mp fun before => ?_
  exact Bool.false_ne_true (going.symm.trans (behind.ended i r run before))

/-- The runs that have not ended are among those that are not drained. -/
theorem countP_open_le (behind : s.LeftBehind) :
    s.runs.countP (!·.ended) ≤ s.pending.length := by
  have none : (s.runs.take s.drained).countP (!·.ended) = 0 := by
    refine List.countP_eq_zero.mpr fun r member => ?_
    obtain ⟨i, at_⟩ := List.mem_iff_getElem?.mp member
    rw [List.getElem?_take] at at_
    split at at_
    · rename_i inside
      rw [behind.ended i r at_ inside]
      exact Bool.false_ne_true
    · cases at_
  rw [← List.take_append_drop s.drained s.runs, List.countP_append, none, Nat.zero_add]
  exact List.countP_le_length

end State.LeftBehind

namespace Invariant

theorem heard_prefix (h : Invariant works failure s) : s.heard <+: works := by
  obtain ⟨failed, order, _⟩ := h.listed
  have first : s.heard.map Listed.file <+: announced works failure :=
    ⟨_, (List.append_assoc _ _ _).symm.trans order⟩
  rw [announced] at first
  cases failure with
  | none =>
      rw [Option.map_none, Option.toList_none, List.append_nil] at first
      exact (List.prefix_map_iff_of_injective fun _ _ => Listed.file.inj).mp first
  | some e =>
      -- The failure at the end is no file.
      rcases List.prefix_concat_iff.mp first with all | first
      · have last := congrArg List.getLast? all
        simp at last
      · exact (List.prefix_map_iff_of_injective fun _ _ => Listed.file.inj).mp first

theorem inFlight_eq (h : Invariant works failure s) :
    s.progress.inFlight = s.queued.length + s.runs.countP (!·.succeeded) := by
  have all := List.length_eq_countP_add_countP Run.succeeded (l := s.runs)
  simp only [Bool.not_eq_true, Bool.decide_eq_false] at all
  simp only [Progress.inFlight, h.discovered, h.finished, State.heard, List.length_append,
    List.length_map]
  omega

/-- Unless the traversal has failed, all runs that were joined have succeeded. -/
theorem succeeded_eq_joined (h : Invariant works failure s)
    (noFailure : ∀ e, s.result ≠ some (.error e)) {r : Run}
    (member : r ∈ s.runs) : r.succeeded = r.joined := by
  cases joined : r.joined with
  | false => rw [Run.succeeded, joined, Bool.false_and]
  | true =>
      have read : r.work.failure = none := Option.eq_none_iff_forall_ne_some.mpr fun e failed =>
        noFailure e (h.joined r member joined e failed)
      rw [Run.succeeded, joined, read]
      rfl

theorem finished_lt (h : Invariant works failure s) {i : Nat} (step : Step l s (.join i) s') :
    s.progress.finished < s.progress.discovered := by
  obtain ⟨r, run, new⟩ : ∃ r, s.runs[i]? = some r ∧ r.joined = false := by
    cases step with
    | joinFailed run waiting atEnd new failed => exact ⟨_, run, new⟩
    | join run waiting atEnd new read => exact ⟨_, run, new⟩
  have fewer : s.runs.countP Run.succeeded < s.runs.length := by
    refine Nat.lt_of_le_of_ne List.countP_le_length fun all => ?_
    have succeeded := List.countP_eq_length.mp all r (List.mem_of_getElem? run)
    rw [Run.succeeded, new] at succeeded
    cases succeeded
  rw [h.finished, h.discovered, State.heard, List.length_append, List.length_map]
  omega

end Invariant

/-- Under every schedule, whatever the walker lists and whatever becomes of each file: no more runs
are waiting to be drained, and no more files for a run, than the limits allow. A run that has not
ended is waiting to be drained, so that the limit holds for the files that may be open, too. The
files that were received are the first ones of the listing; they are the drained ones, those that are
not drained and those that wait, in this order, and as many are counted as discovered. As many as
were joined after they had been read are counted as finished, and the others are in flight; a run
that is joined is never one too many. -/
theorem accounts_for_files (openFiles : 0 < l.openFiles) (queuedFiles : 0 < l.queuedFiles)
    {events : List Event} (run : (State.initial works failure).steps? l events = some s) :
    (State.initial works failure).received l events <+: works ∧
      Accounted l ((State.initial works failure).received l events) s := by
  have reached : Reachable l (State.initial works failure) s := .of_steps .refl run
  have h := reached.invariant openFiles queuedFiles
  have behind := reached.leftBehind
  have heard : s.heard = (State.initial works failure).received l events :=
    State.heard_of_steps run
  rw [← heard]
  refine ⟨h.heard_prefix, ?_⟩
  exact
    { pending_le := reached.bounded.pending
      queued_le := reached.bounded.queued
      pending := fun i r at_ going => by
        have later := behind.drained_le_of_open at_ going
        refine ⟨later, ?_⟩
        rw [State.pending, List.getElem?_drop, Nat.add_sub_cancel' later, at_]
      open_le := behind.countP_open_le.trans reached.bounded.pending
      discovered := h.discovered
      finished := h.finished
      inFlight := h.inFlight_eq
      unjoined := fun noFailure => by
        rw [h.inFlight_eq]
        refine congrArg _ (List.countP_congr fun r member => ?_)
        rw [h.succeeded_eq_joined noFailure member]
      finished_lt := fun i s' next => h.finished_lt (.of_step? next)
      order := by
        rw [← List.map_append, State.pending, List.take_append_drop]
        rfl }

/-- The second of two runs is joined before the first one is drained, and a third file waits. -/
theorem accounts_for_files_joined_early :
    let works : List FileWork :=
      [⟨"a.js", [⟨⟨"a.js", 1⟩, ["\"a\""]⟩], none⟩, ⟨"b.js", [], none⟩, ⟨"c.js", [], none⟩]
    let l : Limits := { Limits.standard with openFiles := 2 }
    let events : List Event :=
      [.list, .list, .list, .hear, .start, .hear, .start, .hear, .push 0, .finish 1, .join 1]
    0 < l.openFiles ∧ 0 < l.queuedFiles ∧
      ∃ s, (State.initial works none).steps? l events = some s ∧ s.pending.length = 2 ∧
        s.progress = ⟨3, 1, false⟩ ∧ Accounted l works s := by
  intro works l events
  obtain ⟨s, run, length, progress, received⟩ :
      ∃ s, (State.initial works none).steps? l events = some s ∧ s.pending.length = 2 ∧
        s.progress = ⟨3, 1, false⟩ ∧ (State.initial works none).received l events = works := by
    have all : ((State.initial works none).steps? l events).map
        (fun s => (s.pending.length, s.progress, (State.initial works none).received l events)) =
        some (2, ⟨3, 1, false⟩, works) := by decide +kernel
    obtain ⟨s, run, same⟩ := Option.map_eq_some_iff.mp all
    obtain ⟨length, rest⟩ := Prod.mk.inj same
    exact ⟨s, run, length, (Prod.mk.inj rest).1, (Prod.mk.inj rest).2⟩
  have accounted := (accounts_for_files (by decide) (by decide) run).2
  rw [received] at accounted
  exact ⟨by decide, by decide, s, run, length, progress, accounted⟩

end MessageCatalog.Schedule
