import Mathlib
import MessageCatalog.Traversal.Schedule

/-! # Single steps of a schedule

`State.step?` decides what an event does. `Step` says the same by one rule for each outcome, so
that an invariant needs one case for each rule and never opens the functions behind `State.step?`.
-/

namespace MessageCatalog.Schedule

namespace State

theorem isActive_iff {s : State} : s.isActive = true ↔ s.result = none := by
  simp only [isActive, Option.isNone_iff_eq_none]

theorem isWaiting_iff {l : Limits} {s : State} : s.isWaiting l = true ↔
    s.result = none ∧ s.sending = none ∧ (s.queued = [] ∨ l.openFiles ≤ s.pending.length) := by
  simp only [isWaiting, isActive, canStart, Bool.and_eq_true, Option.isNone_iff_eq_none,
    Bool.not_eq_true', Bool.and_eq_false_iff, Bool.not_eq_false', List.isEmpty_iff,
    decide_eq_false_iff_not, Nat.not_lt, and_assoc]

/-- The oldest run that is not drained comes right behind those that are. -/
theorem getElem?_of_pending {s : State} {r : Run} {others : List Run}
    (front : s.pending = r :: others) : s.runs[s.drained]? = some r := by
  have first := congrArg (·[0]?) front
  simpa only [State.pending, List.getElem?_drop, Nat.add_zero, List.getElem?_cons_zero] using first

end State

theorem State.consumed_settle (s : State) (complete : Bool) :
    (s.settle complete).consumed = s.consumed := by
  unfold State.settle
  split <;> rfl

theorem State.consumerGone_settle (s : State) (complete : Bool) :
    (s.settle complete).consumerGone = s.consumerGone := by
  unfold State.settle
  split <;> rfl

/-- What one event can do to a traversal. -/
inductive Step (l : Limits) (s : State) : Event → State → Prop where
  | list {item rest} (next : s.unlisted = item :: rest) (active : s.result = none)
    (room : s.listing.length < l.listingBuffer) :
    Step l s .list { s with unlisted := rest, listing := s.listing ++ [item] }
  | leave (atEnd : s.unlisted = []) (active : s.result = none) (there : s.walkerGone = false) :
    Step l s .leave { s with walkerGone := true }
  | push {i r g rest} (run : s.runs[i]? = some r) (next : r.left = g :: rest)
    (active : s.result = none) (room : r.buffer.length < l.fileBuffer) :
    Step l s (.push i) (s.setRun i { r with left := rest, buffer := r.buffer ++ [g] })
  | finish {i r} (run : s.runs[i]? = some r) (atEnd : r.left = []) (active : s.result = none)
    (going : r.ended = false) :
    Step l s (.finish i) (s.setRun i { r with ended := true })
  | start {work rest} (next : s.queued = work :: rest) (active : s.result = none)
    (free : s.sending = none) (room : s.pending.length < l.openFiles) :
    Step l s .start { s with queued := rest, runs := s.runs ++ [Run.start work] }
  | joinFailed {i r e} (run : s.runs[i]? = some r) (waiting : s.isWaiting l = true)
    (atEnd : r.ended = true) (new : r.joined = false) (failed : r.work.failure = some e) :
    Step l s (.join i) ((s.setRun i { r with joined := true }).finishWith (.error e))
  | join {i r} (run : s.runs[i]? = some r) (waiting : s.isWaiting l = true)
    (atEnd : r.ended = true) (new : r.joined = false) (read : r.work.failure = none) :
    Step l s (.join i)
      (({ s.setRun i { r with joined := true } with
        progress := s.progress.childFinished.2 } : State).settle s.progress.childFinished.1)
  | receive {r others g rest} (front : s.pending = r :: others) (next : r.buffer = g :: rest)
    (waiting : s.isWaiting l = true) :
    Step l s .receive { s.setRun s.drained { r with buffer := rest } with sending := some g }
  | drain {r others} (front : s.pending = r :: others) (waiting : s.isWaiting l = true)
    (empty : r.buffer = []) (atEnd : r.ended = true) :
    Step l s .drain (({ s with drained := s.drained + 1 } : State).settle s.progress.isComplete)
  | hearFile {work rest} (next : s.listing = .file work :: rest)
    (waiting : s.isWaiting l = true) (wanted : s.wantsListing l = true) :
    Step l s .hear
      { s with
        listing := rest
        progress := s.progress.childDiscovered
        queued := s.queued ++ [work] }
  | hearFailed {e rest} (next : s.listing = .failed e :: rest)
    (waiting : s.isWaiting l = true) (wanted : s.wantsListing l = true) :
    Step l s .hear (({ s with listing := rest } : State).finishWith (.error e))
  | hearEnd (empty : s.listing = []) (gone : s.walkerGone = true)
    (waiting : s.isWaiting l = true) (wanted : s.wantsListing l = true) :
    Step l s .hear
      (({ s with progress := s.progress.listingFinished.2 } : State).settle
        s.progress.listingFinished.1)
  | idle (waiting : s.isWaiting l = true) (joined : ∀ r ∈ s.runs, r.joined = true)
    (drained : s.pending = []) (unwanted : s.wantsListing l = false) :
    Step l s .idle s.succeed
  | handGone {g} (next : s.sending = some g) (active : s.result = none)
    (gone : s.consumerGone = true) :
    Step l s .hand s.succeed
  | hand {g} (next : s.sending = some g) (active : s.result = none)
    (there : s.consumerGone = false) (room : s.sink.length < l.groupBuffer) :
    Step l s .hand { s with sending := none, sink := s.sink ++ [g] }
  | consume {g rest} (next : s.sink = g :: rest) (there : s.consumerGone = false) :
    Step l s .consume { s with sink := rest, consumed := s.consumed ++ [g] }
  | quit (there : s.consumerGone = false) : Step l s .quit { s with consumerGone := true }

namespace Step

variable {l : Limits} {s s' : State}

theorem of_list? (h : s.list? l = some s') : Step l s .list s' := by
  simp only [State.list?] at h
  split at h
  · rename_i item rest next
    split at h
    · rename_i guard
      cases h
      simp only [Bool.and_eq_true, decide_eq_true_eq, State.isActive_iff] at guard
      exact .list next guard.1 guard.2
    · cases h
  · cases h

theorem of_leave? (h : s.leave? = some s') : Step l s .leave s' := by
  simp only [State.leave?] at h
  split at h
  · rename_i guard
    cases h
    simp only [Bool.and_eq_true, List.isEmpty_iff, Bool.not_eq_true', State.isActive_iff] at guard
    exact .leave guard.1.2 guard.1.1 guard.2
  · cases h

theorem of_push? {i : Nat} (h : s.push? l i = some s') : Step l s (.push i) s' := by
  simp only [State.push?] at h
  split at h
  · rename_i r run
    split at h
    · rename_i g rest next
      split at h
      · rename_i guard
        cases h
        simp only [Bool.and_eq_true, decide_eq_true_eq, State.isActive_iff] at guard
        exact .push run next guard.1 guard.2
      · cases h
    · cases h
  · cases h

theorem of_finish? {i : Nat} (h : s.finish? i = some s') : Step l s (.finish i) s' := by
  simp only [State.finish?] at h
  split at h
  · rename_i r run
    split at h
    · rename_i guard
      cases h
      simp only [Bool.and_eq_true, List.isEmpty_iff, Bool.not_eq_true', State.isActive_iff] at guard
      exact .finish run guard.1.2 guard.1.1 guard.2
    · cases h
  · cases h

theorem of_start? (h : s.start? l = some s') : Step l s .start s' := by
  simp only [State.start?] at h
  split at h
  · rename_i work rest next
    split at h
    · rename_i guard
      cases h
      simp only [Bool.and_eq_true, Option.isNone_iff_eq_none, State.isActive_iff,
        State.canStart, decide_eq_true_eq] at guard
      exact .start next guard.1.1 guard.1.2 guard.2.2
    · cases h
  · cases h

theorem of_join? {i : Nat} (h : s.join? l i = some s') : Step l s (.join i) s' := by
  simp only [State.join?] at h
  split at h
  · rename_i r run
    split at h
    · rename_i guard
      simp only [Bool.and_eq_true, Bool.not_eq_true'] at guard
      split at h
      · rename_i e failed
        cases h
        exact .joinFailed run guard.1.1 guard.1.2 guard.2 failed
      · rename_i read
        cases h
        exact .join run guard.1.1 guard.1.2 guard.2 read
    · cases h
  · cases h

theorem of_receive? (h : s.receive? l = some s') : Step l s .receive s' := by
  simp only [State.receive?] at h
  split at h
  · rename_i r others front
    split at h
    · rename_i g rest next
      split at h
      · rename_i waiting
        cases h
        exact .receive front next waiting
      · cases h
    · cases h
  · cases h

theorem of_drain? (h : s.drain? l = some s') : Step l s .drain s' := by
  simp only [State.drain?] at h
  split at h
  · rename_i r others front
    split at h
    · rename_i guard
      cases h
      simp only [Bool.and_eq_true, List.isEmpty_iff] at guard
      exact .drain front guard.1.1 guard.1.2 guard.2
    · cases h
  · cases h

theorem of_hear? (h : s.hear? l = some s') : Step l s .hear s' := by
  simp only [State.hear?] at h
  split at h
  · rename_i guard
    simp only [Bool.and_eq_true] at guard
    split at h
    · rename_i work rest next
      cases h
      exact .hearFile next guard.1 guard.2
    · rename_i e rest next
      cases h
      exact .hearFailed next guard.1 guard.2
    · rename_i empty
      split at h
      · rename_i gone
        cases h
        exact .hearEnd empty gone guard.1 guard.2
      · cases h
  · cases h

theorem of_idle? (h : s.idle? l = some s') : Step l s .idle s' := by
  simp only [State.idle?] at h
  split at h
  · rename_i guard
    cases h
    simp only [Bool.and_eq_true, List.all_eq_true, List.isEmpty_iff, Bool.not_eq_true'] at guard
    exact .idle guard.1.1.1 guard.1.1.2 guard.1.2 guard.2
  · cases h

theorem of_hand? (h : s.hand? l = some s') : Step l s .hand s' := by
  simp only [State.hand?] at h
  split at h
  · rename_i g next
    split at h
    · rename_i active
      rw [State.isActive_iff] at active
      split at h
      · rename_i gone
        cases h
        exact .handGone next active gone
      · rename_i there
        split at h
        · rename_i room
          cases h
          exact .hand next active (Bool.eq_false_iff.mpr there) room
        · cases h
    · cases h
  · cases h

theorem of_consume? (h : s.consume? = some s') : Step l s .consume s' := by
  simp only [State.consume?] at h
  split at h
  · rename_i g rest next
    split at h
    · cases h
    · rename_i there
      cases h
      exact .consume next (Bool.eq_false_iff.mpr there)
  · cases h

theorem of_quit? (h : s.quit? = some s') : Step l s .quit s' := by
  simp only [State.quit?] at h
  split at h
  · cases h
  · rename_i there
    cases h
    exact .quit (Bool.eq_false_iff.mpr there)

/-- The rules allow what `State.step?` does. -/
theorem of_step? {event : Event} (h : s.step? l event = some s') : Step l s event s' := by
  cases event with
  | list => exact of_list? h
  | leave => exact of_leave? h
  | push i => exact of_push? h
  | finish i => exact of_finish? h
  | start => exact of_start? h
  | join i => exact of_join? h
  | receive => exact of_receive? h
  | drain => exact of_drain? h
  | hear => exact of_hear? h
  | idle => exact of_idle? h
  | hand => exact of_hand? h
  | consume => exact of_consume? h
  | quit => exact of_quit? h

theorem result_eq_none {event : Event} (step : Step l s event s') (noConsume : event ≠ .consume)
    (noQuit : event ≠ .quit) : s.result = none := by
  cases step with
  | consume => exact absurd rfl noConsume
  | quit => exact absurd rfl noQuit
  | list _ active => exact active
  | leave _ active => exact active
  | push _ _ active => exact active
  | finish _ _ active => exact active
  | start _ active => exact active
  | joinFailed _ waiting => exact (State.isWaiting_iff.mp waiting).1
  | join _ waiting => exact (State.isWaiting_iff.mp waiting).1
  | receive _ _ waiting => exact (State.isWaiting_iff.mp waiting).1
  | drain _ waiting => exact (State.isWaiting_iff.mp waiting).1
  | hearFile _ waiting => exact (State.isWaiting_iff.mp waiting).1
  | hearFailed _ waiting => exact (State.isWaiting_iff.mp waiting).1
  | hearEnd _ _ waiting => exact (State.isWaiting_iff.mp waiting).1
  | idle waiting => exact (State.isWaiting_iff.mp waiting).1
  | handGone _ active => exact active
  | hand _ active => exact active

theorem consumed_eq {event : Event} (step : Step l s event s') (other : event ≠ .consume) :
    s'.consumed = s.consumed := by
  cases step with
  | consume => exact absurd rfl other
  | join => exact State.consumed_settle _ _
  | drain => exact State.consumed_settle _ _
  | hearEnd => exact State.consumed_settle _ _
  | _ => rfl

theorem consumerGone_eq {event : Event} (step : Step l s event s') (other : event ≠ .quit) :
    s'.consumerGone = s.consumerGone := by
  cases step with
  | quit => exact absurd rfl other
  | join => exact State.consumerGone_settle _ _
  | drain => exact State.consumerGone_settle _ _
  | hearEnd => exact State.consumerGone_settle _ _
  | _ => rfl

end Step

end MessageCatalog.Schedule
