import Mathlib
import MessageCatalog.Extraction.Pipeline

/-! # Single steps of a pipeline

`Step` has one rule for each outcome of an event, so that nothing else opens `State.step?`.
-/

namespace MessageCatalog.Pipeline

open Schedule (Limits)

/-- What one event can do to an extraction. -/
inductive Step (l : Limits) (s : State) : Event → State → Prop where
  | begin {root later} (stage : s.stage = .between) (next : s.later = root :: later) :
    Step l s .begin
      { s with stage := .header root (Utf8.bytes Catalog.header), later := later }
  | acceptHeader {root left count} (stage : s.stage = .header root left) (some : 0 < count)
    (offered : count ≤ left.length) :
    Step l s (.accept count)
      { s with
        stage := .header root (left.drop count)
        accepted := s.accepted ++ left.take count }
  | acceptGroup {root tr left g count} (stage : s.stage = .body root tr (.writing left g))
    (some : 0 < count) (offered : count ≤ left.length) :
    Step l s (.accept count)
      { s with
        stage := .body root tr (.writing (left.drop count) g)
        accepted := s.accepted ++ left.take count }
  | refuseHeader {root left cause} (stage : s.stage = .header root left) :
    Step l s (.refuse cause) (s.finishWith (.error (.output cause)))
  | refuseGroup {root tr tr' left g cause} (stage : s.stage = .body root tr (.writing left g))
    (gone : tr.step? l .quit = some tr') :
    Step l s (.refuse cause)
      { s with stage := .body root tr' (.ended (.error (.output cause))) }
  | wroteHeader {root} (stage : s.stage = .header root []) :
    Step l s .wrote { s with stage := .body root (.start root) .waiting }
  | wroteGroup {root tr g} (stage : s.stage = .body root tr (.writing [] g)) :
    Step l s .wrote { s with stage := .body root tr .waiting, entries := s.entries + g.size }
  | traverse {root tr tr' writing event} (stage : s.stage = .body root tr writing)
    (noConsume : event ≠ .consume) (noQuit : event ≠ .quit) (next : tr.step? l event = some tr') :
    Step l s (.traverse event) { s with stage := .body root tr' writing }
  | receive {root tr tr' g rest} (stage : s.stage = .body root tr .waiting)
    (front : tr.sink = g :: rest) (next : tr.step? l .consume = some tr') :
    Step l s .receive
      { s with stage := .body root tr' (.writing (Utf8.bytes (Catalog.renderGroup g)) g) }
  | close {root tr outcome} (stage : s.stage = .body root tr .waiting) (empty : tr.sink = [])
    (returned : tr.result = some outcome) :
    Step l s .close { s with stage := .body root tr (.ended (.ok ())) }
  | joinFailed {root tr outcome e} (stage : s.stage = .body root tr (.ended outcome))
    (failed : tr.result = some (.error e)) : Step l s .join (s.finishWith (.error e))
  | joinRefused {root tr e files} (stage : s.stage = .body root tr (.ended (.error e)))
    (returned : tr.result = some (.ok files)) : Step l s .join (s.finishWith (.error e))
  | join {root tr files} (stage : s.stage = .body root tr (.ended (.ok ())))
    (returned : tr.result = some (.ok files)) :
    Step l s .join { s with stage := .flushing root files }
  | flush {root files} (stage : s.stage = .flushing root files) :
    Step l s .flush
      { s with
        done := s.done ++ [root]
        stage := .between
        flushed := s.accepted
        files := s.files + files }
  | refuseFlush {root files cause} (stage : s.stage = .flushing root files) :
    Step l s (.refuseFlush cause) (s.finishWith (.error (.output cause)))
  | finish (stage : s.stage = .between) (atEnd : s.later = []) :
    Step l s .finish (s.finishWith (.ok ⟨s.done.length, s.files, s.entries⟩))

namespace Step

variable {l : Limits} {s s' : State}

theorem of_begin? (h : s.begin? = some s') : Step l s .begin s' := by
  simp only [State.begin?] at h
  split at h
  · rename_i root later stage next
    cases h
    exact .begin stage next
  · cases h

theorem of_accept? {count : Nat} (h : s.accept? count = some s') : Step l s (.accept count) s' := by
  simp only [State.accept?] at h
  split at h
  · rename_i guard
    cases h
    simp only [Bool.and_eq_true, decide_eq_true_eq] at guard
    obtain ⟨some, offered⟩ := guard
    cases stage : s.stage with
    | between =>
        rw [stage] at offered
        exact absurd some (Nat.not_lt.mpr offered)
    | header root left =>
        rw [stage] at offered
        exact .acceptHeader stage some offered
    | body root tr writing =>
        cases writing with
        | writing left g =>
            rw [stage] at offered
            exact .acceptGroup stage some offered
        | waiting =>
            rw [stage] at offered
            exact absurd some (Nat.not_lt.mpr offered)
        | ended outcome =>
            rw [stage] at offered
            exact absurd some (Nat.not_lt.mpr offered)
    | flushing root files =>
        rw [stage] at offered
        exact absurd some (Nat.not_lt.mpr offered)
  · cases h

theorem of_refuse? {cause : Cause} (h : s.refuse? l cause = some s') :
    Step l s (.refuse cause) s' := by
  simp only [State.refuse?] at h
  split at h
  · rename_i stage
    cases h
    exact .refuseHeader stage
  · rename_i stage
    split at h
    · rename_i gone
      cases h
      exact .refuseGroup stage gone
    · cases h
  · cases h

theorem of_wrote? (h : s.wrote? = some s') : Step l s .wrote s' := by
  simp only [State.wrote?] at h
  split at h
  · rename_i stage
    cases h
    exact .wroteHeader stage
  · rename_i stage
    cases h
    exact .wroteGroup stage
  · cases h

theorem of_traverse? {event : Schedule.Event} (h : s.traverse? l event = some s') :
    Step l s (.traverse event) s' := by
  simp only [State.traverse?] at h
  split at h
  · rename_i stage
    split at h
    · cases h
    · rename_i guard
      simp only [Bool.or_eq_true, decide_eq_true_eq, not_or] at guard
      obtain ⟨tr', next, rfl⟩ := Option.map_eq_some_iff.mp h
      exact .traverse stage guard.1 guard.2 next
  · cases h

theorem of_receive? (h : s.receive? l = some s') : Step l s .receive s' := by
  simp only [State.receive?] at h
  split at h
  · rename_i stage
    split at h
    · rename_i front next
      cases h
      exact .receive stage front next
    · cases h
  · cases h

theorem of_close? (h : s.close? = some s') : Step l s .close s' := by
  simp only [State.close?] at h
  split at h
  · rename_i stage
    split at h
    · rename_i guard
      cases h
      simp only [Bool.and_eq_true, List.isEmpty_iff, Option.isSome_iff_exists] at guard
      obtain ⟨empty, outcome, returned⟩ := guard
      exact .close stage empty returned
    · cases h
  · cases h

theorem of_join? (h : s.join? = some s') : Step l s .join s' := by
  simp only [State.join?] at h
  split at h
  · rename_i stage
    split at h
    · rename_i failed
      cases h
      exact .joinFailed stage failed
    · rename_i returned
      cases h
      exact .joinRefused stage returned
    · rename_i returned
      cases h
      exact .join stage returned
    · cases h
  · cases h

theorem of_flush? (h : s.flush? = some s') : Step l s .flush s' := by
  simp only [State.flush?] at h
  split at h
  · rename_i stage
    cases h
    exact .flush stage
  · cases h

theorem of_refuseFlush? {cause : Cause} (h : s.refuseFlush? cause = some s') :
    Step l s (.refuseFlush cause) s' := by
  simp only [State.refuseFlush?] at h
  split at h
  · rename_i stage
    cases h
    exact .refuseFlush stage
  · cases h

theorem of_finish? (h : s.finish? = some s') : Step l s .finish s' := by
  simp only [State.finish?] at h
  split at h
  · rename_i stage atEnd
    cases h
    exact .finish stage atEnd
  · cases h

/-- The rules allow what `State.step?` does, and only before the extraction has returned. -/
theorem of_step? {event : Event} (h : s.step? l event = some s') :
    s.result = none ∧ Step l s event s' := by
  simp only [State.step?] at h
  split at h
  · cases h
  · rename_i active
    refine ⟨by simpa using active, ?_⟩
    cases event with
    | begin => exact of_begin? h
    | accept count => exact of_accept? h
    | refuse cause => exact of_refuse? h
    | wrote => exact of_wrote? h
    | traverse event => exact of_traverse? h
    | receive => exact of_receive? h
    | close => exact of_close? h
    | join => exact of_join? h
    | flush => exact of_flush? h
    | refuseFlush cause => exact of_refuseFlush? h
    | finish => exact of_finish? h

end Step

end MessageCatalog.Pipeline
