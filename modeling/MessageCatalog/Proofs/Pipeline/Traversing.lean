import MessageCatalog.Extraction.Pipeline
import MessageCatalog.Proofs.Schedule.Completion
import MessageCatalog.Proofs.Schedule.Delivery

/-! # Traversals of roots

What a traversal hands over fits its root, whether the root is a directory or not. This is all that
an extraction needs to know of a traversal: the other modules open neither schedules nor the
traversals of single files.
-/

namespace MessageCatalog.Pipeline

open Schedule (FileWork Limits load)

/-- What one event can do to the traversal of a root that is no directory. -/
inductive Direct.Step (l : Limits) (d : Direct) : Schedule.Event → Direct → Prop where
  | handGone {g rest} (next : d.left = g :: rest) (active : d.result = none)
    (gone : d.consumerGone = true) : Step l d .hand { d with result := some (.ok d.files) }
  | hand {g rest} (next : d.left = g :: rest) (active : d.result = none)
    (there : d.consumerGone = false) (room : d.sink.length < l.groupBuffer) :
    Step l d .hand { d with left := rest, sink := d.sink ++ [g] }
  | idleFailed {e} (atEnd : d.left = []) (active : d.result = none) (failed : d.failure = some e) :
    Step l d .idle { d with result := some (.error e) }
  | idle (atEnd : d.left = []) (active : d.result = none) (read : d.failure = none) :
    Step l d .idle { d with result := some (.ok d.files) }
  | consume {g rest} (next : d.sink = g :: rest) (there : d.consumerGone = false) :
    Step l d .consume { d with sink := rest, consumed := d.consumed ++ [g] }
  | quit (there : d.consumerGone = false) : Step l d .quit { d with consumerGone := true }

theorem Direct.Step.of_step? {l : Limits} {d d' : Direct} {event : Schedule.Event}
    (h : d.step? l event = some d') : Direct.Step l d event d' := by
  cases event with
  | hand =>
      simp only [Direct.step?, Direct.hand?] at h
      split at h
      · rename_i g rest next
        split at h
        · rename_i active
          rw [Option.isNone_iff_eq_none] at active
          split at h
          · rename_i gone
            cases h
            exact .handGone next active gone
          · rename_i there
            split at h
            · rename_i room
              cases h
              exact .hand next active (Bool.eq_false_iff.mpr there) room
            · cases h
        · cases h
      · cases h
  | idle =>
      simp only [Direct.step?, Direct.idle?] at h
      split at h
      · rename_i guard
        simp only [Bool.and_eq_true, List.isEmpty_iff, Option.isNone_iff_eq_none] at guard
        split at h
        · rename_i e failed
          cases h
          exact .idleFailed guard.1 guard.2 failed
        · rename_i read
          cases h
          exact .idle guard.1 guard.2 read
      · cases h
  | consume =>
      simp only [Direct.step?, Direct.consume?] at h
      split at h
      · rename_i g rest next
        split at h
        · cases h
        · rename_i there
          cases h
          exact .consume next (Bool.eq_false_iff.mpr there)
      · cases h
  | quit =>
      simp only [Direct.step?, Direct.quit?] at h
      split at h
      · cases h
      · rename_i there
        cases h
        exact .quit (Bool.eq_false_iff.mpr there)
  | list => cases h
  | leave => cases h
  | push i => cases h
  | finish i => cases h
  | start => cases h
  | join i => cases h
  | receive => cases h
  | drain => cases h
  | hear => cases h

/-- What the traversal of a root that is no directory keeps. -/
structure Direct.Fits (root : RootWork) (d : Direct) : Prop where
  /-- Each group stands at one place, in its order. -/
  delivered : d.consumed ++ d.sink ++ d.left = root.groups
  failure : d.failure.toList = root.failures
  files : d.files = root.files
  succeeded : ∀ n, d.result = some (.ok n) →
    n = d.files ∧ (d.consumerGone = true ∨ d.left = [] ∧ d.failure = none)
  failed : ∀ e, d.result = some (.error e) → d.failure = some e

namespace Direct.Fits

variable {root : RootWork} {d : Direct}

theorem start {groups : List MessageGroup} {failure : Option Failure} {files : Nat}
    (delivered : groups = root.groups) (failures : failure.toList = root.failures)
    (count : files = root.files) : (Direct.start groups failure files).Fits root where
  delivered := delivered
  failure := failures
  files := count
  succeeded := nofun
  failed := nofun

theorem step (h : d.Fits root) {l : Limits} {event : Schedule.Event} {d' : Direct}
    (step : Direct.Step l d event d') : d'.Fits root := by
  cases step with
  | handGone next active gone =>
      exact
        { h with
          succeeded := fun n returned => by
            cases returned
            exact ⟨rfl, .inl gone⟩
          failed := fun e returned => by cases returned }
  | hand next active there room =>
      exact
        { h with
          delivered := by
            rw [← h.delivered, next]
            simp
          succeeded := fun n returned => by simp [active] at returned }
  | idleFailed atEnd active failed =>
      exact
        { h with
          succeeded := fun n returned => by cases returned
          failed := fun e returned => by
            cases returned
            exact failed }
  | idle atEnd active read =>
      exact
        { h with
          succeeded := fun n returned => by
            cases returned
            exact ⟨rfl, .inr ⟨atEnd, read⟩⟩
          failed := fun e returned => by cases returned }
  | consume next there =>
      exact
        { h with
          delivered := by
            rw [← h.delivered, next]
            simp }
  | quit there =>
      exact { h with succeeded := fun n returned => ⟨(h.succeeded n returned).1, .inl rfl⟩ }

end Direct.Fits

/-- What a traversal keeps, whatever its root is. -/
inductive Traversing.Fits : RootWork → Traversing → Prop where
  | direct {root d} (fits : d.Fits root) : Fits root (.direct d)
  | directory {works failure s} (invariant : Schedule.Invariant works failure s)
    (behind : s.LeftBehind) : Fits (.directory works failure) (.directory s)

namespace Traversing

variable {l : Limits} {root : RootWork} {tr tr' : Traversing} {event : Schedule.Event}

theorem step?_eq_some (h : tr.step? l event = some tr') :
    (∃ d d', tr = .direct d ∧ tr' = .direct d' ∧ Direct.Step l d event d') ∨
      ∃ s s', tr = .directory s ∧ tr' = .directory s' ∧ Schedule.Step l s event s' := by
  cases tr with
  | direct d =>
      obtain ⟨d', next, rfl⟩ := Option.map_eq_some_iff.mp h
      exact .inl ⟨d, d', rfl, rfl, .of_step? next⟩
  | directory s =>
      obtain ⟨s', next, rfl⟩ := Option.map_eq_some_iff.mp h
      exact .inr ⟨s, s', rfl, rfl, .of_step? next⟩

namespace Fits

theorem start (root : RootWork) : Fits root (.start root) := by
  cases root with
  | missing e => exact .direct (.start rfl rfl rfl)
  | file work => exact .direct (.start rfl rfl rfl)
  | directory works failure => exact .directory (.initial works failure) ⟨Nat.le_refl _, nofun⟩
  | special => exact .direct (.start rfl rfl rfl)

theorem step (limits : l.Positive) (fits : Fits root tr) (next : tr.step? l event = some tr') :
    Fits root tr' := by
  rcases step?_eq_some next with ⟨d, d', rfl, rfl, step⟩ | ⟨s, s', rfl, rfl, step⟩
  · cases fits with
    | direct fits => exact .direct (fits.step step)
  · cases fits with
    | directory invariant behind =>
        exact .directory (invariant.step limits.openFiles limits.queuedFiles step)
          (behind.step step)

theorem handed_prefix (fits : Fits root tr) : tr.consumed ++ tr.sink <+: root.groups := by
  cases fits with
  | @direct _ d fits => exact ⟨d.left, fits.delivered⟩
  | directory invariant behind => exact invariant.handed_prefix

/-- A traversal that succeeds in front of the writer has done everything. -/
theorem read_all (fits : Fits root tr) {n : Nat} (returned : tr.result = some (.ok n))
    (there : tr.consumerGone = false) :
    tr.consumed ++ tr.sink = root.groups ∧ root.failures = [] ∧ n = root.files := by
  cases fits with
  | @direct _ d fits =>
      -- A traversal also succeeds when it finds its writer gone, which is not the case here.
      obtain ⟨count, atEnd⟩ := fits.succeeded n returned
      have gone : d.consumerGone = false := there
      obtain ⟨empty, read⟩ := atEnd.resolve_left (by simp [gone])
      refine ⟨?_, ?_, count.trans fits.files⟩
      · rw [← fits.delivered, empty, List.append_nil]
        rfl
      · rw [← fits.failure, read, Option.toList_none]
  | directory invariant behind =>
      obtain ⟨handed, listed, read, count⟩ := invariant.read_all returned there
      refine ⟨handed, ?_, count⟩
      rw [RootWork.failures, listed, Option.toList_none, List.nil_append, List.filterMap_eq_nil_iff]
      exact read

theorem failed (fits : Fits root tr) {e : Failure} (returned : tr.result = some (.error e)) :
    e ∈ root.failures := by
  cases fits with
  | direct fits =>
      rw [← fits.failure, fits.failed e returned]
      exact List.mem_singleton_self e
  | directory invariant behind =>
      rw [RootWork.failures, List.mem_append, Option.mem_toList, List.mem_filterMap]
      exact invariant.failed e returned

end Fits

theorem consumed_eq (next : tr.step? l event = some tr') (other : event ≠ .consume) :
    tr'.consumed = tr.consumed := by
  rcases step?_eq_some next with ⟨d, d', rfl, rfl, step⟩ | ⟨s, s', rfl, rfl, step⟩
  · cases step with
    | consume => exact absurd rfl other
    | _ => rfl
  · exact step.consumed_eq other

theorem consumerGone_eq (next : tr.step? l event = some tr') (other : event ≠ .quit) :
    tr'.consumerGone = tr.consumerGone := by
  rcases step?_eq_some next with ⟨d, d', rfl, rfl, step⟩ | ⟨s, s', rfl, rfl, step⟩
  · cases step with
    | quit => exact absurd rfl other
    | _ => rfl
  · exact step.consumerGone_eq other

theorem consumed_consume {g : MessageGroup} {rest : List MessageGroup} (front : tr.sink = g :: rest)
    (next : tr.step? l .consume = some tr') :
    tr'.consumed = tr.consumed ++ [g] := by
  rcases step?_eq_some next with ⟨d, d', rfl, rfl, step⟩ | ⟨s, s', rfl, rfl, step⟩
  · cases step with
    | consume first there =>
        cases first.symm.trans front
        rfl
  · cases step with
    | consume first there =>
        cases first.symm.trans front
        rfl

theorem result_eq_none (next : tr.step? l event = some tr') (noConsume : event ≠ .consume)
    (noQuit : event ≠ .quit) : tr.result = none := by
  rcases step?_eq_some next with ⟨d, d', rfl, rfl, step⟩ | ⟨s, s', rfl, rfl, step⟩
  · cases step with
    | consume => exact absurd rfl noConsume
    | quit => exact absurd rfl noQuit
    | handGone _ active => exact active
    | hand _ active => exact active
    | idleFailed _ active => exact active
    | idle _ active => exact active
  · exact step.result_eq_none noConsume noQuit

theorem consumerGone_quit (next : tr.step? l .quit = some tr') : tr'.consumerGone = true := by
  rcases step?_eq_some next with ⟨d, d', rfl, rfl, step⟩ | ⟨s, s', rfl, rfl, step⟩
  · cases step
    rfl
  · cases step
    rfl

end Traversing

section Completion

variable (weigh : MessageGroup → Nat)

def Direct.remaining (d : Direct) : Nat :=
  load weigh 2 d.left + load weigh 1 d.sink + (!d.consumerGone).toNat + d.result.isNone.toNat

/-- What is left to do in a traversal, measured alike for all roots. -/
def Traversing.remaining : Traversing → Nat
  | .direct d => d.remaining weigh
  | .directory s => s.remaining weigh

theorem Direct.Step.remaining_lt {l : Limits} {d d' : Direct} {event : Schedule.Event}
    (step : Direct.Step l d event d') : d'.remaining weigh < d.remaining weigh := by
  cases step with
  | handGone next active gone => simp [Direct.remaining, active]
  | hand next active there room =>
      simp only [Direct.remaining, next, Schedule.load_cons, Schedule.load_append,
        Schedule.load_nil]
      omega
  | idleFailed atEnd active failed => simp [Direct.remaining, active]
  | idle atEnd active read => simp [Direct.remaining, active]
  | consume next there =>
      simp only [Direct.remaining, next, Schedule.load_cons]
      omega
  | quit there => simp [Direct.remaining, there]

namespace Traversing

variable {l : Limits} {root : RootWork} {tr tr' : Traversing} {event : Schedule.Event}

theorem remaining_lt (next : tr.step? l event = some tr') :
    tr'.remaining weigh < tr.remaining weigh := by
  rcases step?_eq_some next with ⟨d, d', rfl, rfl, step⟩ | ⟨s, s', rfl, rfl, step⟩
  · exact step.remaining_lt weigh
  · exact step.remaining_lt weigh

theorem remaining_consume {g : MessageGroup} {rest : List MessageGroup}
    (front : tr.sink = g :: rest) (next : tr.step? l .consume = some tr') :
    tr'.remaining weigh + weigh g + 1 = tr.remaining weigh := by
  rcases step?_eq_some next with ⟨d, d', rfl, rfl, step⟩ | ⟨s, s', rfl, rfl, step⟩
  · cases step with
    | consume first there =>
        cases first.symm.trans front
        simp only [remaining, Direct.remaining, first, Schedule.load_cons]
        omega
  · cases step with
    | consume first there =>
        cases first.symm.trans front
        simp only [remaining, Schedule.State.remaining, first, Schedule.load_cons]
        omega

theorem exists_consume {g : MessageGroup} {rest : List MessageGroup} (front : tr.sink = g :: rest)
    (there : tr.consumerGone = false) : ∃ tr', tr.step? l .consume = some tr' := by
  cases tr with
  | direct d =>
      have here : d.sink = g :: rest := front
      have stays : d.consumerGone = false := there
      simp [step?, Direct.step?, Direct.consume?, here, stays]
  | directory s =>
      have here : s.sink = g :: rest := front
      have stays : s.consumerGone = false := there
      simp [step?, Schedule.State.step?, Schedule.State.consume?, here, stays]

/-- A traversal that has not returned goes on, as long as there is room for a group or no writer
that would have to make room. -/
theorem Fits.goesOn (limits : l.Positive) (fits : Fits root tr) (active : tr.result = none)
    (room : tr.sink.length < l.groupBuffer ∨ tr.consumerGone = true) :
    ∃ event tr', event ≠ .consume ∧ event ≠ .quit ∧ tr.step? l event = some tr' := by
  cases fits with
  | @direct _ d fits =>
      have open_ : d.result = none := active
      cases left : d.left with
      | cons g rest =>
          have here : (d.step? l .hand).isSome = true := by
            simp only [Direct.step?, Direct.hand?, left, open_, Option.isNone_none, if_true]
            rcases room with room | gone
            · have room : d.sink.length < l.groupBuffer := room
              cases d.consumerGone <;> simp [room]
            · have gone : d.consumerGone = true := gone
              simp [gone]
          obtain ⟨d', next⟩ := Option.isSome_iff_exists.mp here
          exact ⟨.hand, .direct d', nofun, nofun, Option.map_eq_some_iff.mpr ⟨d', next, rfl⟩⟩
      | nil =>
          have here : (d.step? l .idle).isSome = true := by
            cases failed : d.failure <;> simp [Direct.step?, Direct.idle?, left, open_, failed]
          obtain ⟨d', next⟩ := Option.isSome_iff_exists.mp here
          exact ⟨.idle, .direct d', nofun, nofun, Option.map_eq_some_iff.mpr ⟨d', next, rfl⟩⟩
  | directory invariant behind =>
      obtain ⟨event, s', noConsume, noQuit, next⟩ :=
        Schedule.State.goesOn limits behind active room
      exact ⟨event, .directory s', noConsume, noQuit, Option.map_eq_some_iff.mpr ⟨s', next, rfl⟩⟩

end Traversing

end Completion

end MessageCatalog.Pipeline
