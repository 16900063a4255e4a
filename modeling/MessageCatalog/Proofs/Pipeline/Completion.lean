import MessageCatalog.Proofs.Pipeline.Invariant

/-! # Pipelines come to an end

As for schedules of directories, every event leaves less to do, and something can happen until the
extraction has returned. So every schedule ends, and only by returning.
-/

namespace MessageCatalog.Pipeline

open Schedule (Limits)

/-- What is left to do about a group that the writer has not received, but for handing it over. -/
def weigh (g : MessageGroup) : Nat := (Utf8.bytes (Catalog.renderGroup g)).length + 1

def Writing.remaining : Writing → Nat
  | .waiting => 1
  | .writing left _ => left.length + 2
  | .ended _ => 0

/-- What is left to do about a root after its head. -/
def RootWork.remaining (root : RootWork) : Nat := (Traversing.start root).remaining weigh + 4

def Stage.remaining : Stage → Nat
  | .between => 1
  | .header root left => left.length + 1 + root.remaining
  | .body _ tr writing => tr.remaining weigh + writing.remaining + 3
  | .flushing _ _ => 2

/-- What is left to do in an extraction. A byte counts as long as the sink has not taken it,
wherever its group is. -/
def State.remaining (s : State) : Nat :=
  s.stage.remaining +
    (s.later.map fun root => (Utf8.bytes Catalog.header).length + 1 + root.remaining).sum +
    s.result.isNone.toNat

theorem Step.remaining_lt {l : Limits} {s s' : State} (active : s.result = none) {event : Event}
    (step : Step l s event s') : s'.remaining < s.remaining := by
  cases step with
  | begin stage next =>
      simp only [State.remaining, stage, next, Stage.remaining, List.map_cons, List.sum_cons]
      omega
  | acceptHeader stage some offered =>
      simp only [State.remaining, stage, Stage.remaining, List.length_drop]
      omega
  | acceptGroup stage some offered =>
      simp only [State.remaining, stage, Stage.remaining, Writing.remaining, List.length_drop]
      omega
  | refuseHeader stage => simp [State.remaining, State.finishWith, active]
  | refuseGroup stage gone =>
      have less := Traversing.remaining_lt weigh gone
      simp only [State.remaining, stage, Stage.remaining, Writing.remaining]
      omega
  | wroteHeader stage =>
      simp only [State.remaining, stage, Stage.remaining, Writing.remaining, RootWork.remaining]
      omega
  | wroteGroup stage =>
      simp only [State.remaining, stage, Stage.remaining, Writing.remaining]
      omega
  | traverse stage noConsume noQuit next =>
      have less := Traversing.remaining_lt weigh next
      simp only [State.remaining, stage, Stage.remaining]
      omega
  | receive stage front next =>
      -- The bytes of the group move from the traversal to the writer.
      have less := Traversing.remaining_consume weigh front next
      simp only [State.remaining, stage, Stage.remaining, Writing.remaining, weigh] at less ⊢
      omega
  | close stage empty returned =>
      simp only [State.remaining, stage, Stage.remaining, Writing.remaining]
      omega
  | joinFailed stage failed => simp [State.remaining, State.finishWith, active]
  | joinRefused stage returned => simp [State.remaining, State.finishWith, active]
  | join stage returned =>
      simp only [State.remaining, stage, Stage.remaining]
      omega
  | flush stage =>
      simp only [State.remaining, stage, Stage.remaining]
      omega
  | refuseFlush stage => simp [State.remaining, State.finishWith, active]
  | finish stage atEnd => simp [State.remaining, State.finishWith, active]

/-- A schedule has at most as many events as there is to do. -/
theorem State.length_le_of_steps {l : Limits} {s s' : State} {events : List Event}
    (h : s.steps? l events = some s') : events.length ≤ s.remaining := by
  induction events generalizing s with
  | nil => exact Nat.zero_le _
  | cons event events ih =>
      rw [steps?] at h
      split at h
      · rename_i next here
        obtain ⟨active, step⟩ := Step.of_step? here
        exact Nat.succ_le_of_lt ((ih h).trans_lt (step.remaining_lt active))
      · cases h

/-- Something can happen that is no refusal of the sink. -/
def State.GoesOn (l : Limits) (s : State) : Prop :=
  ∃ event s', event.isRefusal = false ∧ s.step? l event = some s'

namespace State

variable {l : Limits} {s : State}

theorem GoesOn.of_isSome {event : Event} (possible : (s.step? l event).isSome = true)
    (accepts : event.isRefusal = false) : s.GoesOn l := by
  obtain ⟨s', next⟩ := Option.isSome_iff_exists.mp possible
  exact ⟨event, s', accepts, next⟩

theorem goesOn_left (active : s.result = none) {b : UInt8} {left : List UInt8}
    (offered : s.stage.left = b :: left) : s.GoesOn l := by
  have here : (s.step? l (.accept (b :: left).length)).isSome = true := by
    simp [step?, active, accept?, offered]
  exact .of_isSome here rfl

theorem goesOn_traversal (limits : l.Positive) (active : s.result = none) {root : RootWork}
    {tr : Traversing} {writing : Writing} (stage : s.stage = .body root tr writing)
    (fits : tr.Fits root) (open_ : tr.result = none)
    (room : tr.sink.length < l.groupBuffer ∨ tr.consumerGone = true) : s.GoesOn l := by
  obtain ⟨event, tr', noConsume, noQuit, next⟩ := fits.goesOn limits open_ room
  have here : (s.step? l (.traverse event)).isSome = true := by
    simp [step?, active, traverse?, stage, noConsume, noQuit, next]
  exact .of_isSome here rfl

theorem goesOn_ended (active : s.result = none) {root : RootWork} {tr : Traversing}
    {outcome : Except Failure Unit} (stage : s.stage = .body root tr (.ended outcome))
    {result : Except Failure Nat} (returned : tr.result = some result) : s.GoesOn l := by
  have here : (s.step? l .join).isSome = true := by
    cases result <;> cases outcome <;> simp [step?, active, join?, stage, returned]
  exact .of_isSome here rfl

theorem goesOn_waiting (limits : l.Positive) (active : s.result = none) {root : RootWork}
    {tr : Traversing} (stage : s.stage = .body root tr .waiting) (fits : tr.Fits root)
    (there : tr.consumerGone = false) : s.GoesOn l := by
  cases front : tr.sink with
  | cons g rest =>
      obtain ⟨tr', next⟩ := Traversing.exists_consume (l := l) front there
      have here : (s.step? l .receive).isSome = true := by
        simp [step?, active, receive?, stage, front, next]
      exact .of_isSome here rfl
  | nil =>
      cases returned : tr.result with
      | none =>
          -- Nothing waits for the writer, so that there is room for what the traversal hands over.
          refine goesOn_traversal limits active stage fits returned (.inl ?_)
          rw [front]
          exact limits.groupBuffer
      | some outcome =>
          have here : (s.step? l .close).isSome = true := by
            simp [step?, active, close?, stage, front, returned]
          exact .of_isSome here rfl

end State

/-- An extraction that has not returned goes on, also without a refusal of the sink. -/
theorem Invariant.goesOn {l : Limits} (limits : l.Positive) {works : List RootWork}
    {mayRefuse : Prop} {s : State} (h : Invariant works mayRefuse s) (active : s.result = none) :
    s.GoesOn l := by
  obtain ⟨part, count, _, _, holds⟩ := h.holds
  generalize stage : s.stage = stage at holds
  cases holds with
  | between =>
      cases later : s.later with
      | nil =>
          have here : (s.step? l .finish).isSome = true := by
            simp [State.step?, active, State.finish?, stage, later]
          exact .of_isSome here rfl
      | cons root roots =>
          have here : (s.step? l .begin).isSome = true := by
            simp [State.step?, active, State.begin?, stage, later]
          exact .of_isSome here rfl
  | @header _ _ left order =>
      cases left with
      | nil =>
          have here : (s.step? l .wrote).isSome = true := by
            simp [State.step?, active, State.wrote?, stage]
          exact .of_isSome here rfl
      | cons b left => exact State.goesOn_left active (by rw [stage]; rfl)
  | waiting fits there => exact State.goesOn_waiting limits active stage fits there
  | @writing _ _ _ _ _ left fits there last order =>
      cases left with
      | nil =>
          have here : (s.step? l .wrote).isSome = true := by
            simp [State.step?, active, State.wrote?, stage]
          exact .of_isSome here rfl
      | cons b left => exact State.goesOn_left active (by rw [stage]; rfl)
  | ended fits there empty returned => exact State.goesOn_ended active stage returned
  | @refused _ tr _ _ _ fits gone refuses begun =>
      -- Without a writer the traversal needs no room: it finds out and returns.
      cases returned : tr.result with
      | none => exact State.goesOn_traversal limits active stage fits returned (.inr gone)
      | some result => exact State.goesOn_ended active stage returned
  | flushing read =>
      have here : (s.step? l .flush).isSome = true := by
        simp [State.step?, active, State.flush?, stage]
      exact .of_isSome here rfl

theorem Reachable.exists_returned {l : Limits} (limits : l.Positive) {mayRefuse : Prop}
    {works : List RootWork} {s : State} (reached : Reachable l mayRefuse (.initial works) s) :
    ∃ s', Reachable l mayRefuse (.initial works) s' ∧ s'.result ≠ none := by
  -- By recursion on what is left to do.
  by_cases active : s.result = none
  · obtain ⟨event, next, accepts, here⟩ := (reached.invariant limits).goesOn limits active
    have less := (Step.of_step? here).2.remaining_lt active
    exact exists_returned limits (.step reached (fun refusal => by simp [accepts] at refusal) here)
  · exact ⟨s, reached, active⟩
termination_by s.remaining

end MessageCatalog.Pipeline
