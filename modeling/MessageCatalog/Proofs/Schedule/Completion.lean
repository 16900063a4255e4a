import MessageCatalog.Proofs.Schedule.Step

/-! # Schedules come to an end

Every event leaves less to do, so that no schedule goes on for ever. As long as the traversal has
not returned, and its consumer has room for a group or has gone away, something can happen.
-/

namespace MessageCatalog.Schedule

variable (weigh : MessageGroup → Nat)

/-- What is left to do about groups that have some steps before them, if each weighs something on
its own. -/
def load (steps : Nat) (groups : List MessageGroup) : Nat :=
  (groups.map fun g => weigh g + steps).sum

@[simp]
theorem load_nil (steps : Nat) : load weigh steps [] = 0 := rfl

@[simp]
theorem load_cons (steps : Nat) (g : MessageGroup) (groups : List MessageGroup) :
    load weigh steps (g :: groups) = weigh g + steps + load weigh steps groups := by
  simp only [load, List.map_cons, List.sum_cons]

@[simp]
theorem load_append (steps : Nat) (groups more : List MessageGroup) :
    load weigh steps (groups ++ more) = load weigh steps groups + load weigh steps more := by
  simp only [load, List.map_append, List.sum_append]

def FileWork.remaining (work : FileWork) : Nat := load weigh 4 work.groups + 4

/-- What is left to do about a run, but for leaving it behind. -/
def Run.remaining (r : Run) : Nat :=
  load weigh 4 r.left + load weigh 3 r.buffer + (!r.ended).toNat + (!r.joined).toNat

def Listed.remaining : Listed → Nat
  | .file work => work.remaining weigh
  | .failed _ => 0

/-- What is left to do in a traversal. Every event moves something on by one place, or uses up one
of the flags. -/
def State.remaining (s : State) : Nat :=
  -- A group passes its run, the buffer of the run, the aggregator and the sink: 4, 3, 2, 1 steps.
  (s.unlisted.map fun item => item.remaining weigh + 2).sum +
    (s.listing.map fun item => item.remaining weigh + 1).sum +
    (s.queued.map (FileWork.remaining weigh)).sum + (s.runs.map (Run.remaining weigh)).sum +
    (s.runs.length - s.drained) + load weigh 2 s.sending.toList + load weigh 1 s.sink +
    (!s.walkerGone).toNat + (!s.progress.listingDone).toNat + (!s.consumerGone).toNat +
    s.result.isNone.toNat

theorem sum_map_set {α : Type} (f : α → Nat) {items : List α} {i : Nat} {a : α} (b : α)
    (here : items[i]? = some a) : ((items.set i b).map f).sum + f a = (items.map f).sum + f b := by
  induction items generalizing i with
  | nil => cases here
  | cons c items ih =>
      cases i with
      | zero =>
          cases here
          simp only [List.set_cons_zero, List.map_cons, List.sum_cons]
          omega
      | succ i =>
          have rest := ih here
          simp only [List.set_cons_succ, List.map_cons, List.sum_cons]
          omega

section State

variable {s : State}

theorem remaining_setRun {i : Nat} {r : Run} (changed : Run) (run : s.runs[i]? = some r) :
    (s.setRun i changed).remaining weigh + r.remaining weigh =
      s.remaining weigh + changed.remaining weigh := by
  have runs := sum_map_set (Run.remaining weigh) changed run
  simp only [State.remaining, State.setRun, List.length_set]
  omega

theorem remaining_finishWith (active : s.result = none) (result : Except Failure Nat) :
    (s.finishWith result).remaining weigh + 1 = s.remaining weigh := by
  simp [State.remaining, State.finishWith, active]

theorem remaining_settle_le (active : s.result = none) (complete : Bool) :
    (s.settle complete).remaining weigh ≤ s.remaining weigh := by
  unfold State.settle
  split
  · have returned := remaining_finishWith weigh active (.ok s.progress.discovered)
    exact Nat.le_of_succ_le returned.le
  · exact Nat.le_refl _

end State

theorem Step.remaining_lt {l : Limits} {s s' : State} {event : Event} (step : Step l s event s') :
    s'.remaining weigh < s.remaining weigh := by
  cases step with
  | list next active room =>
      simp only [State.remaining, next, List.map_cons, List.map_append, List.map_nil, List.sum_cons,
        List.sum_append, List.sum_nil]
      omega
  | leave atEnd active there =>
      simp [State.remaining, there]
  | @push i r g rest run next active room =>
      have changed := remaining_setRun weigh
        { r with left := rest, buffer := r.buffer ++ [g] } run
      simp only [Run.remaining, next, load_cons, load_append, load_nil] at changed
      omega
  | @finish i r run atEnd active going =>
      have changed := remaining_setRun weigh { r with ended := true } run
      simp only [Run.remaining, going, Bool.not_false, Bool.not_true, Bool.toNat_true,
        Bool.toNat_false] at changed
      omega
  | start next active free room =>
      simp only [State.remaining, next, FileWork.remaining, Run.remaining, Run.start, load_nil,
        List.map_cons, List.map_append, List.map_nil, List.sum_cons, List.sum_append, List.sum_nil,
        List.length_append, List.length_singleton, Bool.not_false, Bool.toNat_true]
      omega
  | @joinFailed i r e run waiting atEnd new failed =>
      have changed := remaining_setRun weigh { r with joined := true } run
      have returned := remaining_finishWith weigh
        (s := s.setRun i { r with joined := true }) (State.isWaiting_iff.mp waiting).1 (.error e)
      simp only [Run.remaining, new, Bool.not_false, Bool.not_true, Bool.toNat_true,
        Bool.toNat_false] at changed
      omega
  | @join i r run waiting atEnd new read =>
      -- The run pays for the event; whether the traversal returns as well does not matter.
      have changed := remaining_setRun weigh { r with joined := true } run
      have settled := remaining_settle_le weigh
        (s := { s.setRun i { r with joined := true } with progress := s.progress.childFinished.2 })
        (State.isWaiting_iff.mp waiting).1 s.progress.childFinished.1
      have counted : State.remaining weigh
          { s.setRun i { r with joined := true } with progress := s.progress.childFinished.2 } =
            (s.setRun i { r with joined := true }).remaining weigh := rfl
      simp only [Run.remaining, new, Bool.not_false, Bool.not_true, Bool.toNat_true,
        Bool.toNat_false] at changed
      omega
  | @receive r others g rest front next waiting =>
      have changed := remaining_setRun weigh { r with buffer := rest }
        (State.getElem?_of_pending front)
      simp only [Run.remaining, next, load_cons] at changed
      simp only [State.remaining, (State.isWaiting_iff.mp waiting).2.1, Option.toList_none,
        Option.toList_some, load_nil, load_cons] at changed ⊢
      omega
  | @drain r others front waiting empty atEnd =>
      -- The number of runs that are not left behind must not be zero already.
      have settled := remaining_settle_le weigh (s := { s with drained := s.drained + 1 })
        (State.isWaiting_iff.mp waiting).1 s.progress.isComplete
      have inside := (List.getElem?_eq_some_iff.mp (State.getElem?_of_pending front)).1
      refine settled.trans_lt ?_
      simp only [State.remaining]
      omega
  | hearFile next waiting wanted =>
      simp only [State.remaining, next, Listed.remaining, Progress.childDiscovered, List.map_cons,
        List.map_append, List.map_nil, List.sum_cons, List.sum_append, List.sum_nil]
      omega
  | @hearFailed e rest next waiting wanted =>
      have returned := remaining_finishWith weigh (s := { s with listing := rest })
        (State.isWaiting_iff.mp waiting).1 (.error e)
      simp only [State.remaining, next, List.map_cons, List.sum_cons] at returned ⊢
      omega
  | hearEnd empty gone waiting wanted =>
      have settled := remaining_settle_le weigh
        (s := { s with progress := s.progress.listingFinished.2 })
        (State.isWaiting_iff.mp waiting).1 s.progress.listingFinished.1
      have listing : s.progress.listingDone = false := by
        simp only [State.wantsListing, Bool.and_eq_true, Bool.not_eq_true'] at wanted
        exact wanted.1
      refine settled.trans_lt ?_
      simp [State.remaining, listing, Progress.listingFinished]
  | idle waiting joined drained unwanted =>
      have returned := remaining_finishWith weigh (State.isWaiting_iff.mp waiting).1
        (.ok s.progress.discovered)
      exact Nat.lt_of_succ_le returned.le
  | handGone next active gone =>
      have returned := remaining_finishWith weigh active (.ok s.progress.discovered)
      exact Nat.lt_of_succ_le returned.le
  | hand next active there room =>
      simp only [State.remaining, next, Option.toList_none, Option.toList_some, load_nil, load_cons,
        load_append]
      omega
  | consume next there =>
      simp only [State.remaining, next, load_cons]
      omega
  | quit there => simp [State.remaining, there]

/-- Room for at least one of everything. -/
structure Limits.Positive (l : Limits) : Prop where
  openFiles : 0 < l.openFiles
  queuedFiles : 0 < l.queuedFiles
  listingBuffer : 0 < l.listingBuffer
  fileBuffer : 0 < l.fileBuffer
  groupBuffer : 0 < l.groupBuffer

theorem Limits.standard_positive : Limits.standard.Positive :=
  ⟨by decide, by decide, by decide, by decide, by decide⟩

/-- Runs that were left behind are there, and have ended. -/
structure State.LeftBehind (s : State) : Prop where
  le : s.drained ≤ s.runs.length
  ended : ∀ i r, s.runs[i]? = some r → i < s.drained → r.ended = true

namespace State.LeftBehind

variable {s : State}

theorem setRun (h : s.LeftBehind) {i : Nat} {r changed : Run} (run : s.runs[i]? = some r)
    (ended : r.ended = true → changed.ended = true) : (s.setRun i changed).LeftBehind := by
  refine ⟨by simpa only [State.setRun, List.length_set] using h.le, fun j other at_ behind => ?_⟩
  rw [State.setRun, List.getElem?_set] at at_
  split at at_
  · rename_i same
    subst same
    split at at_
    · cases at_
      exact ended (h.ended i r run behind)
    · cases at_
  · exact h.ended j other at_ behind

theorem frame (h : s.LeftBehind) {s' : State} (runs : s'.runs = s.runs)
    (drained : s'.drained = s.drained) : s'.LeftBehind := by
  refine ⟨?_, ?_⟩
  · rw [runs, drained]
    exact h.le
  · rw [runs, drained]
    exact h.ended

theorem settle (h : s.LeftBehind) (complete : Bool) : (s.settle complete).LeftBehind := by
  unfold State.settle
  split
  · exact h.frame rfl rfl
  · exact h

theorem step (h : s.LeftBehind) {l : Limits} {event : Event} {s' : State}
    (step : Step l s event s') : s'.LeftBehind := by
  cases step with
  | push run next active room => exact h.setRun run id
  | finish run atEnd active going => exact h.setRun run fun _ => rfl
  | start next active free room =>
      refine ⟨?_, fun i r run behind => ?_⟩
      · simp only [List.length_append, List.length_singleton]
        exact Nat.le_succ_of_le h.le
      · rw [List.getElem?_append_left (behind.trans_le h.le)] at run
        exact h.ended i r run behind
  | @joinFailed i r e run waiting atEnd new failed =>
      have joined : (s.setRun i { r with joined := true }).LeftBehind := h.setRun run id
      exact joined.frame rfl rfl
  | @join i r run waiting atEnd new read =>
      have joined : (s.setRun i { r with joined := true }).LeftBehind := h.setRun run id
      refine settle ?_ _
      exact joined.frame rfl rfl
  | @receive r others g rest front next waiting =>
      have received : (s.setRun s.drained { r with buffer := rest }).LeftBehind :=
        h.setRun (State.getElem?_of_pending front) id
      exact received.frame rfl rfl
  | drain front waiting empty atEnd =>
      have run := State.getElem?_of_pending front
      refine settle ?_ _
      refine ⟨(List.getElem?_eq_some_iff.mp run).1, fun i r at_ behind => ?_⟩
      rcases Nat.lt_succ_iff_lt_or_eq.mp behind with before | rfl
      · exact h.ended i r at_ before
      · cases run.symm.trans at_
        exact atEnd
  | hearEnd empty gone waiting wanted =>
      refine settle ?_ _
      exact h.frame rfl rfl
  | list next active room => exact h.frame rfl rfl
  | leave atEnd active there => exact h.frame rfl rfl
  | hearFile next waiting wanted => exact h.frame rfl rfl
  | hearFailed next waiting wanted => exact h.frame rfl rfl
  | idle waiting joined drained unwanted => exact h.frame rfl rfl
  | handGone next active gone => exact h.frame rfl rfl
  | hand next active there room => exact h.frame rfl rfl
  | consume next there => exact h.frame rfl rfl
  | quit there => exact h.frame rfl rfl

end State.LeftBehind

/-- Something can happen that is not up to the consumer. -/
def State.GoesOn (l : Limits) (s : State) : Prop :=
  ∃ event s', event ≠ .consume ∧ event ≠ .quit ∧ s.step? l event = some s'

namespace State

variable {l : Limits} {s : State}

theorem GoesOn.of_isSome {event : Event} (possible : (s.step? l event).isSome = true)
    (noConsume : event ≠ .consume) (noQuit : event ≠ .quit) : s.GoesOn l := by
  obtain ⟨s', next⟩ := Option.isSome_iff_exists.mp possible
  exact ⟨event, s', noConsume, noQuit, next⟩

theorem goesOn_sending (active : s.result = none)
    (room : s.sink.length < l.groupBuffer ∨ s.consumerGone = true) {g : MessageGroup}
    (sent : s.sending = some g) : s.GoesOn l := by
  have here : (s.step? l .hand).isSome = true := by
    simp only [step?, hand?, sent, isActive_iff.mpr active, if_true]
    rcases room with room | gone
    · cases s.consumerGone <;> simp [room]
    · simp [gone]
  exact .of_isSome here (by simp) (by simp)

theorem goesOn_pending (limits : l.Positive) (waiting : s.isWaiting l = true) {r : Run}
    {others : List Run} (front : s.pending = r :: others) : s.GoesOn l := by
  have active := isActive_iff.mpr (isWaiting_iff.mp waiting).1
  have run := getElem?_of_pending front
  cases buffer : r.buffer with
  | cons g rest =>
      have here : (s.step? l .receive).isSome = true := by
        simp [step?, receive?, front, buffer, waiting]
      exact .of_isSome here (by simp) (by simp)
  | nil =>
      cases left : r.left with
      | cons g rest =>
          have here : (s.step? l (.push s.drained)).isSome = true := by
            simp [step?, push?, run, left, active, buffer, limits.fileBuffer]
          exact .of_isSome here (by simp) (by simp)
      | nil =>
          cases ended : r.ended with
          | false =>
              have here : (s.step? l (.finish s.drained)).isSome = true := by
                simp [step?, finish?, run, left, active, ended]
              exact .of_isSome here (by simp) (by simp)
          | true =>
              have here : (s.step? l .drain).isSome = true := by
                simp [step?, drain?, front, waiting, buffer, ended]
              exact .of_isSome here (by simp) (by simp)

theorem goesOn_listing (limits : l.Positive) (waiting : s.isWaiting l = true)
    (started : s.queued = []) (listing : s.progress.listingDone = false) : s.GoesOn l := by
  have active := isActive_iff.mpr (isWaiting_iff.mp waiting).1
  have wanted : s.wantsListing l = true := by
    simp [wantsListing, listing, started, limits.queuedFiles]
  cases listed : s.listing with
  | cons item rest =>
      have here : (s.step? l .hear).isSome = true := by
        cases item <;> simp [step?, hear?, waiting, wanted, listed]
      exact .of_isSome here (by simp) (by simp)
  | nil =>
      cases unlisted : s.unlisted with
      | cons item rest =>
          have here : (s.step? l .list).isSome = true := by
            simp [step?, list?, unlisted, active, listed, limits.listingBuffer]
          exact .of_isSome here (by simp) (by simp)
      | nil =>
          cases gone : s.walkerGone with
          | true =>
              have here : (s.step? l .hear).isSome = true := by
                simp [step?, hear?, waiting, wanted, listed, gone]
              exact .of_isSome here (by simp) (by simp)
          | false =>
              have here : (s.step? l .leave).isSome = true := by
                simp [step?, leave?, unlisted, active, gone]
              exact .of_isSome here (by simp) (by simp)

theorem goesOn_joins (behind : s.LeftBehind) (waiting : s.isWaiting l = true)
    (drained : s.pending = []) (listed : s.progress.listingDone = true) : s.GoesOn l := by
  -- A run that is not joined was left behind, so that it has ended and can be joined.
  by_cases all : ∀ r ∈ s.runs, r.joined = true
  · have here : (s.step? l .idle).isSome = true := by
      have joined : s.runs.all (·.joined) = true := List.all_eq_true.mpr all
      simp [step?, idle?, waiting, joined, drained, wantsListing, listed]
    exact .of_isSome here (by simp) (by simp)
  · simp only [not_forall, Bool.not_eq_true] at all
    obtain ⟨r, member, new⟩ := all
    obtain ⟨i, run⟩ := List.mem_iff_getElem?.mp member
    have inside : i < s.drained :=
      (List.getElem?_eq_some_iff.mp run).1.trans_le (List.drop_eq_nil_iff.mp drained)
    have here : (s.step? l (.join i)).isSome = true := by
      cases failed : r.work.failure <;>
        simp [step?, join?, run, waiting, behind.ended i r run inside, new, failed]
    exact .of_isSome here (by simp) (by simp)

/-- A traversal that has not returned goes on, as long as there is room for a group or no consumer
that would have to make room. -/
theorem goesOn (limits : l.Positive) (behind : s.LeftBehind) (active : s.result = none)
    (room : s.sink.length < l.groupBuffer ∨ s.consumerGone = true) : s.GoesOn l := by
  -- The aggregator prefers sending to starting, and starting to waiting.
  cases sent : s.sending with
  | some g => exact goesOn_sending active room sent
  | none =>
      by_cases start : s.canStart l = true
      · have here : (s.step? l .start).isSome = true := by
          cases queued : s.queued with
          | nil => simp [canStart, queued] at start
          | cons work rest => simp [step?, start?, queued, isActive_iff.mpr active, sent, start]
        exact .of_isSome here (by simp) (by simp)
      · have waiting : s.isWaiting l = true := by
          simp [isWaiting, isActive_iff.mpr active, sent, start]
        cases front : s.pending with
        | cons r others => exact goesOn_pending limits waiting front
        | nil =>
            cases listed : s.progress.listingDone with
            | true => exact goesOn_joins behind waiting front listed
            | false =>
                have started : s.queued = [] := by
                  simpa [canStart, front, limits.openFiles] using start
                exact goesOn_listing limits waiting started listed

end State

end MessageCatalog.Schedule
