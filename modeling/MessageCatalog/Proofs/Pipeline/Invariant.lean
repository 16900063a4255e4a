import MessageCatalog.Proofs.Catalog.Writing
import MessageCatalog.Proofs.Pipeline.Step
import MessageCatalog.Proofs.Pipeline.Traversing

/-! # What every pipeline keeps

At any time the sink has taken all of the roots that are done with, and of the next root a part that
follows from what the writer has received. `Stage.Holds` says which part that is at each stage.
-/

namespace MessageCatalog

namespace Pipeline

open Schedule (Limits)

theorem RootWork.texts_append (roots more : List RootWork) :
    texts (roots ++ more) = texts roots ++ texts more := by
  induction roots with
  | nil => exact (String.empty_append).symm
  | cons root roots ih => simp only [List.cons_append, texts, ih, String.append_assoc]

/-- The part of its root that the sink has taken at a stage, and the messages that count for it. -/
inductive Stage.Holds (mayRefuse : Prop) : Stage → List UInt8 → Nat → Prop where
  | between : Holds mayRefuse .between [] 0
  | header {root part left} (order : part ++ left = Utf8.bytes Catalog.header) :
    Holds mayRefuse (.header root left) part 0
  | waiting {root tr} (fits : tr.Fits root) (there : tr.consumerGone = false) :
    Holds mayRefuse (.body root tr .waiting) (Utf8.bytes (Catalog.renderRoot tr.consumed))
      (MessageGroup.sizes tr.consumed)
  | writing {root tr before g part left} (fits : tr.Fits root) (there : tr.consumerGone = false)
    (last : tr.consumed = before ++ [g])
    (order : part ++ left = Utf8.bytes (Catalog.renderRoot tr.consumed)) :
    Holds mayRefuse (.body root tr (.writing left g)) part (MessageGroup.sizes before)
  | ended {root tr outcome} (fits : tr.Fits root) (there : tr.consumerGone = false)
    (empty : tr.sink = []) (returned : tr.result = some outcome) :
    Holds mayRefuse (.body root tr (.ended (.ok ())))
      (Utf8.bytes (Catalog.renderRoot tr.consumed)) (MessageGroup.sizes tr.consumed)
  | refused {root tr cause part count} (fits : tr.Fits root) (gone : tr.consumerGone = true)
    (refuses : mayRefuse) (begun : part <+: Utf8.bytes (Catalog.renderRoot tr.consumed)) :
    Holds mayRefuse (.body root tr (.ended (.error (.output cause)))) part count
  | flushing {root} (read : root.failures = []) :
    Holds mayRefuse (.flushing root root.files) (Utf8.bytes root.text) root.entries

namespace Stage.Holds

variable {mayRefuse : Prop} {l : Limits} {root : RootWork} {tr tr' : Traversing} {part : List UInt8}
  {count : Nat}

theorem takeHeader {left : List UInt8} (h : Holds mayRefuse (.header root left) part count)
    (some : Nat) :
    Holds mayRefuse (.header root (left.drop some)) (part ++ left.take some) count := by
  cases h with
  | header order =>
      refine .header ?_
      rw [List.append_assoc, List.take_append_drop, order]

theorem takeGroup {left : List UInt8} {g : MessageGroup}
    (h : Holds mayRefuse (.body root tr (.writing left g)) part count) (some : Nat) :
    Holds mayRefuse (.body root tr (.writing (left.drop some) g)) (part ++ left.take some)
      count := by
  cases h with
  | writing fits there last order =>
      refine .writing fits there last ?_
      rw [List.append_assoc, List.take_append_drop, order]

theorem refuse (limits : l.Positive) {left : List UInt8} {g : MessageGroup}
    (h : Holds mayRefuse (.body root tr (.writing left g)) part count) (refuses : mayRefuse)
    (gone : tr.step? l .quit = some tr') (cause : Cause) :
    Holds mayRefuse (.body root tr' (.ended (.error (.output cause)))) part count := by
  cases h with
  | writing fits there last order =>
      -- From here on the sink has less than what was received, and stays there.
      refine .refused (fits.step limits gone) (Traversing.consumerGone_quit gone) refuses ?_
      rw [Traversing.consumed_eq gone nofun, ← order]
      exact List.prefix_append part left

theorem wroteHeader (h : Holds mayRefuse (.header root []) part count) :
    Holds mayRefuse (.body root (.start root) .waiting) part count := by
  have nothing : (Traversing.start root).consumed = [] := by cases root <;> rfl
  have there : (Traversing.start root).consumerGone = false := by cases root <;> rfl
  cases h with
  | header order =>
      have waiting : Holds mayRefuse (.body root (.start root) .waiting) _ _ :=
        .waiting (.start root) there
      rw [nothing] at waiting
      rw [List.append_nil] at order
      rw [order]
      simpa [Catalog.renderRoot, Catalog.renderGroups, MessageGroup.sizes] using waiting

theorem wroteGroup {g : MessageGroup}
    (h : Holds mayRefuse (.body root tr (.writing [] g)) part count) :
    Holds mayRefuse (.body root tr .waiting) part (count + g.size) := by
  cases h with
  | writing fits there last order =>
      have waiting : Holds mayRefuse (.body root tr .waiting) _ _ := .waiting fits there
      rw [← order, List.append_nil, last] at waiting
      simpa [MessageGroup.sizes] using waiting

theorem traverse (limits : l.Positive) {writing : Writing} {event : Schedule.Event}
    (h : Holds mayRefuse (.body root tr writing) part count) (noConsume : event ≠ .consume)
    (noQuit : event ≠ .quit) (next : tr.step? l event = some tr') :
    Holds mayRefuse (.body root tr' writing) part count := by
  have consumed := Traversing.consumed_eq next noConsume
  have gone := Traversing.consumerGone_eq next noQuit
  cases h with
  | waiting fits there =>
      rw [← consumed]
      exact .waiting (fits.step limits next) (gone.trans there)
  | writing fits there last order =>
      exact .writing (fits.step limits next) (gone.trans there) (consumed.trans last)
        (consumed ▸ order)
  | ended fits there empty returned =>
      -- The writer ends in this way only after the traversal has returned.
      cases returned.symm.trans (Traversing.result_eq_none next noConsume noQuit)
  | refused fits left refuses begun =>
      exact .refused (fits.step limits next) (gone.trans left) refuses (consumed ▸ begun)

theorem receive (limits : l.Positive) {g : MessageGroup} {rest : List MessageGroup}
    (h : Holds mayRefuse (.body root tr .waiting) part count) (front : tr.sink = g :: rest)
    (next : tr.step? l .consume = some tr') :
    Holds mayRefuse (.body root tr' (.writing (Utf8.bytes (Catalog.renderGroup g)) g)) part
      count := by
  have consumed := Traversing.consumed_consume front next
  have gone := Traversing.consumerGone_eq next nofun
  cases h with
  | waiting fits there =>
      refine .writing (fits.step limits next) (gone.trans there) consumed ?_
      rw [consumed, Catalog.bytes_renderRoot_append]
      simp [Catalog.renderGroups]

theorem close (h : Holds mayRefuse (.body root tr .waiting) part count) (empty : tr.sink = [])
    {outcome : Except Failure Nat} (returned : tr.result = some outcome) :
    Holds mayRefuse (.body root tr (.ended (.ok ()))) part count := by
  cases h with
  | waiting fits there => exact .ended fits there empty returned

theorem join (h : Holds mayRefuse (.body root tr (.ended (.ok ()))) part count) {files : Nat}
    (returned : tr.result = some (.ok files)) :
    Holds mayRefuse (.flushing root files) part count := by
  cases h with
  | ended fits there empty =>
      -- The writer is still there, so that the traversal did not return early for want of one.
      obtain ⟨all, read, rfl⟩ := fits.read_all returned there
      rw [empty, List.append_nil] at all
      rw [all]
      exact .flushing read

theorem failed {writing : Writing} (h : Holds mayRefuse (.body root tr writing) part count)
    {e : Failure} (failed : tr.result = some (.error e) ∨ writing = .ended (.error e)) :
    e ∈ root.failures ∨ mayRefuse ∧ ∃ cause, e = .output cause := by
  rcases failed with failed | rfl
  · cases h with
    | waiting fits => exact .inl (fits.failed failed)
    | writing fits => exact .inl (fits.failed failed)
    | ended fits => exact .inl (fits.failed failed)
    | refused fits => exact .inl (fits.failed failed)
  · cases h with
    | refused fits gone refuses => exact .inr ⟨refuses, _, rfl⟩

theorem part_eq_nil {stage : Stage} (h : Holds mayRefuse stage part count)
    (none : stage.root? = none) : part = [] := by
  cases h with
  | between => rfl
  | header => cases none
  | waiting => cases none
  | writing => cases none
  | ended => cases none
  | refused => cases none
  | flushing => cases none

/-- What the sink has taken at any stage is a first part of its root. -/
theorem part_prefix {stage : Stage} (h : Holds mayRefuse stage part count)
    (here : stage.root? = some root) : part <+: Utf8.bytes root.text := by
  have received {tr : Traversing} (fits : tr.Fits root) :
      Utf8.bytes (Catalog.renderRoot tr.consumed) <+: Utf8.bytes root.text :=
    Catalog.bytes_renderRoot_prefix ((List.prefix_append _ _).trans fits.handed_prefix)
  cases h with
  | between => cases here
  | header order =>
      cases here
      rw [RootWork.text, Catalog.renderRoot, Utf8.bytes_append, ← order, List.append_assoc]
      exact List.prefix_append _ _
  | waiting fits there =>
      cases here
      exact received fits
  | writing fits there last order =>
      cases here
      exact (order ▸ List.prefix_append _ _ : _ <+: _).trans (received fits)
  | ended fits there empty returned =>
      cases here
      exact received fits
  | refused fits gone refuses begun =>
      cases here
      exact begun.trans (received fits)
  | flushing read =>
      cases here
      exact List.prefix_rfl

end Stage.Holds

/-- What every pipeline keeps, for given roots. -/
structure Invariant (works : List RootWork) (mayRefuse : Prop) (s : State) : Prop where
  /-- Each root stands at one place, in its order. -/
  order : s.done ++ s.stage.root?.toList ++ s.later = works
  read : ∀ root ∈ s.done, root.failures = []
  flushed : s.flushed = Utf8.bytes (RootWork.texts s.done)
  files : s.files = (s.done.map RootWork.files).sum
  /-- What the sink has taken since it was flushed fits the stage. -/
  holds : ∃ part count, s.accepted = s.flushed ++ part ∧
    s.entries = (s.done.map RootWork.entries).sum + count ∧ s.stage.Holds mayRefuse part count
  succeeded : ∀ summary, s.result = some (.ok summary) →
    s.stage = .between ∧ s.later = [] ∧ summary = ⟨s.done.length, s.files, s.entries⟩
  failed : ∀ e, s.result = some (.error e) → ∃ root, s.stage.root? = some root ∧
    (e ∈ root.failures ∨ mayRefuse ∧ ∃ cause, e = .output cause)

namespace Invariant

variable {works : List RootWork} {mayRefuse : Prop} {s : State}

theorem initial (works : List RootWork) (mayRefuse : Prop) :
    Invariant works mayRefuse (.initial works) where
  order := rfl
  read := nofun
  flushed := rfl
  files := rfl
  holds := ⟨[], 0, rfl, rfl, .between⟩
  succeeded := nofun
  failed := nofun

/-- The extraction of a root goes on. -/
theorem proceed (h : Invariant works mayRefuse s) (active : s.result = none) {here stage : Stage}
    (from_ : s.stage = here) {accepted part : List UInt8} {entries count : Nat}
    (taken : accepted = s.flushed ++ part)
    (counted : entries = (s.done.map RootWork.entries).sum + count)
    (holds : stage.Holds mayRefuse part count) (same : stage.root? = here.root?) :
    Invariant works mayRefuse { s with stage := stage, accepted := accepted, entries := entries } :=
  { h with
    order := by
      rw [same, ← from_]
      exact h.order
    holds := ⟨part, count, taken, counted, holds⟩
    succeeded := fun summary returned => by simp [active] at returned
    failed := fun e returned => by simp [active] at returned }

theorem fail (h : Invariant works mayRefuse s) {root : RootWork} (here : s.stage.root? = some root)
    {e : Failure} (cause : e ∈ root.failures ∨ mayRefuse ∧ ∃ cause, e = .output cause) :
    Invariant works mayRefuse (s.finishWith (.error e)) :=
  { h with
    succeeded := fun summary returned => by cases returned
    failed := fun e' returned => by
      cases returned
      exact ⟨root, here, cause⟩ }

theorem flush (h : Invariant works mayRefuse s) (active : s.result = none) {root : RootWork}
    {files : Nat} (stage : s.stage = .flushing root files) :
    Invariant works mayRefuse
      { s with
        done := s.done ++ [root]
        stage := .between
        flushed := s.accepted
        files := s.files + files } := by
  obtain ⟨part, count, taken, counted, holds⟩ := h.holds
  rw [stage] at holds
  cases holds with
  | flushing read =>
      exact
        { order := by
            rw [← h.order, stage]
            simp [Stage.root?]
          read := by
            simpa [or_imp, forall_and] using ⟨h.read, read⟩
          flushed := by
            rw [taken, h.flushed, RootWork.texts_append, Utf8.bytes_append, RootWork.texts,
              RootWork.texts, String.append_empty]
          files := by simp [h.files]
          holds := ⟨[], 0, by simp, by simp [counted], .between⟩
          succeeded := fun summary returned => by simp [active] at returned
          failed := fun e returned => by simp [active] at returned }

/-- Every step keeps the invariant. -/
theorem step {l : Limits} (limits : l.Positive) (h : Invariant works mayRefuse s)
    (active : s.result = none) {event : Event} (allowed : event.isRefusal = true → mayRefuse)
    {s' : State} (step : Step l s event s') : Invariant works mayRefuse s' := by
  obtain ⟨part, count, taken, counted, holds⟩ := h.holds
  have more (bytes : List UInt8) : s.accepted ++ bytes = s.flushed ++ (part ++ bytes) := by
    rw [taken, List.append_assoc]
  cases step with
  | begin stage next =>
      rw [stage] at holds
      cases holds
      exact
        { h with
          order := by
            rw [← h.order, stage, next]
            simp [Stage.root?]
          holds := ⟨[], 0, taken, counted, .header rfl⟩
          succeeded := fun summary returned => by simp [active] at returned
          failed := fun e returned => by simp [active] at returned }
  | acceptHeader stage some offered =>
      rw [stage] at holds
      exact h.proceed active stage (more _) counted (holds.takeHeader _) rfl
  | acceptGroup stage some offered =>
      rw [stage] at holds
      exact h.proceed active stage (more _) counted (holds.takeGroup _) rfl
  | refuseHeader stage =>
      exact h.fail (congrArg Stage.root? stage) (.inr ⟨allowed rfl, _, rfl⟩)
  | refuseGroup stage gone =>
      rw [stage] at holds
      exact h.proceed active stage taken counted
        (holds.refuse limits (allowed rfl) gone _) rfl
  | wroteHeader stage =>
      rw [stage] at holds
      exact h.proceed active stage taken counted holds.wroteHeader rfl
  | wroteGroup stage =>
      rw [stage] at holds
      exact h.proceed active stage taken
        ((congrArg (· + _) counted).trans (Nat.add_assoc ..)) holds.wroteGroup rfl
  | traverse stage noConsume noQuit next =>
      rw [stage] at holds
      exact h.proceed active stage taken counted
        (holds.traverse limits noConsume noQuit next) rfl
  | receive stage front next =>
      rw [stage] at holds
      exact h.proceed active stage taken counted
        (holds.receive limits front next) rfl
  | close stage empty returned =>
      rw [stage] at holds
      exact h.proceed active stage taken counted
        (holds.close empty returned) rfl
  | joinFailed stage failed =>
      rw [stage] at holds
      exact h.fail (congrArg Stage.root? stage) (holds.failed (.inl failed))
  | joinRefused stage returned =>
      rw [stage] at holds
      exact h.fail (congrArg Stage.root? stage) (holds.failed (.inr rfl))
  | join stage returned =>
      rw [stage] at holds
      exact h.proceed active stage taken counted
        (holds.join returned) rfl
  | flush stage => exact h.flush active stage
  | refuseFlush stage =>
      exact h.fail (congrArg Stage.root? stage) (.inr ⟨allowed rfl, _, rfl⟩)
  | finish stage atEnd =>
      exact
        { h with
          succeeded := fun summary returned => by
            cases returned
            exact ⟨stage, atEnd, rfl⟩
          failed := fun e returned => by cases returned }

end Invariant

theorem Reachable.invariant {l : Limits} (limits : l.Positive) {mayRefuse : Prop}
    {works : List RootWork} {s : State} (reached : Reachable l mayRefuse (.initial works) s) :
    Invariant works mayRefuse s := by
  induction reached with
  | refl => exact .initial works mayRefuse
  | step _ allowed next ih =>
      obtain ⟨active, step⟩ := Step.of_step? next
      exact ih.step limits active allowed step

end Pipeline

end MessageCatalog
