import MessageCatalog.Proofs.Pipeline.Invariant
import MessageCatalog.Proofs.Pipeline.Sequential

/-! # What a pipeline writes

Whatever the schedule and whatever the sink refuses, the sink gets the text of all roots in their
order up to some byte, and never text behind a root that fails. An extraction that succeeds has
written and flushed all of it, and one that fails has done so for all roots before the one it fails
at.
-/

namespace MessageCatalog.Pipeline

open Schedule (Limits)

namespace RootWork

theorem throughFailure_append {done : List RootWork} (read : ∀ root ∈ done, root.failures = [])
    (roots : List RootWork) : throughFailure (done ++ roots) = done ++ throughFailure roots := by
  induction done with
  | nil => rfl
  | cons root done ih =>
      obtain ⟨first, others⟩ := List.forall_mem_cons.mp read
      rw [List.cons_append, throughFailure, if_pos first, ih others, List.cons_append]

theorem exists_throughFailure_cons (root : RootWork) (roots : List RootWork) :
    ∃ others, throughFailure (root :: roots) = root :: others := by
  rw [throughFailure]
  split
  · exact ⟨_, rfl⟩
  · exact ⟨[], rfl⟩

end RootWork

namespace Invariant

variable {works : List RootWork} {mayRefuse : Prop} {s : State}

/-- What the sink has taken belongs to the roots that are done with and to the next one. -/
theorem accepted_prefix (h : Invariant works mayRefuse s) :
    s.accepted <+: Utf8.bytes (RootWork.texts (RootWork.throughFailure works)) := by
  obtain ⟨part, count, taken, _, holds⟩ := h.holds
  rw [taken, h.flushed, ← h.order, List.append_assoc, RootWork.throughFailure_append h.read,
    RootWork.texts_append, Utf8.bytes_append, List.prefix_append_right_inj]
  cases here : s.stage.root? with
  | none =>
      rw [holds.part_eq_nil here]
      exact List.nil_prefix
  | some root =>
      -- The root at work may be the one that fails, but it still belongs to the text.
      obtain ⟨others, first⟩ := RootWork.exists_throughFailure_cons root s.later
      rw [Option.toList_some, List.singleton_append, first, RootWork.texts, Utf8.bytes_append]
      exact (holds.part_prefix here).trans (List.prefix_append _ _)

theorem done_eq (h : Invariant works mayRefuse s) {summary : Summary}
    (returned : s.result = some (.ok summary)) : s.done = works ∧ s.later = [] ∧
      s.accepted = s.flushed ∧ summary = RootWork.summary works := by
  obtain ⟨stage, atEnd, counts⟩ := h.succeeded summary returned
  obtain ⟨part, count, taken, counted, holds⟩ := h.holds
  have done := h.order
  rw [stage] at holds done
  cases holds
  rw [atEnd, Stage.root?, Option.toList_none, List.append_nil, List.append_nil] at done
  rw [h.files, counted, done, Nat.add_zero] at counts
  exact ⟨done, atEnd, by rw [taken, List.append_nil], counts⟩

theorem wrote (h : Invariant works mayRefuse s) {result : Except Failure Summary}
    (returned : s.result = some result) :
    Wrote works mayRefuse s.later s.accepted s.flushed result := by
  cases result with
  | ok summary =>
      obtain ⟨done, atEnd, last, rfl⟩ := h.done_eq returned
      rw [atEnd, last, h.flushed, done]
      exact .ok (done ▸ h.read)
  | error e =>
      obtain ⟨root, here, cause⟩ := h.failed e returned
      obtain ⟨part, count, taken, _, holds⟩ := h.holds
      have order : works = s.done ++ root :: s.later := by
        rw [← h.order, here, Option.toList_some, List.append_assoc, List.singleton_append]
      rw [taken, h.flushed]
      exact .error order h.read List.prefix_rfl (holds.part_prefix here) cause

end Invariant

/-- Under every schedule, whatever becomes of each root, and whatever the sink takes or refuses:
the bytes that the sink has taken are at any time the first ones of the text of all roots up to the
first one that fails. An extraction that succeeds has not failed at any root, and the sink has
taken all text and was flushed after its last byte. An extraction that fails at a root does so with
a failure of that root or of the sink; the sink has taken all text of the roots before it and was
flushed then, and of what followed it has taken a first part of the text of that root. The later
roots have not begun, and nothing happens after the extraction has returned. Extracting root after
root into a sink that keeps what it takes leaves the same behind, and a failure does not depend on
later roots. -/
theorem writes_in_order {l : Limits} (limits : l.Positive) (mayRefuse : Prop)
    (works : List RootWork) :
    (∀ s, Reachable l mayRefuse (.initial works) s →
      s.accepted <+: Utf8.bytes (RootWork.texts (RootWork.throughFailure works)) ∧
        (∀ result, s.result = some result →
          Wrote works mayRefuse s.later s.accepted s.flushed result) ∧
        (s.result ≠ none → ∀ event, s.step? l event = none)) ∧
      ∀ (σ : Type) (sink : Sink σ) (view : Sink.View σ) (state : σ) (rules : Rules) (t : FileTree)
        (cwd : String) (paths : List String),
        sink.Keeps view mayRefuse → view.Fresh state →
        works = paths.map (RootWork.ofRoot rules t cwd) →
        let run := Extraction.run (fun _ => Traversal.ofRoot rules t cwd) (.new sink state)
        ∃ begun later, paths = begun ++ later ∧
          Wrote works mayRefuse (later.map (RootWork.ofRoot rules t cwd))
            (view.taken (run paths).2.state) (view.flushed (run paths).2.state) (run paths).1 ∧
          ∀ e, (run paths).1 = .error e → ∀ others, run (begun ++ others) = run paths := by
  refine ⟨fun s reached => ?_, ?_⟩
  · have h := reached.invariant limits
    exact ⟨h.accepted_prefix, fun result => h.wrote,
      fun returned event => if_pos (Option.isSome_iff_ne_none.mpr returned)⟩
  · rintro σ sink view state rules t cwd paths keeps fresh rfl run
    exact run_wrote keeps fresh (fun path _ _ => RootWork.gives_ofRoot rules t cwd path) rfl

/-- A root that does not exist ends the extraction behind a file with one group. The same root is
extracted into a store with room for ten bytes. -/
theorem writes_in_order_missing_root :
    let e : Failure := .stat "b.js" (.os .notFound)
    let works : List RootWork :=
      [.file ⟨"a.js", [⟨⟨"a.js", 1⟩, ["\"a\""]⟩], none⟩, .missing e, .special]
    let s := (State.initial works).run .standard 20
    let rules : Rules := .default "/"
    let view := Store.view (some 10)
    let mayRefuse := some 10 ≠ (none : Option Nat)
    let run := Extraction.run (fun _ => Traversal.ofRoot rules .empty "/")
      (.new Store.sink (Store.empty (some 10))) ["b.js"]
    Limits.standard.Positive ∧ Reachable .standard True (.initial works) s ∧
      s.result = some (.error e) ∧ Wrote works True s.later s.accepted s.flushed (.error e) ∧
      Store.sink.Keeps view mayRefuse ∧ view.Fresh (Store.empty (some 10)) ∧ ∃ later,
        Wrote (["b.js"].map (RootWork.ofRoot rules .empty "/")) mayRefuse later
          (view.taken run.2.state) (view.flushed run.2.state) run.1 := by
  intro e works s rules view mayRefuse run
  have positive := Schedule.Limits.standard_positive
  have reached : Reachable .standard True (.initial works) s := .run 20 .refl
  have returned : s.result = some (.error e) := by decide +kernel
  have safe := (writes_in_order positive True works).1 s reached
  have keeps : Store.sink.Keeps view mayRefuse := Store.keeps (some 10)
  have fresh : view.Fresh (Store.empty (some 10)) := Store.fresh_empty (some 10)
  obtain ⟨_, later, _, wrote, _⟩ := (writes_in_order positive mayRefuse _).2 _ _ _ _ rules .empty
    "/" ["b.js"] keeps fresh rfl
  exact ⟨positive, reached, returned, safe.2.1 _ returned, keeps, fresh, _, wrote⟩

end MessageCatalog.Pipeline
