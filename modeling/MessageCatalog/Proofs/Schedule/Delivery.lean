import MessageCatalog.Proofs.Schedule.Invariant

/-! # What a traversal delivers

Whatever the schedule, the consumer gets the groups of all files in the order of the listing, up to
some point. A traversal that succeeds while the consumer is there has delivered all of them, and a
failure is never lost.
-/

namespace MessageCatalog.Schedule

namespace Invariant

variable {works : List FileWork} {failure : Option Failure} {s : State}

theorem handed_prefix (h : Invariant works failure s) :
    s.handed <+: works.flatMap FileWork.groups := ⟨s.undelivered, h.delivered⟩

theorem unheard_nil (h : Invariant works failure s) (complete : s.Complete) : s.unheard = [] := by
  obtain ⟨gone, empty⟩ := h.listingDone complete.listed
  simp only [State.unheard, empty, h.walkerDone gone, List.append_nil]

theorem handed_eq (h : Invariant works failure s) (complete : s.Complete) :
    s.handed = works.flatMap FileWork.groups := by
  have delivered := h.delivered
  simpa [State.undelivered, complete.sent, complete.drained, complete.started,
    h.unheard_nil complete] using delivered

/-- When nothing is left to do and the traversal has not failed, the aggregator has heard of every
file, and the walker has not failed. -/
theorem heard_eq (h : Invariant works failure s) (complete : s.Complete)
    (ok : ∀ e, s.result ≠ some (.error e)) : s.heard = works ∧ failure = none := by
  obtain ⟨failed, order, result⟩ := h.listed
  have none_failed : failed = none :=
    Option.eq_none_iff_forall_ne_some.mpr fun e same => ok e (result e same)
  subst none_failed
  rw [h.unheard_nil complete] at order
  cases failure with
  | none =>
      refine ⟨?_, rfl⟩
      have files : s.heard.map Listed.file = works.map Listed.file := by
        simpa [announced] using order
      exact (List.map_inj_right fun a b same => by cases same; rfl).mp files
  | some e =>
      have listed : Listed.failed e ∈ announced works (some e) := by simp [announced]
      simp [← order] at listed

theorem read_all (h : Invariant works failure s) {n : Nat} (returned : s.result = some (.ok n))
    (there : s.consumerGone = false) :
    s.handed = works.flatMap FileWork.groups ∧ failure = none ∧
      (∀ work ∈ works, work.failure = none) ∧ n = works.length := by
  obtain ⟨count, atEnd⟩ := h.succeeded n returned
  have complete : s.Complete := atEnd.resolve_left (by simp [there])
  obtain ⟨heard, read⟩ := h.heard_eq complete (by simp [returned])
  refine ⟨h.handed_eq complete, read, ?_, ?_⟩
  · intro work member
    rw [← heard, State.heard, complete.started, List.append_nil] at member
    obtain ⟨r, inside, rfl⟩ := List.mem_map.mp member
    exact complete.read r inside
  · rw [count, h.discovered, heard]

end Invariant

theorem files_of_read (rules : Rules) (t : FileTree) (cwd : String) {paths : List String}
    (read : ∀ path ∈ paths, (Traversal.file rules t cwd path).2 = none) :
    Traversal.files rules t cwd paths =
      (paths.flatMap fun path => (Traversal.file rules t cwd path).1, none) := by
  induction paths with
  | nil => rfl
  | cons path paths ih =>
      obtain ⟨first, others⟩ := List.forall_mem_cons.mp read
      cases work : Traversal.file rules t cwd path with
      | mk groups failed =>
          rw [work] at first
          cases first
          simp only [Traversal.files, work, ih others, List.flatMap_cons]

/-- Every schedule that succeeds in front of its consumer delivers what traversing the directory
file by file gives. -/
theorem Reachable.directory {l : Limits} (openFiles : 0 < l.openFiles)
    (queuedFiles : 0 < l.queuedFiles) {rules : Rules} {t : FileTree} {cwd root : String} {s : State}
    (reached : Reachable l (State.ofRoot rules t cwd root) s) {n : Nat}
    (returned : s.result = some (.ok n)) (there : s.consumerGone = false) :
    s.handed = (Traversal.directory rules t cwd root).groups ∧
      (Traversal.directory rules t cwd root).result = .ok n := by
  obtain ⟨handed, listed, read, count⟩ :=
    (reached.invariant openFiles queuedFiles).read_all returned there
  rw [List.forall_mem_map] at read
  rw [List.flatMap_map] at handed
  rw [List.length_map] at count
  have files := files_of_read rules t cwd read
  simp only [Traversal.directory, files, listed]
  exact ⟨handed, congrArg _ count.symm⟩

/-- Under every schedule, whatever the walker lists, whatever becomes of each file and however
small the buffers are: the groups handed over are at any time the first ones of all groups in the
order of the listing, also if the consumer goes away. A traversal that succeeds while the consumer
is there has handed over all of them, neither the walker nor a file has failed, and its number is
that of the listed files. A traversal that fails does so with the failure of the walker or of a
file. -/
theorem delivers_in_order {l : Limits} (openFiles : 0 < l.openFiles)
    (queuedFiles : 0 < l.queuedFiles) {works : List FileWork} {failure : Option Failure} {s : State}
    (reached : Reachable l (State.initial works failure) s) :
    s.handed <+: works.flatMap FileWork.groups ∧
      (∀ n, s.result = some (.ok n) → s.consumerGone = false →
        s.handed = works.flatMap FileWork.groups ∧ failure = none ∧
          (∀ work ∈ works, work.failure = none) ∧ n = works.length) ∧
      ∀ e, s.result = some (.error e) →
        failure = some e ∨ ∃ work ∈ works, work.failure = some e := by
  have h := reached.invariant openFiles queuedFiles
  exact ⟨h.handed_prefix, fun n => h.read_all, h.failed⟩

/-- Two files, of which the first has two groups, are read to the end. -/
theorem delivers_in_order_two_files :
    let group (line : Nat) : MessageGroup := ⟨⟨"a.js", line⟩, ["\"a\""]⟩
    let works : List FileWork := [⟨"a.js", [group 1, group 2], none⟩, ⟨"b.js", [group 3], none⟩]
    let s := (State.initial works none).run .standard 40
    0 < Limits.standard.openFiles ∧ 0 < Limits.standard.queuedFiles ∧
      Reachable .standard (State.initial works none) s ∧
      s.result = some (.ok 2) ∧ s.consumerGone = false ∧ s.handed = [group 1, group 2, group 3] ∧
      s.handed <+: works.flatMap FileWork.groups := by
  intro group works s
  have reached : Reachable .standard (State.initial works none) s := .run 40 .refl
  have returned : s.result = some (.ok 2) := by decide +kernel
  have there : s.consumerGone = false := by decide +kernel
  have safe := delivers_in_order (by decide) (by decide) reached
  exact ⟨by decide, by decide, reached, returned, there, (safe.2.1 2 returned there).1, safe.1⟩

end MessageCatalog.Schedule
