import MessageCatalog.Catalog.Writer
import MessageCatalog.Proofs.Utf8

/-! # What a writer leaves in its sink

A sink that keeps what it takes has taken all text that was written, or a first part of it if it has
refused the rest. Nothing is said here about what else the sink does.
-/

namespace MessageCatalog

theorem Catalog.renderGroups_append (groups more : List MessageGroup) :
    renderGroups (groups ++ more) = renderGroups groups ++ renderGroups more := by
  induction groups with
  | nil => exact (String.empty_append).symm
  | cons g groups ih => simp only [List.cons_append, renderGroups, ih, String.append_assoc]

theorem Catalog.bytes_renderRoot_append (groups more : List MessageGroup) :
    Utf8.bytes (renderRoot (groups ++ more)) =
      Utf8.bytes (renderRoot groups) ++ Utf8.bytes (renderGroups more) := by
  rw [renderRoot, renderGroups_append, ← String.append_assoc, Utf8.bytes_append]
  rfl

theorem Catalog.bytes_renderRoot_prefix {groups more : List MessageGroup}
    (first : groups <+: more) :
    Utf8.bytes (renderRoot groups) <+: Utf8.bytes (renderRoot more) := by
  obtain ⟨rest, rfl⟩ := first
  exact ⟨_, (bytes_renderRoot_append groups rest).symm⟩

theorem Catalog.bytes_renderGroup_of_isEmpty {g : MessageGroup} (empty : g.isEmpty = true) :
    Utf8.bytes (renderGroup g) = [] := by
  have none : g.texts = [] := List.isEmpty_iff.mp empty
  simp [renderGroup, none, Utf8.bytes, Utf8.encode]

theorem MessageGroup.size_of_isEmpty {g : MessageGroup} (empty : g.isEmpty = true) : g.size = 0 :=
  List.length_eq_zero_iff.mpr (List.isEmpty_iff.mp empty)

def MessageGroup.sizes (groups : List MessageGroup) : Nat := (groups.map size).sum

variable {σ : Type}

namespace Sink

/-- How the state of a sink is read. -/
structure View (σ : Type) where
  /-- The bytes that were taken so far. -/
  taken : σ → List UInt8
  /-- Those of them that have left every buffer. -/
  flushed : σ → List UInt8
  /-- The states that the sink can be in. -/
  sound : σ → Prop

/-- No bytes were taken so far. -/
structure View.Fresh (view : View σ) (state : σ) : Prop where
  sound : view.sound state
  taken : view.taken state = []
  flushed : view.flushed state = []

/-- Some more bytes were taken, and none were lost. -/
structure View.Grows (view : View σ) (before : σ) (more : List UInt8) (after : σ) : Prop where
  sound : view.sound after
  taken : view.taken after = view.taken before ++ more
  flushed : view.flushed before <+: view.flushed after

/-- Whether a sink keeps what it takes. It refuses bytes, or to be flushed, only if it
`mayRefuse`. -/
structure Keeps (sink : Sink σ) (view : View σ) (mayRefuse : Prop) : Prop where
  write {state state' : σ} {bytes : List UInt8} {n : Nat} : view.sound state → bytes ≠ [] →
    sink.write state bytes = (.ok n, state') →
      view.Grows state (bytes.take n) state' ∧ (n = 0 → mayRefuse)
  refuse {state state' : σ} {bytes : List UInt8} {cause : Cause} : view.sound state → bytes ≠ [] →
    sink.write state bytes = (.error cause, state') → view.Grows state [] state' ∧ mayRefuse
  flush {state state' : σ} : view.sound state → sink.flush state = (.ok (), state') →
    view.Grows state [] state' ∧ view.flushed state' = view.taken state'
  refuseFlush {state state' : σ} {cause : Cause} : view.sound state →
    sink.flush state = (.error cause, state') → view.Grows state [] state' ∧ mayRefuse

/-- What comes of bytes that are offered: all of them are taken, or the rest is refused at some
byte. -/
inductive Offered (view : View σ) (mayRefuse : Prop) (before : σ) (offered : List UInt8) :
    Except Cause Unit × σ → Prop where
  | all {after} (grows : view.Grows before offered after) :
    Offered view mayRefuse before offered (.ok (), after)
  | part {first cause after} (begun : first <+: offered) (grows : view.Grows before first after)
    (refuses : mayRefuse) : Offered view mayRefuse before offered (.error cause, after)

variable {view : View σ} {mayRefuse : Prop} {sink : Sink σ}

theorem View.Grows.refl {state : σ} (sound : view.sound state) : view.Grows state [] state :=
  ⟨sound, (List.append_nil _).symm, List.prefix_refl _⟩

theorem View.Grows.trans {before between after : σ} {first second : List UInt8}
    (h : view.Grows before first between) (h' : view.Grows between second after) :
    view.Grows before (first ++ second) after :=
  ⟨h'.sound, by rw [h'.taken, h.taken, List.append_assoc], h.flushed.trans h'.flushed⟩

theorem View.Grows.keep {before between after : σ} {more : List UInt8}
    (h : view.Grows before more between) (h' : view.Grows between [] after) :
    view.Grows before more after := by
  simpa using h.trans h'

/-- The bytes that are left are offered after some were taken. -/
theorem Offered.after {before between : σ} {first left : List UInt8}
    {result : Except Cause Unit × σ} (h : view.Grows before first between)
    (h' : Offered view mayRefuse between left result) :
    Offered view mayRefuse before (first ++ left) result := by
  cases h' with
  | all grows => exact .all (h.trans grows)
  | part begun grows refuses =>
      exact .part ((List.prefix_append_right_inj first).mpr begun) (h.trans grows) refuses

theorem Keeps.writeAll (keeps : sink.Keeps view mayRefuse) {state : σ} (sound : view.sound state)
    (bytes : List UInt8) : Offered view mayRefuse state bytes (sink.writeAll state bytes) := by
  fun_induction sink.writeAll state bytes with
  | case1 state bytes empty =>
      rw [List.isEmpty_iff.mp empty]
      exact .all (.refl sound)
  | case2 state bytes more cause state' wrote =>
      obtain ⟨grows, refuses⟩ := keeps.refuse sound (by simpa using more) wrote
      exact .part List.nil_prefix grows refuses
  | case3 state bytes more n state' wrote shorter ih =>
      obtain ⟨grows, _⟩ := keeps.write sound (by simpa using more) wrote
      have rest := (ih grows.sound).after grows
      rwa [List.take_append_drop] at rest
  | case4 state bytes more n state' wrote same =>
      obtain ⟨grows, refuses⟩ := keeps.write sound (by simpa using more) wrote
      have nothing : n = 0 := by
        have some : bytes.length ≠ 0 := by simpa using more
        rw [List.length_drop] at same
        omega
      exact .part (List.take_prefix n bytes) grows (refuses nothing)

end Sink

namespace Store

/-- A store, where everything counts as flushed at once. -/
def view (limit : Option Nat) : Sink.View Store := ⟨bytes, bytes, (·.limit = limit)⟩

theorem fresh_empty (limit : Option Nat) : (view limit).Fresh (empty limit) := ⟨rfl, rfl, rfl⟩

theorem put_cases {s s' : Store} {bytes : List UInt8} {result : Except Cause Nat}
    (some : bytes ≠ []) (put : s.put bytes = (result, s')) :
    (∃ n, 0 < n ∧ result = .ok n ∧ s' = { s with bytes := s.bytes ++ bytes.take n }) ∨
      s.limit ≠ none ∧ result = .error full ∧ s' = s := by
  obtain ⟨limit, before⟩ := s
  have positive : 0 < bytes.length := List.length_pos_iff.mpr some
  cases limit with
  | none =>
      have notEmpty : bytes.isEmpty = false := by simpa [List.isEmpty_eq_false_iff] using some
      simp only [Store.put, notEmpty, Bool.false_and] at put
      cases put
      exact .inl ⟨bytes.length, positive, rfl, by rw [List.take_length]⟩
  | some room =>
      simp only [Store.put] at put
      split at put
      · cases put
        exact .inr ⟨nofun, rfl, rfl⟩
      · rename_i taken
        cases put
        refine .inl ⟨_, ?_, rfl, ?_⟩
        · rw [List.length_pos_iff]
          intro none
          exact taken (by simpa [none] using some)
        · rw [List.length_take, ← List.take_eq_take_min]

/-- A store keeps what it takes. It refuses bytes only if it has a limit. -/
theorem keeps (limit : Option Nat) : sink.Keeps (view limit) (limit ≠ none) where
  write := by
    intro s s' bytes n sound some put
    rcases put_cases some put with ⟨m, positive, result, rfl⟩ | ⟨_, result, _⟩
    · cases result
      exact ⟨⟨sound, rfl, List.prefix_append _ _⟩, fun none => by omega⟩
    · cases result
  refuse := by
    intro s s' bytes cause sound some put
    rcases put_cases some put with ⟨m, _, result, _⟩ | ⟨full, _, rfl⟩
    · cases result
    · exact ⟨.refl sound, sound ▸ full⟩
  flush := by
    intro s s' sound flushed
    cases congrArg Prod.snd flushed
    exact ⟨.refl sound, rfl⟩
  refuseFlush := by
    intro s s' cause sound flushed
    cases congrArg Prod.snd flushed
    refine ⟨.refl sound, ?_⟩
    rintro rfl
    obtain ⟨limit, bytes⟩ := s
    cases sound
    cases flushed

end Store

namespace CatalogWriter

open Sink (View Keeps Offered)

variable {view : View σ} {mayRefuse : Prop} {w : CatalogWriter σ}

/-- What comes of text that is written: the sink takes all of it, and its messages count, or it
refuses the rest at some byte. -/
inductive Written (view : View σ) (mayRefuse : Prop) (w : CatalogWriter σ) (text : List UInt8)
    (count : Nat) : Except Failure Unit × CatalogWriter σ → Prop where
  | all {after} (grows : view.Grows w.state text after) :
    Written view mayRefuse w text count (.ok (), ⟨w.sink, after, w.entries + count⟩)
  | part {first cause after entries} (begun : first <+: text)
    (grows : view.Grows w.state first after) (refuses : mayRefuse) :
    Written view mayRefuse w text count (.error (.output cause), ⟨w.sink, after, entries⟩)

theorem Written.after {after : σ} {text more : List UInt8} {count other : Nat}
    {result : Except Failure Unit × CatalogWriter σ} (h : view.Grows w.state text after)
    (h' : Written view mayRefuse ⟨w.sink, after, w.entries + count⟩ more other result) :
    Written view mayRefuse w (text ++ more) (count + other) result := by
  cases h' with
  | all grows =>
      rw [Nat.add_assoc]
      exact .all (h.trans grows)
  | part begun grows refuses =>
      exact .part ((List.prefix_append_right_inj text).mpr begun) (h.trans grows) refuses

theorem write_written (keeps : w.sink.Keeps view mayRefuse) (sound : view.sound w.state)
    (text : String) : Written view mayRefuse w (Utf8.bytes text) 0 (w.write text) := by
  have offered := keeps.writeAll sound (Utf8.bytes text)
  rw [write]
  generalize w.sink.writeAll w.state (Utf8.bytes text) = result at offered
  cases offered with
  | all grows => exact .all grows
  | part begun grows refuses => exact .part begun grows refuses

theorem writeGroup_written (keeps : w.sink.Keeps view mayRefuse) (sound : view.sound w.state)
    (g : MessageGroup) :
    Written view mayRefuse w (Utf8.bytes (Catalog.renderGroup g)) g.size (w.writeGroup g) := by
  rw [writeGroup]
  split
  · rename_i empty
    rw [Catalog.bytes_renderGroup_of_isEmpty empty, MessageGroup.size_of_isEmpty empty]
    exact .all (.refl sound)
  · have written := write_written keeps sound (Catalog.renderGroup g)
    generalize w.write (Catalog.renderGroup g) = result at written
    cases written with
    | all grows => exact .all grows
    | part begun grows refuses => exact .part begun grows refuses

theorem writeGroups_written (keeps : w.sink.Keeps view mayRefuse) (sound : view.sound w.state)
    (groups : List MessageGroup) :
    Written view mayRefuse w (Utf8.bytes (Catalog.renderGroups groups)) (MessageGroup.sizes groups)
      ((w.writeGroups groups).1, (w.writeGroups groups).2.2) := by
  induction groups generalizing w with
  | nil => exact .all (.refl sound)
  | cons g groups ih =>
      have written := writeGroup_written keeps sound g
      rw [Catalog.renderGroups, Utf8.bytes_append, writeGroups]
      generalize w.writeGroup g = result at written
      cases written with
      | all grows =>
          exact (ih (w := ⟨w.sink, _, w.entries + g.size⟩) keeps grows.sound).after grows
      | part begun grows refuses =>
          exact .part (begun.trans (List.prefix_append _ _)) grows refuses

theorem flush_cases (keeps : w.sink.Keeps view mayRefuse) (sound : view.sound w.state) :
    ∃ after, view.Grows w.state [] after ∧
      (w.flush = (.ok (), ⟨w.sink, after, w.entries⟩) ∧ view.flushed after = view.taken after ∨
        mayRefuse ∧ ∃ cause, w.flush = (.error (.output cause), ⟨w.sink, after, w.entries⟩)) := by
  cases flushing : w.sink.flush w.state with
  | mk result after =>
      cases result with
      | error cause =>
          obtain ⟨same, refuses⟩ := keeps.refuseFlush sound flushing
          exact ⟨after, same, .inr ⟨refuses, cause, by rw [flush, flushing]⟩⟩
      | ok =>
          obtain ⟨same, flushed⟩ := keeps.flush sound flushing
          exact ⟨after, same, .inl ⟨by rw [flush, flushing], flushed⟩⟩

end CatalogWriter

end MessageCatalog
