import Mathlib.Logic.Basic
import MessageCatalog.Extraction

/-! # Extractions side by side

Two extractions whose sinks take and refuse the same, and whose roots give the same, end with the
same result. What a sink is told by its state may differ in all that it does not act on.
-/

namespace MessageCatalog

variable {α σ τ : Type} {R : σ → τ → Prop}

/-- The same result, and states that are related. -/
inductive Alike (R : σ → τ → Prop) : α × σ → α × τ → Prop where
  | intro (result : α) {s : σ} {s' : τ} (related : R s s') : Alike R (result, s) (result, s')

theorem Alike.result {x : α × σ} {y : α × τ} (alike : Alike R x y) : x.1 = y.1 := by
  cases alike
  rfl

theorem Alike.related {x : α × σ} {y : α × τ} (alike : Alike R x y) : R x.2 y.2 := by
  cases alike
  assumption

/-! ## Sinks -/

namespace Sink

/-- Whether two sinks take and refuse the same in related states, which stay related then. -/
structure Simulates (sink : Sink σ) (sink' : Sink τ) (R : σ → τ → Prop) : Prop where
  write : ∀ {s s'}, R s s' → ∀ bytes, Alike R (sink.write s bytes) (sink'.write s' bytes)
  flush : ∀ {s s'}, R s s' → Alike R (sink.flush s) (sink'.flush s')

theorem Simulates.refl (sink : Sink σ) : sink.Simulates sink Eq where
  write := by
    rintro s _ rfl bytes
    exact .intro _ rfl
  flush := by
    rintro s _ rfl
    exact .intro _ rfl

variable {sink : Sink σ} {sink' : Sink τ}

theorem Simulates.writeAll (sim : sink.Simulates sink' R) {s : σ} {s' : τ} (related : R s s')
    (bytes : List UInt8) : Alike R (sink.writeAll s bytes) (sink'.writeAll s' bytes) := by
  fun_induction Sink.writeAll sink s bytes generalizing s' with
  | case1 s bytes empty =>
      rw [Sink.writeAll, if_pos empty]
      exact .intro _ related
  | case2 s bytes some e after write =>
      have alike := sim.write related bytes
      rw [Sink.writeAll, if_neg some]
      rw [write] at alike
      generalize sink'.write s' bytes = written at alike ⊢
      cases alike with
      | intro _ related => exact .intro _ related
  | case3 s bytes some n after write fewer =>
      rename_i ih
      have alike := sim.write related bytes
      rw [Sink.writeAll.eq_def sink' s', if_neg some]
      rw [write] at alike
      generalize sink'.write s' bytes = written at alike ⊢
      cases alike with
      | intro _ related =>
          dsimp only
          rw [dif_pos fewer]
          exact ih related
  | case4 s bytes some n after write stuck =>
      have alike := sim.write related bytes
      rw [Sink.writeAll, if_neg some]
      rw [write] at alike
      generalize sink'.write s' bytes = written at alike ⊢
      cases alike with
      | intro _ related =>
          dsimp only
          rw [dif_neg stuck]
          exact .intro _ related

end Sink

namespace Buffered

/-- Two buffers with the same bytes in front of related states. -/
def Related (R : σ → τ → Prop) (b : Buffered σ) (b' : Buffered τ) : Prop :=
  R b.inner b'.inner ∧ b.buffer = b'.buffer

variable {sink : Sink σ} {sink' : Sink τ} {b : Buffered σ} {b' : Buffered τ}

theorem alike_drain (sim : sink.Simulates sink' R) (related : Related R b b') :
    Alike (Related R) (drain sink b) (drain sink' b') := by
  obtain ⟨inner, buffer⟩ := b
  obtain ⟨inner', _⟩ := b'
  obtain ⟨related, rfl⟩ := related
  have alike := sim.writeAll related buffer
  rw [drain, drain]
  generalize sink.writeAll inner buffer = x, sink'.writeAll inner' buffer = y at alike
  cases alike with
  | intro result related =>
      cases result with
      | ok _ => exact .intro _ ⟨related, rfl⟩
      | error e => exact .intro _ ⟨related, rfl⟩

theorem Related.inner (related : Related R b b') {x : α × σ} {y : α × τ} (alike : Alike R x y) :
    Alike (Related R) (x.1, { b with inner := x.2 }) (y.1, { b' with inner := y.2 }) := by
  cases alike with
  | intro result inner => exact .intro result ⟨inner, related.2⟩

theorem simulates (sim : sink.Simulates sink' R) :
    (Buffered.sink sink).Simulates (Buffered.sink sink') (Related R) where
  write := by
    intro b b' related bytes
    have room : Alike (Related R)
        (if b.buffer.length + bytes.length > capacity then drain sink b else (.ok (), b))
        (if b'.buffer.length + bytes.length > capacity then drain sink' b' else (.ok (), b')) := by
      rw [related.2]
      split
      · exact alike_drain sim related
      · exact .intro _ related
    dsimp only [Buffered.sink]
    generalize
      (if b.buffer.length + bytes.length > capacity then drain sink b else (.ok (), b)) = x,
      (if b'.buffer.length + bytes.length > capacity then drain sink' b' else (.ok (), b')) = y
      at room
    cases room with
    | intro result related =>
        cases result with
        | error e => exact .intro _ related
        | ok _ =>
            dsimp only
            rw [related.2]
            split
            · exact .intro _ ⟨related.1, rfl⟩
            · have past := related.inner (sim.write related.1 bytes)
              rwa [related.2] at past
  flush := by
    intro b b' related
    have alike := alike_drain sim related
    dsimp only [Buffered.sink]
    generalize drain sink b = x, drain sink' b' = y at alike
    cases alike with
    | intro result related =>
        cases result with
        | error e => exact .intro _ related
        | ok _ => exact related.inner (sim.flush related.1)

end Buffered

/-! ## Writers -/

namespace CatalogWriter

/-- Two writers of as many messages whose sinks do the same. -/
structure Related (R : σ → τ → Prop) (w : CatalogWriter σ) (w' : CatalogWriter τ) : Prop where
  simulates : w.sink.Simulates w'.sink R
  state : R w.state w'.state
  entries : w.entries = w'.entries

variable {w : CatalogWriter σ} {w' : CatalogWriter τ}

theorem Related.write (related : Related R w w') (text : String) :
    Alike (Related R) (w.write text) (w'.write text) := by
  have alike := related.simulates.writeAll related.state (Utf8.bytes text)
  rw [CatalogWriter.write, CatalogWriter.write]
  generalize w.sink.writeAll w.state (Utf8.bytes text) = x,
    w'.sink.writeAll w'.state (Utf8.bytes text) = y at alike
  cases alike with
  | intro result after =>
      cases result with
      | ok _ => exact .intro _ ⟨related.simulates, after, related.entries⟩
      | error e => exact .intro _ ⟨related.simulates, after, related.entries⟩

theorem Related.writeGroup (related : Related R w w') (g : MessageGroup) :
    Alike (Related R) (w.writeGroup g) (w'.writeGroup g) := by
  rw [CatalogWriter.writeGroup, CatalogWriter.writeGroup]
  split
  · exact .intro _ related
  · have alike := related.write (Catalog.renderGroup g)
    generalize w.write (Catalog.renderGroup g) = x, w'.write (Catalog.renderGroup g) = y at alike
    cases alike with
    | intro result related =>
        cases result with
        | ok _ =>
            exact .intro _ ⟨related.simulates, related.state, congrArg (· + g.size) related.entries⟩
        | error e => exact .intro _ related

theorem Related.writeGroups (related : Related R w w') (groups : List MessageGroup) :
    Alike (fun left left' => left.1 = left'.1 ∧ Related R left.2 left'.2) (w.writeGroups groups)
      (w'.writeGroups groups) := by
  induction groups generalizing w w' with
  | nil => exact .intro _ ⟨rfl, related⟩
  | cons g groups ih =>
      have alike := related.writeGroup g
      rw [CatalogWriter.writeGroups, CatalogWriter.writeGroups]
      generalize w.writeGroup g = x, w'.writeGroup g = y at alike
      cases alike with
      | intro result related =>
          cases result with
          | ok _ => exact ih related
          | error e => exact .intro _ ⟨rfl, related⟩

theorem Related.flush (related : Related R w w') : Alike (Related R) w.flush w'.flush := by
  have alike := related.simulates.flush related.state
  rw [CatalogWriter.flush, CatalogWriter.flush]
  generalize w.sink.flush w.state = x, w'.sink.flush w'.state = y at alike
  cases alike with
  | intro result after =>
      cases result with
      | ok _ => exact .intro _ ⟨related.simulates, after, related.entries⟩
      | error e => exact .intro _ ⟨related.simulates, after, related.entries⟩

end CatalogWriter

/-! ## Extractions -/

namespace Extraction

open CatalogWriter (Related)

variable {traverse : σ → String → Traversal} {traverse' : τ → String → Traversal}
  {w : CatalogWriter σ} {w' : CatalogWriter τ} {paths : List String}

theorem alike_root {path : String} (same : ∀ s s', R s s' → traverse s path = traverse' s' path)
    (related : Related R w w') :
    Alike (Related R) (root traverse w path) (root traverse' w' path) := by
  have header := related.write Catalog.header
  rw [root, root, CatalogWriter.writeHeader, CatalogWriter.writeHeader]
  generalize w.write Catalog.header = x, w'.write Catalog.header = y at header
  cases header with
  | @intro result w w' related =>
      cases result with
      | error e => exact .intro _ related
      | ok _ =>
          dsimp only
          rw [same _ _ related.state]
          have written := related.writeGroups (traverse' w'.state path).groups
          generalize w.writeGroups (traverse' w'.state path).groups = x,
            w'.writeGroups (traverse' w'.state path).groups = y at written
          cases written with
          | @intro result left left' related =>
              obtain ⟨left, w⟩ := left
              obtain ⟨_, w'⟩ := left'
              obtain ⟨rfl, related⟩ := related
              cases result with
              | error e => exact .intro _ related
              | ok _ =>
                  dsimp only
                  cases (traverse' _ path).result with
                  | error e => exact .intro _ related
                  | ok files =>
                      have flushed := related.flush
                      dsimp only at flushed ⊢
                      generalize w.flush = x, w'.flush = y at flushed
                      cases flushed with
                      | intro result related =>
                          cases result with
                          | error e => exact .intro _ related
                          | ok _ => exact .intro _ related

theorem alike_roots (same : ∀ s s', R s s' → ∀ path ∈ paths, traverse s path = traverse' s' path)
    (related : Related R w w') :
    Alike (Related R) (roots traverse w paths) (roots traverse' w' paths) := by
  induction paths generalizing w w' with
  | nil => exact .intro _ related
  | cons path paths ih =>
      have first := alike_root
        (fun s s' related => same s s' related path List.mem_cons_self) related
      rw [roots, roots]
      generalize root traverse w path = x, root traverse' w' path = y at first
      cases first with
      | @intro result w w' related =>
          cases result with
          | error e => exact .intro _ related
          | ok files =>
              have later := ih (fun s s' related path later =>
                same s s' related path (.tail _ later)) related
              dsimp only
              generalize roots traverse w paths = x, roots traverse' w' paths = y at later
              cases later with
              | intro result related =>
                  cases result with
                  | error e => exact .intro _ related
                  | ok more => exact .intro _ related

/-- Roots that give the same in related states are extracted with the same result. -/
theorem alike_run (same : ∀ s s', R s s' → ∀ path ∈ paths, traverse s path = traverse' s' path)
    (related : Related R w w') :
    Alike (Related R) (run traverse w paths) (run traverse' w' paths) := by
  have alike := alike_roots same related
  rw [run, run]
  generalize roots traverse w paths = x, roots traverse' w' paths = y at alike
  cases alike with
  | intro result related =>
      cases result with
      | error e => exact .intro _ related
      | ok files =>
          dsimp only
          rw [related.entries]
          exact .intro _ related

/-- The catalog of roots is the same in two trees that they give the same in. -/
theorem toText_congr {rules : Rules} {t t' : FileTree} {cwd : String}
    (same : ∀ path ∈ paths,
      Traversal.ofRoot rules t' cwd path = Traversal.ofRoot rules t cwd path) :
    toText rules t' cwd paths = toText rules t cwd paths := by
  have alike : Alike (Related Eq) (intoStore none rules t' cwd paths)
      (intoStore none rules t cwd paths) :=
    alike_run (fun _ _ _ => same) ⟨.refl Store.sink, rfl, rfl⟩
  rw [toText, toText]
  generalize intoStore none rules t' cwd paths = x, intoStore none rules t cwd paths = y at alike
  cases alike with
  | intro result related =>
      cases result with
      | error e => rfl
      | ok summary =>
          dsimp only
          rw [related.state]

end Extraction

end MessageCatalog
