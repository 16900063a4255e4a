import MessageCatalog.Proofs.Catalog.Writing

/-! # Catalogs that do not fit in

A sink with room for some bytes only cuts a catalog off, within whatever operation it is that does
not fit in. Whoever goes on then still finds the first bytes of the text of all operations in the
sink, and the writer has counted the messages of those groups that fitted in as a whole.
-/

namespace MessageCatalog

variable {σ : Type}

namespace Sink

/-- Whether a sink takes bytes, in portions of its own choice, until it has `limit` of them, and
refuses all others. -/
structure Limited (sink : Sink σ) (view : View σ) (limit : Nat) : Prop where
  takes {state : σ} {bytes : List UInt8} : view.sound state → bytes ≠ [] →
    (view.taken state).length < limit → ∃ n after, sink.write state bytes = (.ok n, after) ∧
      0 < n ∧ (view.taken state).length + n ≤ limit ∧ view.Grows state (bytes.take n) after
  refuses {state : σ} {bytes : List UInt8} : view.sound state → bytes ≠ [] →
    limit ≤ (view.taken state).length →
      ∃ cause after, sink.write state bytes = (.error cause, after) ∧ view.Grows state [] after
  flush {state : σ} : view.sound state → view.Grows state [] (sink.flush state).2

/-- What comes of bytes that are offered to a sink that shall hold no more than `limit`: it takes
the first ones, and tells whether these were all. -/
structure Cut (view : View σ) (limit : Nat) (before : σ) (offered : List UInt8)
    (outcome : Except Cause Unit × σ) : Prop where
  sound : view.sound outcome.2
  taken : view.taken outcome.2 = (view.taken before ++ offered).take limit
  fits : (view.taken before).length + offered.length ≤ limit → outcome.1 = .ok ()
  exceeds : limit < (view.taken before).length + offered.length →
    ∃ cause, outcome.1 = .error cause

variable {sink : Sink σ} {view : View σ} {limit : Nat}

theorem Limited.write_cases (limited : sink.Limited view limit) {state : σ} {bytes : List UInt8}
    (sound : view.sound state) (some : bytes ≠ []) :
    (∃ n after, sink.write state bytes = (.ok n, after) ∧ 0 < n ∧
        (view.taken state).length + n ≤ limit ∧ view.Grows state (bytes.take n) after) ∨
      limit ≤ (view.taken state).length ∧
        ∃ cause after, sink.write state bytes = (.error cause, after) ∧
          view.Grows state [] after := by
  by_cases full : limit ≤ (view.taken state).length
  · exact .inr ⟨full, limited.refuses sound some full⟩
  · exact .inl (limited.takes sound some (by omega))

theorem Limited.writeAll (limited : sink.Limited view limit) {state : σ} (sound : view.sound state)
    (room : (view.taken state).length ≤ limit) (bytes : List UInt8) :
    Cut view limit state bytes (sink.writeAll state bytes) := by
  fun_induction sink.writeAll state bytes with
  | case1 state bytes empty =>
      rw [List.isEmpty_iff.mp empty]
      refine ⟨sound, ?_, fun _ => rfl, ?_⟩
      · rw [List.append_nil, List.take_of_length_le room]
      · simp only [List.length_nil]
        omega
  | case2 state bytes more cause after wrote =>
      have some : bytes ≠ [] := by simpa using more
      have positive := List.length_pos_iff.mpr some
      rcases limited.write_cases sound some with ⟨_, _, wrote', _⟩ | ⟨full, _, _, wrote', grows⟩
      · rw [wrote] at wrote'
        cases wrote'
      · rw [wrote] at wrote'
        cases wrote'
        refine ⟨grows.sound, ?_, by omega, fun _ => ⟨cause, rfl⟩⟩
        rw [grows.taken, List.append_nil, List.take_append_of_le_length full,
          List.take_of_length_le room]
  | case3 state bytes more n after wrote shorter ih =>
      have some : bytes ≠ [] := by simpa using more
      rcases limited.write_cases sound some with
        ⟨_, _, wrote', _, within, grows⟩ | ⟨_, _, _, wrote', _⟩
      · rw [wrote] at wrote'
        cases wrote'
        have lengths := congrArg List.length grows.taken
        rw [List.length_append, List.length_take] at lengths
        obtain ⟨kept, taken, fits, exceeds⟩ := ih grows.sound (by omega)
        rw [List.length_drop] at shorter fits exceeds
        refine ⟨kept, ?_, fun _ => fits (by omega), fun _ => exceeds (by omega)⟩
        rw [taken, grows.taken, List.append_assoc, List.take_append_drop]
      · rw [wrote] at wrote'
        cases wrote'
  | case4 state bytes more n after wrote same =>
      have some : bytes ≠ [] := by simpa using more
      have positive := List.length_pos_iff.mpr some
      rw [List.length_drop] at same
      -- No portion is empty, so that fewer bytes are left behind it.
      rcases limited.write_cases sound some with ⟨_, _, wrote', _⟩ | ⟨_, _, _, wrote', _⟩
      · rw [wrote] at wrote'
        cases wrote'
        omega
      · rw [wrote] at wrote'
        cases wrote'

end Sink

theorem Store.limited (limit : Nat) : sink.Limited (view (some limit)) limit where
  takes := by
    rintro ⟨_, held⟩ bytes rfl some free
    simp only [view] at free ⊢
    have positive := List.length_pos_iff.mpr some
    have portion : (bytes.take (limit - held.length)).length ≠ 0 := by
      rw [List.length_take]
      omega
    have notEmpty : (bytes.take (limit - held.length)).isEmpty = false := by
      rw [List.isEmpty_eq_false_iff, ← List.length_pos_iff]
      omega
    refine ⟨(bytes.take (limit - held.length)).length,
      ⟨_, held ++ bytes.take (limit - held.length)⟩, ?_, by omega, ?_, rfl, ?_,
      List.prefix_append _ _⟩
    · simp [sink, put, notEmpty]
    · rw [List.length_take]
      omega
    · rw [List.length_take, ← List.take_eq_take_min]
  refuses := by
    rintro ⟨_, held⟩ bytes rfl some full
    have none : limit - held.length = 0 := Nat.sub_eq_zero_of_le full
    refine ⟨Store.full, _, ?_, .refl rfl⟩
    simp [sink, put, none, some]
  flush sound := .refl sound

namespace CatalogWriter

open Sink (View)

/-- What a writer can be asked for. -/
inductive Operation where
  | header
  | group (g : MessageGroup)
  | flush

namespace Operation

def text : Operation → String
  | .header => Catalog.header
  | .group g => Catalog.renderGroup g
  | .flush => ""

def count : Operation → Nat
  | .group g => g.size
  | _ => 0

def bytes (ops : List Operation) : List UInt8 := ops.flatMap fun op => Utf8.bytes op.text

end Operation

def perform (w : CatalogWriter σ) : Operation → Except Failure Unit × CatalogWriter σ
  | .header => w.writeHeader
  | .group g => w.writeGroup g
  | .flush => w.flush

/-- Do one thing after the other, whatever comes of each. Gives a log of what came of each, too. -/
def performAll (w : CatalogWriter σ) (ops : List Operation) :
    List (Operation × Except Failure Unit) × CatalogWriter σ :=
  ops.foldl (fun (log, w) op => (log ++ [(op, (w.perform op).1)], (w.perform op).2)) ([], w)

/-- The number of messages that a log reports as written. -/
def counted (log : List (Operation × Except Failure Unit)) : Nat :=
  ((log.filter fun entry => entry.2.isOk).map fun entry => entry.1.count).sum

variable {view : View σ} {limit : Nat} {w : CatalogWriter σ}

/-- The bytes that a sink with little room holds behind some operations. -/
structure Holds (view : View σ) (limit : Nat) (text : List UInt8) (w : CatalogWriter σ) : Prop where
  limited : w.sink.Limited view limit
  sound : view.sound w.state
  taken : view.taken w.state = text.take limit

theorem Holds.room {text : List UInt8} (holds : Holds view limit text w) :
    (view.taken w.state).length ≤ limit := by
  rw [holds.taken, List.length_take]
  omega

theorem take_append_take (text more : List UInt8) (limit : Nat) :
    (text.take limit ++ more).take limit = (text ++ more).take limit := by
  simp only [List.take_append, List.take_take, List.length_take, Nat.min_self]
  congr 2
  omega

/-- What comes of an operation that asks for some text. -/
structure Performed (view : View σ) (limit : Nat) (w : CatalogWriter σ) (text more : List UInt8)
    (count : Nat) (outcome : Except Failure Unit × CatalogWriter σ) : Prop where
  holds : Holds view limit (text ++ more) outcome.2
  entries : outcome.2.entries = w.entries + if outcome.1.isOk then count else 0
  fits : more ≠ [] → (text ++ more).length ≤ limit → outcome.1 = .ok ()
  exceeds : more ≠ [] → limit < (text ++ more).length → ∃ cause, outcome.1 = .error (.output cause)

theorem Holds.write {text : List UInt8} (holds : Holds view limit text w) (more : String) :
    Performed view limit w text (Utf8.bytes more) 0 (w.write more) := by
  have cut := holds.limited.writeAll holds.sound holds.room (Utf8.bytes more)
  have held := congrArg List.length holds.taken
  rw [List.length_take] at held
  rw [CatalogWriter.write]
  generalize w.sink.writeAll w.state (Utf8.bytes more) = outcome at cut
  obtain ⟨result, after⟩ := outcome
  obtain ⟨sound, taken, fits, exceeds⟩ := cut
  rw [holds.taken, take_append_take] at taken
  cases result with
  | ok =>
      refine ⟨⟨holds.limited, sound, taken⟩, rfl, fun _ _ => rfl, fun some beyond => ?_⟩
      have positive := List.length_pos_iff.mpr some
      rw [List.length_append] at beyond
      obtain ⟨_, failed⟩ := exceeds (by omega)
      cases failed
  | error cause =>
      refine ⟨⟨holds.limited, sound, taken⟩, rfl, fun some within => ?_, fun _ _ => ⟨cause, rfl⟩⟩
      have positive := List.length_pos_iff.mpr some
      rw [List.length_append] at within
      cases fits (by omega)

theorem Holds.nothing {text : List UInt8} (holds : Holds view limit text w)
    {result : Except Failure Unit} {after : σ} (grows : view.Grows w.state [] after) :
    Performed view limit w text [] 0 (result, ⟨w.sink, after, w.entries⟩) := by
  refine ⟨⟨holds.limited, grows.sound, ?_⟩, by simp, nofun, nofun⟩
  rw [grows.taken, List.append_nil, List.append_nil, holds.taken]

theorem Holds.writeGroup {text : List UInt8} (holds : Holds view limit text w) (g : MessageGroup) :
    Performed view limit w text (Utf8.bytes (Catalog.renderGroup g)) g.size (w.writeGroup g) := by
  rw [CatalogWriter.writeGroup]
  split
  · rename_i empty
    rw [Catalog.bytes_renderGroup_of_isEmpty empty, MessageGroup.size_of_isEmpty empty]
    exact holds.nothing (.refl holds.sound)
  · have written := holds.write (Catalog.renderGroup g)
    generalize w.write (Catalog.renderGroup g) = outcome at written
    obtain ⟨result, after⟩ := outcome
    obtain ⟨⟨limited, sound, taken⟩, entries, fits, exceeds⟩ := written
    rw [ite_self, Nat.add_zero] at entries
    cases result with
    | ok => exact ⟨⟨limited, sound, taken⟩, congrArg (· + g.size) entries, fits, exceeds⟩
    | error => exact ⟨⟨limited, sound, taken⟩, entries, fits, exceeds⟩

theorem Holds.flush {text : List UInt8} (holds : Holds view limit text w) :
    Performed view limit w text [] 0 w.flush := by
  have grows := holds.limited.flush holds.sound
  rw [CatalogWriter.flush]
  generalize w.sink.flush w.state = outcome at grows
  obtain ⟨result, after⟩ := outcome
  cases result with
  | ok => exact holds.nothing grows
  | error => exact holds.nothing grows

theorem Holds.perform {text : List UInt8} (holds : Holds view limit text w) (op : Operation) :
    Performed view limit w text (Utf8.bytes op.text) op.count (w.perform op) := by
  cases op with
  | header => exact holds.write Catalog.header
  | group g => exact holds.writeGroup g
  | flush => exact holds.flush

theorem performAll_concat (w : CatalogWriter σ) (ops : List Operation) (op : Operation) :
    w.performAll (ops ++ [op]) =
      ((w.performAll ops).1 ++ [(op, ((w.performAll ops).2.perform op).1)],
        ((w.performAll ops).2.perform op).2) := by
  simp [performAll, List.foldl_append]

theorem counted_concat (log : List (Operation × Except Failure Unit)) (op : Operation)
    (result : Except Failure Unit) :
    counted (log ++ [(op, result)]) = counted log + if result.isOk then op.count else 0 := by
  cases ok : result.isOk <;> simp [counted, List.filter_append, ok]

theorem Operation.bytes_concat (ops : List Operation) (op : Operation) :
    bytes (ops ++ [op]) = bytes ops ++ Utf8.bytes op.text := by
  simp [bytes]

/-- The sink holds the first bytes of all texts, and all that the log reports is counted. -/
theorem Holds.performAll {text : List UInt8} (holds : Holds view limit text w)
    (ops : List Operation) :
    Holds view limit (text ++ Operation.bytes ops) (w.performAll ops).2 ∧
      (w.performAll ops).2.entries = w.entries + counted (w.performAll ops).1 := by
  induction ops using List.reverseRecOn with
  | nil => exact ⟨by simpa [Operation.bytes, CatalogWriter.performAll] using holds, rfl⟩
  | append_singleton ops op ih =>
      have performed := ih.1.perform op
      rw [performAll_concat, counted_concat, Operation.bytes_concat, ← List.append_assoc]
      exact ⟨performed.holds, by rw [performed.entries, ih.2, Nat.add_assoc]⟩

/-- A sink that takes `limit` bytes holds the first ones of the texts of all operations, whatever
came of each, and the messages of those groups count whose operations have succeeded. The next
operation that has a text succeeds if all texts up to its own fit in, and fails for the sink if they
do not. A group without messages leaves all as it is. -/
theorem holds_first_bytes {sink : Sink σ} {state : σ} (limited : sink.Limited view limit)
    (fresh : view.Fresh state) (done : List Operation) :
    let log := ((new sink state).performAll done).1
    let w := ((new sink state).performAll done).2
    view.taken w.state = (Operation.bytes done).take limit ∧
      w.entries = counted log ∧
      (∀ op, op.text ≠ "" →
        ((w.perform op).1 = .ok () ↔ (Operation.bytes (done ++ [op])).length ≤ limit) ∧
          ((∃ cause, (w.perform op).1 = .error (.output cause)) ↔
            limit < (Operation.bytes (done ++ [op])).length)) ∧
      ∀ g, g.isEmpty = true → w.perform (.group g) = (.ok (), w) := by
  intro log w
  have start : Holds view limit [] (new sink state) :=
    ⟨limited, fresh.sound, by rw [List.take_nil]; exact fresh.taken⟩
  obtain ⟨holds, entries⟩ := start.performAll done
  refine ⟨holds.taken, entries.trans (Nat.zero_add _), fun op some => ?_,
    fun g empty => if_pos empty⟩
  have text : Utf8.bytes op.text ≠ [] := fun none => some (Utf8.bytes_injective none)
  obtain ⟨-, -, fits, exceeds⟩ := holds.perform op
  rw [Operation.bytes_concat]
  rw [List.nil_append] at fits exceeds
  constructor
  · refine ⟨fun ok => ?_, fits text⟩
    by_contra beyond
    obtain ⟨cause, failed⟩ := exceeds text (by omega)
    cases ok.symm.trans failed
  · refine ⟨fun ⟨cause, failed⟩ => ?_, exceeds text⟩
    by_contra within
    cases (fits text (by omega)).symm.trans failed

/-- There is room for a header and one group and for no byte more: the group is written, and what
comes behind it is not. -/
theorem holds_first_bytes_filled :
    let g : MessageGroup := ⟨⟨"a.js", 1⟩, ["\"a\"", "\"b\""]⟩
    let limit := (Operation.bytes [.header, .group g]).length
    let view := Store.view (some limit)
    let behind (ops : List Operation) := ((new Store.sink (.empty (some limit))).performAll ops).2
    Store.sink.Limited view limit ∧ view.Fresh (.empty (some limit)) ∧
      ((behind [.header]).perform (.group g)).1 = .ok () ∧
      (behind [.header, .group g]).state.bytes = Operation.bytes [.header, .group g] ∧
      ∃ cause, ((behind [.header, .group g]).perform (.group g)).1 = .error (.output cause) := by
  intro g limit view behind
  have limited : Store.sink.Limited view limit := Store.limited limit
  have fresh : view.Fresh (.empty (some limit)) := Store.fresh_empty (some limit)
  obtain ⟨-, -, first, -⟩ := holds_first_bytes limited fresh [.header]
  obtain ⟨held, -, second, -⟩ := holds_first_bytes limited fresh [.header, .group g]
  refine ⟨limited, fresh, (first (.group g) (by decide +kernel)).1.mpr (Nat.le_refl limit), ?_,
    (second (.group g) (by decide +kernel)).2.mpr (by decide +kernel)⟩
  exact held.trans (List.take_of_length_le (Nat.le_refl limit))

end CatalogWriter

end MessageCatalog
