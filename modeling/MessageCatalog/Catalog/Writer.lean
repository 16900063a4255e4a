import MessageCatalog.Catalog
import MessageCatalog.Failure

/-! # Writing catalogs

A catalog is written to a sink, which may take bytes in portions or refuse them. The writer counts
the messages of the groups that the sink took as a whole.
-/

namespace MessageCatalog

/-- Something that takes bytes. `write` tells how many of the offered bytes were taken. -/
structure Sink (σ : Type) where
  write : σ → List UInt8 → Except Cause Nat × σ
  flush : σ → Except Cause Unit × σ

namespace Sink

/-- Offer bytes until all are taken or the sink refuses. A sink that takes none of them counts as
refusing. -/
def writeAll {σ : Type} (sink : Sink σ) (state : σ) (bytes : List UInt8) :
    Except Cause Unit × σ :=
  if bytes.isEmpty then (.ok (), state)
  else
    match sink.write state bytes with
    | (.error e, state) => (.error e, state)
    | (.ok n, state) =>
      if _h : (bytes.drop n).length < bytes.length then sink.writeAll state (bytes.drop n)
      else (.error .writeZero, state)
termination_by bytes.length
decreasing_by exact _h

end Sink

/-- A store of bytes with room for `limit` bytes, or for any number. -/
structure Store where
  limit : Option Nat
  bytes : List UInt8
  deriving Repr, DecidableEq

namespace Store

def empty (limit : Option Nat) : Store := ⟨limit, []⟩

/-- Why a store takes nothing any more. -/
def full : Cause := .other "disk full"

def isFull (s : Store) : Bool := s.limit.any (· ≤ s.bytes.length)

/-- Put bytes into a store: as many as there is room for. -/
def put (s : Store) (bytes : List UInt8) : Except Cause Nat × Store :=
  let taken :=
    match s.limit with
    | none => bytes
    | some n => bytes.take (n - s.bytes.length)
  if taken.isEmpty && !bytes.isEmpty then (.error full, s)
  else (.ok taken.length, { s with bytes := s.bytes ++ taken })

/-- A store as a sink. Flushing fails once there is no room left. -/
def sink : Sink Store where
  write := put
  flush s := (if s.isFull then .error full else .ok (), s)

end Store

/-- A sink with a buffer in front of it. -/
structure Buffered (σ : Type) where
  inner : σ
  buffer : List UInt8
  deriving Repr

namespace Buffered

/-- The number of bytes that the buffer holds at most. -/
def capacity : Nat := 8192

def drain {σ : Type} (sink : Sink σ) (b : Buffered σ) : Except Cause Unit × Buffered σ :=
  match sink.writeAll b.inner b.buffer with
  | (.ok (), inner) => (.ok (), ⟨inner, []⟩)
  | (.error e, inner) => (.error e, ⟨inner, b.buffer⟩)

/-- A buffered sink: what does not fit makes the buffer be handed on first, and what the buffer
could never hold goes past it. -/
def sink {σ : Type} (sink : Sink σ) : Sink (Buffered σ) where
  write b bytes :=
    let (result, b) :=
      if b.buffer.length + bytes.length > capacity then drain sink b else (.ok (), b)
    match result with
    | .error e => (.error e, b)
    | .ok () =>
      if bytes.length < capacity then (.ok bytes.length, { b with buffer := b.buffer ++ bytes })
      else
        let (result, inner) := sink.write b.inner bytes
        (result, { b with inner := inner })
  flush b :=
    match drain sink b with
    | (.error e, b) => (.error e, b)
    | (.ok (), b) =>
      let (result, inner) := sink.flush b.inner
      (result, { b with inner := inner })

end Buffered

/-- A catalog that is being written: the state of its sink, and the messages written so far. -/
structure CatalogWriter (σ : Type) where
  sink : Sink σ
  state : σ
  entries : Nat

namespace CatalogWriter

variable {σ : Type}

def new (sink : Sink σ) (state : σ) : CatalogWriter σ := ⟨sink, state, 0⟩

def write (w : CatalogWriter σ) (text : String) : Except Failure Unit × CatalogWriter σ :=
  match w.sink.writeAll w.state (Utf8.bytes text) with
  | (.ok (), state) => (.ok (), { w with state := state })
  | (.error e, state) => (.error (.output e), { w with state := state })

def writeHeader (w : CatalogWriter σ) : Except Failure Unit × CatalogWriter σ :=
  w.write Catalog.header

/-- Write a group. A group without messages writes nothing; the messages of others count once all
of their text is written. -/
def writeGroup (w : CatalogWriter σ) (g : MessageGroup) : Except Failure Unit × CatalogWriter σ :=
  if g.isEmpty then (.ok (), w)
  else
    match w.write (Catalog.renderGroup g) with
    | (.error e, w) => (.error e, w)
    | (.ok (), w) => (.ok (), { w with entries := w.entries + g.size })

/-- Write groups up to the first failure. Gives the groups after the one that failed, too. -/
def writeGroups (w : CatalogWriter σ) :
    List MessageGroup → Except Failure Unit × List MessageGroup × CatalogWriter σ
  | [] => (.ok (), [], w)
  | g :: gs =>
    match w.writeGroup g with
    | (.error e, w) => (.error e, gs, w)
    | (.ok (), w) => w.writeGroups gs

/-- Make sure that all that was written has left every buffer. -/
def flush (w : CatalogWriter σ) : Except Failure Unit × CatalogWriter σ :=
  match w.sink.flush w.state with
  | (.ok (), state) => (.ok (), { w with state := state })
  | (.error e, state) => (.error (.output e), { w with state := state })

end CatalogWriter

end MessageCatalog
