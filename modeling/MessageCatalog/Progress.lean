/-! # Progress of a directory

Counts the files of a directory while they are discovered and finished. The directory is complete
once its listing has ended and every discovered file is finished; both events look for that, so a
directory without files completes when its listing ends.
-/

namespace MessageCatalog

/-- Files discovered and finished so far, and whether the listing has ended. -/
structure Progress where
  discovered : Nat
  finished : Nat
  listingDone : Bool
  deriving Repr, DecidableEq

namespace Progress

def initial : Progress := ⟨0, 0, false⟩

/-- What can happen. -/
inductive Event where
  | discovered
  | finished
  | listingDone
  deriving Repr, DecidableEq

/-- Whether nothing is left to wait for. -/
def isComplete (p : Progress) : Bool := p.listingDone && p.finished == p.discovered

/-- Files that are discovered and not finished. -/
def inFlight (p : Progress) : Nat := p.discovered - p.finished

def childDiscovered (p : Progress) : Progress := { p with discovered := p.discovered + 1 }

/-- Record a finished file. Tells whether the directory is complete now. -/
def childFinished (p : Progress) : Bool × Progress :=
  let p := { p with finished := p.finished + 1 }
  (p.isComplete, p)

/-- Record the end of the listing. Tells whether the directory is complete now. -/
def listingFinished (p : Progress) : Bool × Progress :=
  let p := { p with listingDone := true }
  (p.isComplete, p)

/-- Record an event. Tells whether the directory is complete now, for the events that can complete
it. -/
def record (p : Progress) : Event → Option Bool × Progress
  | .discovered => (none, p.childDiscovered)
  | .finished => let (complete, p) := p.childFinished; (some complete, p)
  | .listingDone => let (complete, p) := p.listingFinished; (some complete, p)

end Progress

end MessageCatalog
