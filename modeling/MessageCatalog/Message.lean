/-! # Messages and where they were found

Messages travel in groups: all that one line of a source file holds stays together on the way to
the catalog.
-/

namespace MessageCatalog

/-- A line of a source file. The path has slashes between its components, and lines count from
one. -/
structure Location where
  path : String
  line : Nat
  deriving Repr, DecidableEq

def Location.text (l : Location) : String := l.path ++ ":" ++ toString l.line

/-- One message: a quoted literal and its location. -/
structure Message where
  text : String
  location : Location
  deriving Repr, DecidableEq

/-- The messages of one line. -/
structure MessageGroup where
  location : Location
  texts : List String
  deriving Repr, DecidableEq

namespace MessageGroup

/-- The messages of a group, in the order of the line. -/
def messages (g : MessageGroup) : List Message := g.texts.map fun text => ⟨text, g.location⟩

def size (g : MessageGroup) : Nat := g.texts.length

def isEmpty (g : MessageGroup) : Bool := g.texts.isEmpty

end MessageGroup

end MessageCatalog
