import MessageCatalog.Pattern.Parser
import MessageCatalog.Pattern.Search
import MessageCatalog.Pattern.Size
import MessageCatalog.Pattern.Expansion

/-! # Search patterns

Compiles a regular expression and finds all of its matches in a line of text.
-/

namespace MessageCatalog

/-- A compiled search pattern. -/
structure Pattern where
  text : String
  program : Pattern.Program
  deriving Repr

namespace Pattern

inductive CompileError where
  /-- The text has a fault. -/
  | fault (f : Fault)
  /-- The automaton would be too large. -/
  | tooBig
  deriving Repr, DecidableEq

/-- The report on a text that is no usable pattern. -/
def CompileError.message (text : String) : CompileError → String
  | .fault f => f.report text
  | .tooBig => s!"Compiled regex exceeds size limit of {sizeLimit} bytes."

def compile (text : String) : Except CompileError Pattern :=
  match Ast.parse text with
  | .error f => .error (.fault f)
  | .ok ast =>
    match ast.expand {} with
    | .error f => .error (.fault f)
    | .ok (regex, _) =>
      if regex.isTooBig then .error .tooBig else .ok ⟨text, Program.ofRegex regex⟩

/-- The number of groups, the whole match included. -/
def groupCount (p : Pattern) : Nat := p.program.groups

/-- What one group took part in a match with, if it did. -/
def groupText? (line : List Char) (slots : Slots) (group : Nat) : Option (List Char) :=
  match slots.getD (2 * group) none, slots.getD (2 * group + 1) none with
  | some start, some stop => some ((line.drop start).take (stop - start))
  | _, _ => none

/-- The texts of one group in all matches in a line that it took part in. -/
def captures (p : Pattern) (group : Nat) (line : String) : List String :=
  (p.program.allMatches line.toList).filterMap fun slots =>
    (groupText? line.toList slots group).map String.ofList

end Pattern

end MessageCatalog
