import MessageCatalog.Call
import MessageCatalog.Failure

/-! # Matchers

How literals are found in a line: as first arguments of a function, or by a search pattern of which
one group holds the literal.
-/

namespace MessageCatalog

/-- A way to find literals in a line of source text. -/
inductive Matcher where
  | call (function : String)
  | pattern (pattern : Pattern) (group : Nat)
  deriving Repr

namespace Matcher

/-- The function whose calls are meant if nothing else is said. -/
def defaultFunction : String := "_"

/-- The group that holds the literal if nothing else is said. -/
def defaultGroup : Nat := 1

/-- A matcher for calls of `function`, unless a pattern is given. Its group has to exist. -/
def make (function : String) (pattern : Option String) (group : Nat) :
    Except SettingsFault Matcher :=
  match pattern with
  | none => .ok (.call function)
  | some text =>
    match Pattern.compile text with
    | .error e => .error (.pattern text e)
    | .ok compiled =>
      if compiled.groupCount ≤ group then
        .error (.captureIndex group text (compiled.groupCount - 1))
      else .ok (.pattern compiled group)

/-- The literals of a line, from left to right. -/
def literals (line : String) : Matcher → List Literal
  | .call function => Call.literals function line
  | .pattern search group => (search.captures group line).map Literal.mk

end Matcher

end MessageCatalog
