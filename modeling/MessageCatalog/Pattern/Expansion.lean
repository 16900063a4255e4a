import MessageCatalog.Pattern.Class
import MessageCatalog.Pattern.Regex
import MessageCatalog.Unicode.CaseFolding

/-! # From patterns to regular expressions

Resolves the switches of a pattern. A switch holds from where it is set to the end of its group,
across alternatives, so expansion goes through the pattern from left to right with the switches
as its state. Faults that depend on switches show here.
-/

namespace MessageCatalog.Pattern

/-- The switches in force. -/
structure Switches where
  caseInsensitive : Bool := false
  multiLine : Bool := false
  dotMatchesNewLine : Bool := false
  swapGreed : Bool := false
  unicode : Bool := true
  crlf : Bool := false
  deriving Repr, DecidableEq

def Switches.update (s : Switches) (items : List FlagItem) : Switches where
  caseInsensitive := (flagState items .caseInsensitive).getD s.caseInsensitive
  multiLine := (flagState items .multiLine).getD s.multiLine
  dotMatchesNewLine := (flagState items .dotMatchesNewLine).getD s.dotMatchesNewLine
  swapGreed := (flagState items .swapGreed).getD s.swapGreed
  unicode := (flagState items .unicode).getD s.unicode
  crlf := (flagState items .crlf).getD s.crlf

namespace Switches

/-- Add other cases if case does not matter, then take the complement if asked for. Without
characters a set must stay within ASCII, since other bytes alone are no text. -/
def finish (s : Switches) (span : Span) (negated : Bool) (set : CharSet) : Except Fault CharSet :=
  let cased :=
    if !s.caseInsensitive then set
    else if s.unicode then set.closeUnderCase
    else set.closeUnderAsciiCase
  let result := if negated then cased.complement else cased
  if s.unicode || result.isAscii then .ok result else .error ⟨.invalidUtf8, span, none⟩

/-- The set of a class with a letter of its own. Its sets are closed under case. -/
def letterClass (s : Switches) (span : Span) (negated : Bool) (cls : LetterClass) :
    Except Fault CharSet :=
  let set := cls.set !s.unicode
  let result := if negated then set.complement else set
  if s.unicode || result.isAscii then .ok result else .error ⟨.invalidUtf8, span, none⟩

def property (s : Switches) (span : Span) (negated : Bool) (query : PropertyQuery) :
    Except Fault CharSet :=
  if !s.unicode then .error ⟨.unicodeNotAllowed, span, none⟩
  else match query.set with
    | .error kind => .error ⟨kind, span, none⟩
    | .ok set => s.finish span (negated == query.holds) set

/-- The character of a literal. Without characters, a two-digit form stands for a byte, and a byte
above 127 is no text. -/
def literal (s : Switches) (c : PatternChar) : Except Fault Char :=
  if !s.unicode && c.isByte && 0x80 ≤ c.value.toNat then .error ⟨.invalidUtf8, c.span, none⟩
  else .ok c.value

def setLiteral (s : Switches) (c : PatternChar) : Except Fault Char := do
  let value ← s.literal c
  if s.unicode || value.toNat < 0x80 then return value
  else throw ⟨.unicodeNotAllowed, c.span, none⟩

/-- Add other cases to one side of a set operation if case does not matter. -/
def foldSide (s : Switches) (set : CharSet) : CharSet :=
  if !s.caseInsensitive then set
  else if s.unicode then set.closeUnderCase
  else set.closeUnderAsciiCase

mutual

def setItem (s : Switches) : SetItem → Except Fault CharSet
  | .empty _ => .ok .empty
  | .literal c => do return .singleton (← s.setLiteral c)
  | .range _ low high => do
    let a ← s.setLiteral low
    let b ← s.setLiteral high
    return .range a.toNat b.toNat
  | .named span negated cls => s.finish span negated cls.set
  | .property span negated query => s.property span negated query
  | .letterClass span negated cls => s.letterClass span negated cls
  | .bracketed span negated inner => do s.finish span negated (← s.setItem inner)
  | .union _ items => s.setItems items
  | .binary _ op left right => do
    let a := s.foldSide (← s.setItem left)
    let b := s.foldSide (← s.setItem right)
    return match op with
      | .intersection => a.inter b
      | .difference => a.diff b
      | .symmetricDifference => a.symmDiff b

def setItems (s : Switches) : List SetItem → Except Fault CharSet
  | [] => .ok .empty
  | item :: items => do
    let set ← s.setItem item
    let rest ← s.setItems items
    return set.union rest

end

/-- The set of any character, as the dot means it. -/
def dot (s : Switches) (span : Span) : Except Fault CharSet :=
  if !s.unicode then .error ⟨.invalidUtf8, span, none⟩
  else if s.dotMatchesNewLine then .ok (.range 0 CharSet.maxCode)
  else if s.crlf then .ok (CharSet.ofRanges [(0x0A, 0x0A), (0x0D, 0x0D)]).complement
  else .ok (CharSet.range 0x0A 0x0A).complement

/-- A condition on a place. -/
def look (s : Switches) : Assertion → Look
  | .startLine =>
    if !s.multiLine then .textStart else if s.crlf then .crlfLineStart else .lineStart
  | .endLine => if !s.multiLine then .textEnd else if s.crlf then .crlfLineEnd else .lineEnd
  | .startText => .textStart
  | .endText => .textEnd
  | .wordBoundary => .wordBoundary !s.unicode
  | .notWordBoundary => .notWordBoundary !s.unicode
  | .wordStart => .wordStart !s.unicode
  | .wordEnd => .wordEnd !s.unicode
  | .wordStartHalf => .wordStartHalf !s.unicode
  | .wordEndHalf => .wordEndHalf !s.unicode

/-- A character, with its other cases if case does not matter. -/
def char (s : Switches) (c : Char) : CharSet :=
  if s.unicode || c.toNat < 0x80 then s.foldSide (.singleton c) else .singleton c

end Switches

mutual

/-- Expand a pattern under the given switches. Gives the switches in force behind it, too. -/
def Ast.expand (s : Switches) : Ast → Except Fault (Regex × Switches)
  | .empty _ => .ok (.empty, s)
  | .flags _ items => .ok (.empty, s.update items)
  | .literal c => do return (.ofSet (s.char (← s.literal c)), s)
  | .dot span => do return (.ofSet (← s.dot span), s)
  | .assertion _ kind => .ok (.look (s.look kind), s)
  | .property span negated query => do return (.ofSet (← s.property span negated query), s)
  | .letterClass span negated cls => do return (.ofSet (← s.letterClass span negated cls), s)
  | .bracketed span negated inner => do
    return (.ofSet (← s.finish span negated (← s.setItem inner)), s)
  | .repetition _ low high greedy body => do
    let (regex, after) ← body.expand s
    return (.repeated low high (greedy != after.swapGreed) regex, after)
  | .group _ (.capture index) body => do
    let (regex, _) ← body.expand s
    return (.group index regex, s)
  | .group _ (.flagged items) body => do
    let (regex, _) ← body.expand (s.update items)
    return (regex, s)
  | .alternation _ branches => do
    let (regexes, after) ← Ast.expandAll s branches
    return (.choice regexes, after)
  | .concat _ parts => do
    let (regexes, after) ← Ast.expandAll s parts
    return (.concat regexes, after)

def Ast.expandAll (s : Switches) : List Ast → Except Fault (List Regex × Switches)
  | [] => .ok ([], s)
  | part :: parts => do
    let (regex, after) ← part.expand s
    let (regexes, last) ← Ast.expandAll after parts
    return (regex :: regexes, last)

end

end MessageCatalog.Pattern
