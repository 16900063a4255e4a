import MessageCatalog.Pattern.Syntax

/-! # Faults of search patterns

What can be wrong with a pattern, and how a fault is shown: the pattern with a mark under the
offending text, then a sentence.
-/

namespace MessageCatalog.Pattern

/-- What is wrong with a pattern. -/
inductive FaultKind where
  | classEscapeInvalid
  | classRangeInvalid
  | classRangeLiteral
  | classUnclosed
  | decimalEmpty
  | decimalInvalid
  | escapeHexEmpty
  | escapeHexInvalid
  | escapeHexInvalidDigit
  | escapeUnexpectedEnd
  | escapeUnrecognized
  | flagDanglingNegation
  | flagDuplicate
  | flagRepeatedNegation
  | flagUnexpectedEnd
  | flagUnrecognized
  | groupNameDuplicate
  | groupNameEmpty
  | groupNameInvalid
  | groupNameUnexpectedEnd
  | groupUnclosed
  | groupUnopened
  | nestLimitExceeded (limit : Nat)
  | repetitionCountInvalid
  | repetitionCountDecimalEmpty
  | repetitionCountUnclosed
  | repetitionMissing
  | wordBoundaryUnclosed
  | wordBoundaryUnrecognized
  | wordBoundaryOrRepetitionUnclosed
  | propertyNameInvalid
  | unsupportedBackreference
  | unsupportedLookAround
  | unicodeNotAllowed
  | invalidUtf8
  | propertyNotFound
  | propertyValueNotFound
  deriving Repr, DecidableEq

def FaultKind.message : FaultKind → String
  | .classEscapeInvalid => "invalid escape sequence found in character class"
  | .classRangeInvalid => "invalid character class range, the start must be <= the end"
  | .classRangeLiteral => "invalid range boundary, must be a literal"
  | .classUnclosed => "unclosed character class"
  | .decimalEmpty => "decimal literal empty"
  | .decimalInvalid => "decimal literal invalid"
  | .escapeHexEmpty => "hexadecimal literal empty"
  | .escapeHexInvalid => "hexadecimal literal is not a Unicode scalar value"
  | .escapeHexInvalidDigit => "invalid hexadecimal digit"
  | .escapeUnexpectedEnd => "incomplete escape sequence, reached end of pattern prematurely"
  | .escapeUnrecognized => "unrecognized escape sequence"
  | .flagDanglingNegation => "dangling flag negation operator"
  | .flagDuplicate => "duplicate flag"
  | .flagRepeatedNegation => "flag negation operator repeated"
  | .flagUnexpectedEnd => "expected flag but got end of regex"
  | .flagUnrecognized => "unrecognized flag"
  | .groupNameDuplicate => "duplicate capture group name"
  | .groupNameEmpty => "empty capture group name"
  | .groupNameInvalid => "invalid capture group character"
  | .groupNameUnexpectedEnd => "unclosed capture group name"
  | .groupUnclosed => "unclosed group"
  | .groupUnopened => "unopened group"
  | .nestLimitExceeded limit =>
    s!"exceed the maximum number of nested parentheses/brackets ({limit})"
  | .repetitionCountInvalid => "invalid repetition count range, the start must be <= the end"
  | .repetitionCountDecimalEmpty => "repetition quantifier expects a valid decimal"
  | .repetitionCountUnclosed => "unclosed counted repetition"
  | .repetitionMissing => "repetition operator missing expression"
  | .wordBoundaryUnclosed =>
    "special word boundary assertion is either unclosed or contains an invalid character"
  | .wordBoundaryUnrecognized =>
    "unrecognized special word boundary assertion, valid choices are: start, end, start-half " ++
      "or end-half"
  | .wordBoundaryOrRepetitionUnclosed =>
    "found either the beginning of a special word boundary or a bounded repetition on a \\b " ++
      "with an opening brace, but no closing brace"
  | .propertyNameInvalid => "invalid Unicode character class"
  | .unsupportedBackreference => "backreferences are not supported"
  | .unsupportedLookAround =>
    "look-around, including look-ahead and look-behind, is not supported"
  | .unicodeNotAllowed => "Unicode not allowed here"
  | .invalidUtf8 => "pattern can match invalid UTF-8"
  | .propertyNotFound => "Unicode property not found"
  | .propertyValueNotFound => "Unicode property value not found"

/-- A fault: what is wrong, where, and the earlier place that it conflicts with, if any. -/
structure Fault where
  kind : FaultKind
  span : Span
  conflict : Option Span := none
  deriving Repr, DecidableEq

/-- The lines of a text. A carriage return before a line feed is not part of the line, and the
empty text behind a last line feed is no line. -/
def textLines (cs : List Char) : List (List Char) :=
  let finish (line : List Char) : List Char :=
    match line with
    | '\r' :: rest => rest.reverse
    | _ => line.reverse
  let (lines, last) := cs.foldl
    (fun (lines, line) c =>
      if c = '\n' then (finish line :: lines, []) else (lines, c :: line))
    (([] : List (List Char)), ([] : List Char))
  (if last.isEmpty then lines else last.reverse :: lines).reverse

/-- A run of one character. -/
def runOf (c : Char) (n : Nat) : List Char := List.replicate n c

namespace Fault

def spans (f : Fault) : List Span :=
  match f.conflict with
  | none => [f.span]
  | some other =>
    if other.start.offset ≤ f.span.start.offset then [other, f.span] else [f.span, other]

def isOneLine (s : Span) : Bool := s.start.line == s.stop.line

/-- The marks under a line, for its places in order: each at least one character wide. -/
def markLine (marks : List Char) : List Span → List Char
  | [] => marks
  | s :: rest =>
    let padded := marks ++ runOf ' ' (s.start.column - 1 - marks.length)
    markLine (padded ++ runOf '^' (max 1 (s.stop.column - s.start.column))) rest

/-- The pattern with marks. `width` is the number of digits of line numbers, or zero for a pattern
of one line, which is shown without them. -/
def notate (width : Nat) (spans : List Span) : Nat → List (List Char) → List Char
  | _, [] => []
  | number, line :: rest =>
    let label :=
      if width = 0 then runOf ' ' 4
      else
        let digits := (toString number).toList
        runOf ' ' (width - digits.length) ++ digits ++ [':', ' ']
    let here := spans.filter fun s => isOneLine s && s.start.line == number
    let marks :=
      if here.isEmpty then []
      else runOf ' ' (if width = 0 then 4 else width + 2) ++ markLine [] here ++ ['\n']
    label ++ line ++ '\n' :: (marks ++ notate width spans (number + 1) rest)

/-- The report on a fault of the pattern `pattern`. -/
def report (pattern : String) (f : Fault) : String :=
  let cs := pattern.toList
  let lines := textLines cs
  let count := lines.length + if cs.getLast? = some '\n' then 1 else 0
  let width := if count ≤ 1 then 0 else (toString count).length
  let notated := String.ofList (notate width f.spans 1 lines)
  if cs.contains '\n' then
    let divider := String.ofList (runOf '~' 79) ++ "\n"
    let notes := (f.spans.filter fun s => !isOneLine s).map fun s =>
      s!"on line {s.start.line} (column {s.start.column}) through line {s.stop.line} " ++
        s!"(column {s.stop.column - 1})"
    let notesText := if notes.isEmpty then "" else "\n".intercalate notes ++ "\n"
    "regex parse error:\n" ++ divider ++ notated ++ divider ++ notesText ++
      "error: " ++ f.kind.message
  else "regex parse error:\n" ++ notated ++ "error: " ++ f.kind.message

end Fault

end MessageCatalog.Pattern
