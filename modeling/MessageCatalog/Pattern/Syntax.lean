/-! # Search patterns as written

The syntax tree of a regular expression. Every node carries the span of pattern text that it was
read from, because faults that show only after reading still point into the text.
-/

namespace MessageCatalog.Pattern

/-- A place in a pattern: characters before it, and its line and column, both counted from one. -/
structure Position where
  offset : Nat
  line : Nat
  column : Nat
  deriving Repr, DecidableEq, Inhabited

namespace Position

/-- The first place of a pattern. -/
def first : Position := ⟨0, 1, 1⟩

/-- The place behind a character that stands at a place. -/
def after (p : Position) (c : Char) : Position :=
  if c = '\n' then ⟨p.offset + 1, p.line + 1, 1⟩ else ⟨p.offset + 1, p.line, p.column + 1⟩

end Position

/-- A stretch of pattern text. -/
structure Span where
  start : Position
  stop : Position
  deriving Repr, DecidableEq, Inhabited

def Span.at (p : Position) : Span := ⟨p, p⟩

inductive Flag where
  | caseInsensitive
  | multiLine
  | dotMatchesNewLine
  | swapGreed
  | unicode
  | crlf
  | extended
  deriving Repr, DecidableEq

/-- One item of a list of switches: a switch, or the sign that turns the rest off. -/
inductive FlagItem where
  | negation
  | flag (f : Flag)
  deriving Repr, DecidableEq

/-- The setting that a list of switches gives to `f`, if it names it. -/
def flagState (items : List FlagItem) (f : Flag) : Option Bool :=
  (items.foldl
    (fun (negated, found) item =>
      match item with
      | .negation => (true, found)
      | .flag g => (negated, if g = f ∧ found.isNone then some (!negated) else found))
    (false, none)).2

/-- Conditions on a place of the searched text. -/
inductive Assertion where
  | startLine
  | endLine
  | startText
  | endText
  | wordBoundary
  | notWordBoundary
  | wordStart
  | wordEnd
  | wordStartHalf
  | wordEndHalf
  deriving Repr, DecidableEq

/-- The classes with a letter of their own: `\d`, `\s` and `\w`. -/
inductive LetterClass where
  | digit
  | space
  | word
  deriving Repr, DecidableEq

/-- The named classes inside brackets, such as `[:alpha:]`. -/
inductive NamedClass where
  | alnum
  | alpha
  | ascii
  | blank
  | cntrl
  | digit
  | graph
  | lower
  | print
  | punct
  | space
  | upper
  | word
  | xdigit
  deriving Repr, DecidableEq

/-- How a property of characters is asked for: `\pL`, `\p{Greek}` or `\p{sc=Greek}`. A value may be
asked for by `!=`, so that the characters with other values are meant. -/
inductive PropertyQuery where
  | letter (c : Char)
  | named (name : String)
  | valued (name value : String) (equal : Bool)
  deriving Repr, DecidableEq

/-- Whether the characters are meant for which the property holds. -/
def PropertyQuery.holds : PropertyQuery → Bool
  | .valued _ _ equal => equal
  | _ => true

inductive SetOperation where
  | intersection
  | difference
  | symmetricDifference
  deriving Repr, DecidableEq

/-- A character as a pattern writes it. `isByte` marks the form `\x41` of two hexadecimal digits,
which stands for a byte where characters are switched off. -/
structure PatternChar where
  span : Span
  value : Char
  isByte : Bool
  deriving Repr, DecidableEq

/-- What stands inside brackets. -/
inductive SetItem where
  | empty (span : Span)
  | literal (c : PatternChar)
  | range (span : Span) (low high : PatternChar)
  | named (span : Span) (negated : Bool) (cls : NamedClass)
  | property (span : Span) (negated : Bool) (query : PropertyQuery)
  | letterClass (span : Span) (negated : Bool) (cls : LetterClass)
  | bracketed (span : Span) (negated : Bool) (inner : SetItem)
  | union (span : Span) (items : List SetItem)
  | binary (span : Span) (op : SetOperation) (left right : SetItem)
  deriving Repr

def SetItem.span : SetItem → Span
  | .empty s => s
  | .literal c => c.span
  | .range s .. => s
  | .named s .. => s
  | .property s .. => s
  | .letterClass s .. => s
  | .bracketed s .. => s
  | .union s _ => s
  | .binary s .. => s

/-- Kinds of groups: a capturing one with its number, or one that only sets switches. -/
inductive GroupKind where
  | capture (index : Nat)
  | flagged (items : List FlagItem)
  deriving Repr, DecidableEq

/-- A pattern. -/
inductive Ast where
  | empty (span : Span)
  | flags (span : Span) (items : List FlagItem)
  | literal (c : PatternChar)
  | dot (span : Span)
  | assertion (span : Span) (kind : Assertion)
  | property (span : Span) (negated : Bool) (query : PropertyQuery)
  | letterClass (span : Span) (negated : Bool) (cls : LetterClass)
  | bracketed (span : Span) (negated : Bool) (inner : SetItem)
  | repetition (span : Span) (low : Nat) (high : Option Nat) (greedy : Bool) (body : Ast)
  | group (span : Span) (kind : GroupKind) (body : Ast)
  | alternation (span : Span) (branches : List Ast)
  | concat (span : Span) (parts : List Ast)
  deriving Repr, Inhabited

def Ast.span : Ast → Span
  | .empty s => s
  | .flags s _ => s
  | .literal c => c.span
  | .dot s => s
  | .assertion s _ => s
  | .property s .. => s
  | .letterClass s .. => s
  | .bracketed s .. => s
  | .repetition s .. => s
  | .group s .. => s
  | .alternation s _ => s
  | .concat s _ => s

def Ast.ofParts (span : Span) : List Ast → Ast
  | [] => .empty span
  | [a] => a
  | parts => .concat span parts

/-- Several items between brackets as one, over the text from the first to the last. -/
def SetItem.ofItems (empty : Span) : List SetItem → SetItem
  | [] => .empty empty
  | [item] => item
  | item :: items =>
    .union ⟨item.span.start, (items.getLast?.getD item).span.stop⟩ (item :: items)

end MessageCatalog.Pattern
