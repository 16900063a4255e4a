/-! # Literals

A string literal as the source text writes it, quotes included, and its canonical spelling in a
catalog: a double-quoted string.
-/

namespace MessageCatalog

/-- A literal as written, quotes included. -/
structure Literal where
  raw : String
  deriving Repr, DecidableEq

namespace Literal

/-- The text between two single quotes that enclose a list of characters. -/
def singleQuotedBody? : List Char → Option (List Char)
  | '\'' :: rest => if rest.getLast? = some '\'' then some rest.dropLast else none
  | _ => none

/-- Respell the body of a single-quoted literal for double quotes: an escaped single quote loses
its backslash, a bare double quote gains one, and every other escape is kept. -/
def requote : List Char → List Char
  | [] => []
  | ['\\'] => ['\\']
  | '\\' :: c :: rest => if c = '\'' then '\'' :: requote rest else '\\' :: c :: requote rest
  | '"' :: rest => '\\' :: '"' :: requote rest
  | c :: rest => c :: requote rest

/-- The canonical spelling of a literal given as characters. Only text in single quotes changes. -/
def normalizeChars (raw : List Char) : List Char :=
  match singleQuotedBody? raw with
  | some body => '"' :: (requote body ++ ['"'])
  | none => raw

/-- The canonical spelling of a literal, as catalogs show it. -/
def normalized (l : Literal) : String := String.ofList (normalizeChars l.raw.toList)

end Literal

end MessageCatalog
