import MessageCatalog.Text.Quoted

/-! # Printing JSON text

The text of an object over several lines, for objects whose values are strings, counts and lists of
strings. Every level is indented by two blanks, and an empty list takes no lines.
-/

namespace MessageCatalog.Json

/-- A value of a field. -/
inductive Printable where
  | string (s : String)
  | natural (n : Nat)
  | strings (ss : List String)
  deriving Repr, DecidableEq

def escapeChar (c : Char) : List Char :=
  if c = '"' ∨ c = '\\' then ['\\', c]
  else if c = Char.ofNat 8 then ['\\', 'b']
  else if c = Char.ofNat 12 then ['\\', 'f']
  else if c = '\n' then ['\\', 'n']
  else if c = '\r' then ['\\', 'r']
  else if c = '\t' then ['\\', 't']
  else if c.toNat < 0x10 then ['\\', 'u', '0', '0', '0'] ++ Quoted.hex c.toNat
  else if c.toNat < 0x20 then ['\\', 'u', '0', '0'] ++ Quoted.hex c.toNat
  else [c]

def printString (s : String) : List Char := '"' :: (s.toList.flatMap escapeChar ++ ['"'])

/-- Items on lines of their own, with commas between them. -/
def printLines (indent : List Char) : List (List Char) → List Char
  | [] => []
  | [item] => '\n' :: (indent ++ item)
  | item :: items => '\n' :: (indent ++ item) ++ ',' :: printLines indent items

def fieldIndent : List Char := [' ', ' ']

/-- The indentation of the elements of a field's list. -/
def elementIndent : List Char := fieldIndent ++ fieldIndent

def Printable.print : Printable → List Char
  | .string s => printString s
  | .natural n => Nat.toDigits 10 n
  | .strings [] => ['[', ']']
  | .strings ss =>
    '[' :: printLines elementIndent (ss.map printString) ++ '\n' :: (fieldIndent ++ [']'])

def printField (field : String × Printable) : List Char :=
  printString field.1 ++ ':' :: ' ' :: field.2.print

def printObject (fields : List (String × Printable)) : String :=
  String.ofList
    (Char.ofNat 0x7b :: printLines fieldIndent (fields.map printField) ++ ['\n', Char.ofNat 0x7d])

end MessageCatalog.Json
