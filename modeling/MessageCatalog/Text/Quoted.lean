import MessageCatalog.Unicode.Recent

/-! # Quoted text for reports

How reports show a text so that nothing in it is invisible: in double quotes, with escapes for
double quotes, backslashes, control characters and everything that does not print.
-/

namespace MessageCatalog.Quoted

/-- Characters that extend the one before them, so that they hardly show alone. The two sound marks
of half width do show. -/
def extending : CharSet :=
  (Unicode.graphemeExtend.union Unicode.recentExtend).diff (.range 0xFF9E 0xFF9F)

/-- Letters that stand for no sound and leave a blank: the fillers of Korean syllables. -/
def fillers : CharSet :=
  ((CharSet.range 0x115F 0x1160).union (.range 0x3164 0x3164)).union (.range 0xFFA0 0xFFA0)

/-- Characters that leave a visible mark of their own: all assigned ones except controls, formats,
characters for private use, separators other than the space, fillers and extending characters. -/
def printable : CharSet :=
  (((Unicode.assigned.union Unicode.recent).diff
    (Unicode.categoryUnion ["cc", "cf", "co", "zl", "zp", "zs"])).diff
      ((extending.union fillers).union Unicode.surrogates)).union (.range 0x20 0x20)

/-- A number in hexadecimal, in lower case. -/
def hex (n : Nat) : List Char := Nat.toDigits 16 n

def char (c : Char) : List Char :=
  if c = '"' ∨ c = '\\' then ['\\', c]
  else if c = '\n' then ['\\', 'n']
  else if c = '\r' then ['\\', 'r']
  else if c = '\t' then ['\\', 't']
  else if c.toNat = 0 then ['\\', '0']
  else if printable.has c then [c]
  else ['\\', 'u', Char.ofNat 0x7b] ++ hex c.toNat ++ [Char.ofNat 0x7d]

def text (s : String) : String :=
  String.ofList ('"' :: s.toList.flatMap char ++ ['"'])

end MessageCatalog.Quoted
