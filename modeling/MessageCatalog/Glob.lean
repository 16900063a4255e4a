/-! # Globs

Patterns for names of files and directories: `?` stands for one character, `*` for any run of
characters, `**` for whole path components, and brackets for one character in or outside a set. The
whole name has to match.
-/

namespace MessageCatalog

/-- One entry of a bracket: a character, or a range with both ends included. -/
inductive GlobRange where
  | single (c : Char)
  | between (low high : Char)
  deriving Repr, DecidableEq

/-- One part of a glob. -/
inductive GlobToken where
  | char (c : Char)
  | anyChar
  | anySequence
  /-- `**`: any number of whole path components. -/
  | anyComponents
  | within (ranges : List GlobRange)
  | except (ranges : List GlobRange)
  deriving Repr, DecidableEq

/-- A glob that has been read. -/
structure Glob where
  tokens : List GlobToken
  deriving Repr, DecidableEq

namespace Glob

inductive FaultKind where
  | wildcards
  | recursiveWildcards
  | range
  deriving Repr, DecidableEq

/-- A fault and the number of characters before it. -/
structure Fault where
  position : Nat
  kind : FaultKind
  deriving Repr, DecidableEq

def Fault.message (f : Fault) : String :=
  let why :=
    match f.kind with
    | .wildcards => "wildcards are either regular `*` or recursive `**`"
    | .recursiveWildcards => "recursive wildcards must form a single path component"
    | .range => "invalid range pattern"
  s!"Pattern syntax error near position {f.position}: {why}"

/-- The entries of a bracket. A hyphen between two characters makes a range of them. -/
def ranges : List Char → List GlobRange
  | a :: '-' :: b :: rest => .between a b :: ranges rest
  | a :: rest => .single a :: ranges rest
  | [] => []

/-- Split at the first closing bracket that is not the first character: the characters before it
and those behind it. -/
def bracket? : List Char → Option (List Char × List Char)
  | [] => none
  | first :: rest =>
    let inside := rest.takeWhile (· ≠ ']')
    match rest.drop inside.length with
    | [] => none
    | _ :: behind => some (first :: inside, behind)

/-- Read the bracket behind its opening sign: one with an exclamation mark excludes its entries. -/
def bracketToken? : List Char → Option (GlobToken × List Char)
  | '!' :: rest => (bracket? rest).map fun (inside, behind) => (.except (ranges inside), behind)
  | rest => (bracket? rest).map fun (inside, behind) => (.within (ranges inside), behind)

theorem length_lt_of_bracket? {cs inside behind : List Char}
    (h : bracket? cs = some (inside, behind)) : behind.length < cs.length := by
  cases cs with
  | nil => cases h
  | cons first rest =>
    simp only [bracket?] at h
    split at h
    · cases h
    · rename_i c more hmore
      cases h
      have := congrArg List.length hmore
      simp only [List.length_drop, List.length_cons] at this ⊢
      omega

theorem length_lt_of_bracketToken? {cs behind : List Char} {token : GlobToken}
    (h : bracketToken? cs = some (token, behind)) : behind.length < cs.length := by
  unfold bracketToken? at h
  split at h
  all_goals
    simp only [Option.map_eq_some_iff] at h
    obtain ⟨⟨inside, more⟩, hb, hm⟩ := h
    cases hm
    have := length_lt_of_bracket? hb
  · simp only [List.length_cons]; omega
  · exact this

/-- Add `**`, unless it only repeats the one before it. `tokens` are those read so far, the last one
first. -/
def pushComponents (tokens : List GlobToken) : List GlobToken :=
  if tokens.length > 1 ∧ tokens.head? = some .anyComponents then tokens
  else .anyComponents :: tokens

/-- Read a glob from position `at` on, behind the character `before`. `tokens` are those read so
far, the last one first. `**` must form a path component of its own. -/
def parseFrom (position : Nat) (before : Option Char) (tokens : List GlobToken)
    (cs : List Char) : Except Fault (List GlobToken) :=
  match cs with
  | [] => .ok tokens.reverse
  | '?' :: rest => parseFrom (position + 1) (some '?') (.anyChar :: tokens) rest
  | '*' :: '*' :: '*' :: _ => .error ⟨position + 2, .wildcards⟩
  | '*' :: '*' :: rest =>
    if before.all (· = '/') then
      match rest with
      | [] => .ok (pushComponents tokens).reverse
      | c :: rest =>
        if c = '/' then parseFrom (position + 3) (some '/') (pushComponents tokens) rest
        else .error ⟨position + 2, .recursiveWildcards⟩
    else .error ⟨position - 1, .recursiveWildcards⟩
  | '*' :: rest => parseFrom (position + 1) (some '*') (.anySequence :: tokens) rest
  | '[' :: rest =>
    match _h : bracketToken? rest with
    | some (token, behind) =>
      parseFrom (position + 1 + (rest.length - behind.length)) (some ']') (token :: tokens) behind
    | none => .error ⟨position, .range⟩
  | c :: rest => parseFrom (position + 1) (some c) (.char c :: tokens) rest
termination_by cs.length
decreasing_by
  all_goals simp only [List.length_cons]
  all_goals first
    | omega
    | (have hlt := length_lt_of_bracketToken? _h; omega)

def parse (text : String) : Except Fault Glob := (parseFrom 0 none [] text.toList).map Glob.mk

def listed (ranges : List GlobRange) (c : Char) : Bool :=
  ranges.any fun
    | .single a => c = a
    | .between a b => a ≤ c && c ≤ b

/-- Whether a character fits a part that stands for one character. -/
def fits (c : Char) : GlobToken → Bool
  | .char a => c = a
  | .anyChar => true
  | .within ranges => listed ranges c
  | .except ranges => !listed ranges c
  | .anySequence => false
  | .anyComponents => false

/-- How matching a text against parts ends. -/
inductive Outcome where
  | matched
  | mismatch
  /-- The text ended before the parts did, so no end of the text matches either. -/
  | exhausted
  deriving Repr, DecidableEq

/-- The first outcome other than a mismatch among all ends of a text, the longest first. -/
def firstSuffix (test : List Char → Outcome) : List Char → Outcome
  | [] => test []
  | c :: rest =>
    match test (c :: rest) with
    | .mismatch => firstSuffix test rest
    | outcome => outcome

/-- The first outcome other than a mismatch among the ends of a text behind a slash, the longest
first, and last the empty end. -/
def firstComponent (test : List Char → Outcome) : List Char → Outcome
  | [] => test []
  | c :: rest =>
    match if c = '/' then test rest else .mismatch with
    | .mismatch => firstComponent test rest
    | outcome => outcome

def matchTokens : List GlobToken → List Char → Outcome
  | [], [] => .matched
  | [], _ :: _ => .mismatch
  | .anySequence :: tokens, cs => firstSuffix (matchTokens tokens) cs
  | .anyComponents :: tokens, cs =>
    match matchTokens tokens cs with
    | .mismatch => firstComponent (matchTokens tokens) cs
    | outcome => outcome
  | _ :: _, [] => .exhausted
  | token :: tokens, c :: cs => if fits c token then matchTokens tokens cs else .mismatch

/-- Whether a name matches a glob. -/
def accepts (g : Glob) (name : String) : Bool := matchTokens g.tokens name.toList = .matched

end Glob

end MessageCatalog
