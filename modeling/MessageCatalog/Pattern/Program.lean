import MessageCatalog.Pattern.Regex

/-! # Programs

A regular expression as a list of instructions, each with the numbers of the instructions that may
follow. Where an instruction has two successors, the first one is preferred.
-/

namespace MessageCatalog.Pattern

/-- One instruction. -/
inductive Instruction where
  /-- Take a character of the set. -/
  | chars (set : CharSet) (next : Nat)
  /-- Go on in either way, preferably the first. -/
  | split (first second : Nat)
  /-- Go on if the condition holds here. -/
  | look (condition : Look) (next : Nat)
  /-- Note the place in a slot. Group `n` starts in slot `2 n` and ends in slot `2 n + 1`. -/
  | save (slot next : Nat)
  /-- A match ends here. -/
  | done
  deriving Repr, Inhabited

/-- The instructions written so far. -/
abbrev Code := Array Instruction

namespace Code

/-- Write an instruction behind the others. Gives its number, too. -/
def emit (code : Code) (i : Instruction) : Code × Nat :=
  let number := code.size
  (code.push i, number)

/-- A choice between going on at `more` and at `less`, in the order of preference. -/
def choice (greedy : Bool) (more less : Nat) : Instruction :=
  if greedy then .split more less else .split less more

/-- Write a fragment `count` times in a row, so that the last one goes on at `next`. -/
def copies (write : Code → Nat → Code × Nat) (count : Nat) (code : Code) (next : Nat) :
    Code × Nat :=
  count.fold (fun _ _ state => write state.1 state.2) (code, next)

/-- Write one round or more: behind each round there is a choice to begin another. -/
def loop (write : Code → Nat → Code × Nat) (greedy : Bool) (code : Code) (next : Nat) :
    Code × Nat :=
  let (code, again) := code.emit .done
  let (code, body) := write code again
  (code.setIfInBounds again (choice greedy body next), body)

/-- Write any number of rounds. If a round may be empty, the choice whether to begin differs from
the choice to go on. -/
def star (write : Code → Nat → Code × Nat) (mayBeEmpty greedy : Bool) (code : Code) (next : Nat) :
    Code × Nat :=
  if mayBeEmpty then
    let (code, body) := loop write greedy code next
    code.emit (choice greedy body next)
  else
    let (code, again) := code.emit .done
    let (code, body) := write code again
    (code.setIfInBounds again (choice greedy body next), again)

/-- Write up to `count` rounds, each within the one before. -/
def optional (write : Code → Nat → Code × Nat) (greedy : Bool) (count : Nat) (code : Code)
    (next : Nat) : Code × Nat :=
  count.fold
    (fun _ _ state =>
      let (code, body) := write state.1 state.2
      code.emit (choice greedy body next))
    (code, next)

def text (cs : List Char) (code : Code) (next : Nat) : Code × Nat :=
  cs.reverse.foldl (fun (code, next) c => emit code (.chars (.singleton c) next)) (code, next)

def repetition (write : Code → Nat → Code × Nat) (mayBeEmpty : Bool) (low : Nat)
    (high : Option Nat) (greedy : Bool) (code : Code) (next : Nat) : Code × Nat :=
  match high with
  | none =>
    if low = 0 then star write mayBeEmpty greedy code next
    else
      let (code, last) := loop write greedy code next
      copies write (low - 1) code last
  | some high =>
    let (code, rest) := optional write greedy (high - low) code next
    copies write low code rest

end Code

mutual

/-- Write a regular expression that goes on at `next`. Gives the number of its first
instruction, too. -/
def Regex.write (code : Code) (next : Nat) : Regex → Code × Nat
  | .empty => (code, next)
  | .literal text => Code.text text code next
  | .chars set => code.emit (.chars set next)
  | .look condition => code.emit (.look condition next)
  | .group index body =>
    let (code, close) := code.emit (.save (2 * index + 1) next)
    let (code, inner) := body.write code close
    code.emit (.save (2 * index) inner)
  | .seq parts => Regex.writeSeq code next parts
  | .alt branches => Regex.writeAlt code next branches
  | .rep low high greedy body =>
    Code.repetition (fun code next => body.write code next) (!body.minLength.any (0 < ·)) low high greedy
      code next

def Regex.writeSeq (code : Code) (next : Nat) : List Regex → Code × Nat
  | [] => (code, next)
  | part :: parts =>
    let (code, rest) := Regex.writeSeq code next parts
    part.write code rest

/-- Write alternatives, the first one preferred. -/
def Regex.writeAlt (code : Code) (next : Nat) : List Regex → Code × Nat
  | [] => (code, next)
  | [branch] => branch.write code next
  | branch :: branches =>
    let (code, others) := Regex.writeAlt code next branches
    let (code, first) := branch.write code next
    code.emit (.split first others)

end

/-- A program: its instructions, the number of the first one, and the number of its groups, the
whole match included. -/
structure Program where
  code : Code
  start : Nat
  groups : Nat
  deriving Repr, Inhabited

def Program.ofRegex (regex : Regex) : Program :=
  let (code, done) := Code.emit #[] .done
  let (code, start) := (Regex.group 0 regex).write code done
  ⟨code, start, regex.lastGroup + 1⟩

end MessageCatalog.Pattern
