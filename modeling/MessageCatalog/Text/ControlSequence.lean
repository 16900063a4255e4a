import MessageCatalog.Text.Utf8

/-! # Control sequences of terminals

Terminals take some runs of characters as commands, most of them begun by an escape character.
`ControlSequence.strip` keeps what a terminal would show of a text: what is outside of commands,
without control characters but blanks.
-/

namespace MessageCatalog.ControlSequence

/-- What the characters of a text belong to. -/
inductive State where
  /-- No command. -/
  | plain
  /-- A command of which only the escape character was there yet. -/
  | escape
  /-- A short command, which ends with its first character from `0` on. -/
  | short
  /-- A command with parameters, which ends with its first character from `@` on. -/
  | parameters
  /-- A command that carries a text up to a bell. -/
  | titled
  /-- A command to a device, before its first parameter. -/
  | device
  /-- A command to a device in its parameters. -/
  | deviceParameters
  /-- A command to a device in the marks behind its parameters. -/
  | deviceMarks
  /-- A command that carries a text up to a terminator or the next escape character. -/
  | carried
  deriving Repr, DecidableEq

/-- The control characters that are blanks: tabulator, line feed, form feed and carriage return. -/
def isBlank (c : Char) : Bool := c = '\t' || c = '\n' || c = '\x0c' || c = '\r'

/-- The control characters that end any command. -/
def isCancel (c : Char) : Bool := c = '\x18' || c = '\x1a'

/-- Whether a character is a command to terminals by itself. -/
def isControl (c : Char) : Bool := c < ' ' || c = '\x7f'

/-- The byte that terminates a carried text. -/
def terminator : UInt8 := 0x9C

/-- Whether a character terminates a carried text: one of its bytes does. The others are lost with
it. -/
def isTerminator (c : Char) : Bool := (Utf8.bytes c.toString).contains terminator

/-- What a character means where an escape character stands before it. -/
def afterEscape (c : Char) : State :=
  if c = '[' then .parameters
  else if c = ']' then .titled
  else if c = 'P' then .device
  else if c = 'X' || c = '^' || c = '_' then .carried
  else if c < '0' then .short
  else .plain

/-- What a visible character of a command leads to. -/
def advance (state : State) (c : Char) : State :=
  match state with
  | .plain => .plain
  | .escape => afterEscape c
  | .short => if c < '0' then .short else .plain
  | .parameters => if c < '@' then .parameters else .plain
  | .titled => .titled
  | .device => if c < '0' then .deviceMarks else if c < '@' then .deviceParameters else .carried
  | .deviceParameters =>
    if c < '0' then .deviceMarks else if c < '<' then .deviceParameters else .carried
  | .deviceMarks => if c < '0' then .deviceMarks else .carried
  | .carried => .carried

/-- Whether a blank interrupts a command: it does unless the command is one to a device or carries a
text. -/
def State.pausesAtBlank : State → Bool
  | .escape => true
  | .short => true
  | .parameters => true
  | _ => false

/-- What a reader of a text is in the midst of. -/
structure Reader where
  state : State
  /-- A blank has interrupted the command. What follows is shown, up to a character that cannot be,
  with which the command goes on. -/
  paused : Bool
  deriving Repr, DecidableEq

/-- A reader that is in the midst of no command. -/
def Reader.start : Reader := ⟨.plain, false⟩

/-- Whether a terminal shows a character that belongs to no command. -/
def isShown (c : Char) : Bool := isBlank c || !isControl c

/-- What is left of a command behind a shown character: only ASCII leaves it interrupted. -/
def Reader.afterShown (r : Reader) (c : Char) : Reader := if '\x7f' < c then .start else r

/-- Take one character. Gives what the next one belongs to, and whether this one is kept. `resumes`
tells whether a command goes on after a blank has interrupted it; if not, the blank ends it. Within
a command, control characters and what is not ASCII have no meaning. -/
def step (resumes : Bool) (r : Reader) (c : Char) : Reader × Bool :=
  if r.paused && isShown c then (r.afterShown c, true)
  else if c = '\x1b' then (⟨.escape, false⟩, false)
  else if isCancel c then (.start, false)
  else if r.state = .plain then (.start, isShown c)
  else if r.state = .titled && c = '\x07' then (.start, false)
  else if r.state = .carried && isTerminator c then (.start, false)
  else if r.state.pausesAtBlank && isBlank c then (if resumes then ⟨r.state, true⟩ else .start, true)
  else if isControl c || '\x7f' < c then (⟨r.state, false⟩, false)
  else (⟨advance r.state c, false⟩, false)

/-- What a reader keeps of the characters that follow. -/
def stripFrom (resumes : Bool) (r : Reader) : List Char → List Char
  | [] => []
  | c :: rest =>
    let (next, kept) := step resumes r c
    if kept then c :: stripFrom resumes next rest else stripFrom resumes next rest

/-- What a terminal would show of a text. -/
def strip (resumes : Bool) (text : String) : String :=
  String.ofList (stripFrom resumes .start text.toList)

theorem stripFrom_start {resumes : Bool} {cs : List Char} (h : ∀ c ∈ cs, isControl c = false) :
    stripFrom resumes .start cs = cs := by
  induction cs with
  | nil => rfl
  | cons c rest ih =>
    have hc := h c List.mem_cons_self
    have hr := ih fun d hd => h d (List.mem_cons_of_mem _ hd)
    have hs : step resumes .start c = (.start, true) := by
      have h1 : c ≠ '\x1b' := by rintro rfl; revert hc; decide
      have h2 : isCancel c = false := by
        simp only [isCancel, Bool.or_eq_false_iff, decide_eq_false_iff_not]
        constructor <;> (rintro rfl; revert hc; decide)
      simp [step, Reader.start, isShown, h1, h2, hc]
    simp [stripFrom, hs, hr]

end MessageCatalog.ControlSequence
