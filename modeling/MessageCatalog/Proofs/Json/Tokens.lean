import Mathlib
import MessageCatalog.Json.Reader

/-! # Texts as tokens

A document is read token by token, and it does not matter how many blanks there are between them.
`Reads` says what a step of reading gives and what it leaves of a text, and `Spaced` which texts
consist of the same tokens.
-/

namespace MessageCatalog.Json

/-- A step that gives `a` for every text that is as described before, and leaves a text that is as
described after it. -/
def Reads {α : Type} (r : Reading α) (before : List Char → Prop) (a : α)
    (after : List Char → Prop) : Prop :=
  ∀ text mark, before text → ∃ rest mark', r ⟨text, mark⟩ = .ok (a, ⟨rest, mark'⟩) ∧ after rest

/-- Texts with some characters in front of others. -/
def Then (front : List Char) (P : List Char → Prop) (text : List Char) : Prop :=
  ∃ rest, text = front ++ rest ∧ P rest

/-- Texts of tokens with any blanks before, between and behind them. -/
inductive Spaced : List (List Char) → List Char → Prop where
  | done : Spaced [] []
  | blank {c tokens text} (here : isBlank c = true) (more : Spaced tokens text) :
    Spaced tokens (c :: text)
  | token (token) {tokens text} (more : Spaced tokens text) :
    Spaced (token :: tokens) (token ++ text)

section Reads

variable {α β : Type} {r : Reading α} {f : α → Reading β} {a : α} {b : β}
  {P P' Q Q' : List Char → Prop}

theorem Reads.pure (a : α) (P : List Char → Prop) : Reads (pure a) P a P := by
  intro text mark holds
  exact ⟨text, mark, rfl, holds⟩

theorem Reads.bind (first : Reads r P a Q) (second : Reads (f a) Q b Q') :
    Reads (r >>= f) P b Q' := by
  intro text mark holds
  obtain ⟨rest, mark', given, left⟩ := first text mark holds
  obtain ⟨rest', mark'', given', left'⟩ := second rest mark' left
  refine ⟨rest', mark'', ?_, left'⟩
  simp only [Bind.bind, StateT.bind, given, Except.bind]
  exact given'

theorem Reads.map (h : Reads r P a Q) (g : α → β) :
    Reads (r >>= fun a => Pure.pure (g a)) P (g a) Q :=
  h.bind (.pure (g a) Q)

theorem Reads.mono (h : Reads r P a Q) (before : ∀ text, P' text → P text)
    (after : ∀ text, Q text → Q' text) : Reads r P' a Q' := by
  intro text mark holds
  obtain ⟨rest, mark', given, left⟩ := h text mark (before text holds)
  exact ⟨rest, mark', given, after rest left⟩

theorem Reads.here (h : Reads r P a Q) {text : List Char} (holds : P text) :
    Reads r (· = text) a Q := by
  apply h.mono
  · rintro _ rfl
    exact holds
  · exact fun _ left => left

/-- What comes next may depend on the text that is left, such as on its length. -/
theorem Reads.get {f : Input → Reading β}
    (h : ∀ s : Input, P s.rest → Reads (f s) (· = s.rest) b Q) :
    Reads (MonadState.get >>= f) P b Q := by
  intro text mark holds
  obtain ⟨rest, mark', given, left⟩ := h ⟨text, mark⟩ holds text mark rfl
  exact ⟨rest, mark', given, left⟩

theorem Reads.peek {f : Option Char → Reading β}
    (h : ∀ text, P text → Reads (f text.head?) (· = text) b Q) : Reads (Json.peek >>= f) P b Q := by
  intro text mark holds
  obtain ⟨rest, mark', given, left⟩ := h text holds text mark rfl
  exact ⟨rest, mark', given, left⟩

theorem reads_peek (c : Char) (cs : List Char) (P : List Char → Prop) :
    Reads peek (Then (c :: cs) P) (some c) (Then (c :: cs) P) := by
  rintro _ mark ⟨rest, rfl, holds⟩
  exact ⟨_, mark, rfl, rest, rfl, holds⟩

theorem reads_eat (c : Char) (P : List Char → Prop) : Reads eat (Then [c] P) () P := by
  rintro _ mark ⟨rest, rfl, holds⟩
  exact ⟨rest, _, rfl, holds⟩

end Reads

section Then

variable {P : List Char → Prop}

@[simp] theorem then_nil : Then [] P = P := by
  funext text
  simp [Then]

theorem then_append (front more : List Char) :
    Then (front ++ more) P = Then front (Then more P) := by
  funext text
  simp [Then]

theorem then_cons (c : Char) (cs : List Char) : Then (c :: cs) P = Then [c] (Then cs P) :=
  then_append [c] cs

end Then

section Spaced

variable {tokens more : List (List Char)}

theorem spaced_flatten (tokens : List (List Char)) : Spaced tokens tokens.flatten := by
  induction tokens with
  | nil => exact .done
  | cons token tokens ih => exact .token token ih

theorem Spaced.blanks {text blanks : List Char} (h : Spaced tokens text)
    (blank : ∀ c ∈ blanks, isBlank c = true) : Spaced tokens (blanks ++ text) := by
  induction blanks with
  | nil => exact h
  | cons c blanks ih =>
      obtain ⟨first, others⟩ := List.forall_mem_cons.mp blank
      exact .blank first (ih others)

theorem Spaced.length_le {front : List (List Char)} {text : List Char}
    (h : Spaced (front ++ more) text) (some : ∀ t ∈ front, t ≠ []) :
    front.length ≤ text.length := by
  generalize whole : front ++ more = all at h
  induction h generalizing front with
  | done => simp_all
  | blank _ _ ih =>
      have := ih some whole
      simp only [List.length_cons]
      omega
  | token token _ ih =>
      cases front with
      | nil => simp
      | cons t front =>
          obtain ⟨first, others⟩ := List.forall_mem_cons.mp some
          obtain ⟨rfl, behind⟩ := List.cons.inj whole
          have positive := List.length_pos_iff.mpr first
          have := ih others behind
          simp only [List.length_cons, List.length_append]
          omega

theorem Then.spaced {token text : List Char} (h : Then token (Spaced tokens) text) :
    Spaced (token :: tokens) text := by
  obtain ⟨rest, rfl, more⟩ := h
  exact .token token more

/-- Behind the blanks stands the first character of the next token. -/
theorem reads_peekToken {c : Char} (cs : List Char) (solid : isBlank c = false)
    (tokens : List (List Char)) :
    Reads peekToken (Spaced ((c :: cs) :: tokens)) (some c) (Then (c :: cs) (Spaced tokens)) := by
  intro text mark spaced
  -- Blanks are skipped as long as the spacing has them; the mark moves along.
  have skipped : ∃ rest mark', skipBlanksFrom mark text = ⟨c :: cs ++ rest, mark'⟩ ∧
      Spaced tokens rest := by
    generalize whole : (c :: cs) :: tokens = all at spaced
    induction spaced generalizing mark with
    | done => cases whole
    | blank here _ ih =>
        rw [skipBlanksFrom, if_pos here]
        exact ih (mark.afterChar _) whole
    | token token more =>
        cases whole
        refine ⟨_, mark, ?_, more⟩
        rw [List.cons_append, skipBlanksFrom, if_neg (by simp [solid])]
  obtain ⟨rest, mark', skipped, more⟩ := skipped
  refine ⟨c :: cs ++ rest, mark', ?_, rest, rfl, more⟩
  have head : peek ⟨c :: cs ++ rest, mark'⟩ = .ok (some c, ⟨c :: cs ++ rest, mark'⟩) := rfl
  rw [← head, ← skipped]
  rfl

theorem reads_peekToken_end : Reads peekToken (Spaced []) none (Spaced []) := by
  intro text mark spaced
  have skipped : ∃ mark', skipBlanksFrom mark text = ⟨[], mark'⟩ := by
    generalize none : ([] : List (List Char)) = all at spaced
    induction spaced generalizing mark with
    | done => exact ⟨mark, rfl⟩
    | blank here _ ih =>
        rw [skipBlanksFrom, if_pos here]
        exact ih (mark.afterChar _) none
    | token => cases none
  obtain ⟨mark', skipped⟩ := skipped
  refine ⟨[], mark', ?_, .done⟩
  have head : peek ⟨[], mark'⟩ = .ok (none, ⟨[], mark'⟩) := rfl
  rw [← head, ← skipped]
  rfl

end Spaced

end MessageCatalog.Json
