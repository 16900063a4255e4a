import Mathlib
import MessageCatalog.Call

/-! # The grammar of calls

What literals and tails of calls look like, as rules that leave open how a text is to be read: a
comma may separate arguments or belong to a bare one, and so may blanks. `closesCall` decides the
grammar in one pass. Where a quote ends a bare run it goes back to the last comma of the run, which
`GoesOn.absorb` justifies: whatever a derivation makes of the commas before that one, the same bytes
can be read as one bare argument.
-/

namespace MessageCatalog.Call

/-- ASCII whitespace. -/
def Blank (b : UInt8) : Prop := b ∈ [byte ' ', byte '\t', byte '\n', 0x0C, byte '\r']

def Quote (b : UInt8) : Prop := b = byte '"' ∨ b = byte '\''

/-- A byte of a bare argument: neither a quote nor a closing parenthesis. -/
def Bare (b : UInt8) : Prop := ¬ Quote b ∧ b ≠ byte ')'

/-- What may stand between two quotes: escapes, each a backslash with any byte, and bytes other
than the quote and the backslash. -/
inductive Units (quote : UInt8) : List UInt8 → Prop where
  | nil : Units quote []
  | escaped {b : UInt8} {rest : List UInt8} : Units quote rest →
    Units quote (byte '\\' :: b :: rest)
  | plain {b : UInt8} {rest : List UInt8} : b ≠ quote → b ≠ byte '\\' → Units quote rest →
    Units quote (b :: rest)

inductive IsLiteral : List UInt8 → Prop where
  | quoted {quote : UInt8} {units : List UInt8} : Quote quote → Units quote units →
    IsLiteral (quote :: (units ++ [quote]))

/-- What may stand after the first literal of a call. -/
inductive Tail : List UInt8 → Prop where
  | close {blanks : List UInt8} : (∀ b ∈ blanks, Blank b) → Tail (blanks ++ [byte ')'])
  | literal {blanks spaces literal more : List UInt8} : (∀ b ∈ blanks, Blank b) →
    (∀ b ∈ spaces, Blank b) → IsLiteral literal → Tail more →
    Tail (blanks ++ byte ',' :: (spaces ++ literal ++ more))
  | bare {blanks run more : List UInt8} : (∀ b ∈ blanks, Blank b) → run ≠ [] →
    (∀ b ∈ run, Bare b) → Tail more → Tail (blanks ++ byte ',' :: (run ++ more))

theorem isBlank_iff {b : UInt8} : isBlank b = true ↔ Blank b := by
  simp [isBlank, Blank, or_assoc]

theorem isQuote_iff {b : UInt8} : isQuote b = true ↔ Quote b := by
  simp [isQuote, Quote]

theorem isBare_iff {b : UInt8} : isBare b = true ↔ Bare b := by
  simp [isBare, Bare, ← isQuote_iff]

theorem Quote.ne_backslash {b : UInt8} (quote : Quote b) : b ≠ byte '\\' := by
  rcases quote with rfl | rfl <;> decide

theorem Quote.not_blank {b : UInt8} (quote : Quote b) : ¬ Blank b := by
  rw [← isBlank_iff]
  rcases quote with rfl | rfl <;> decide

theorem Blank.bare {b : UInt8} (blank : Blank b) : Bare b := by
  refine ⟨fun quote => quote.not_blank blank, ?_⟩
  rintro rfl
  exact absurd (isBlank_iff.mpr blank) (by decide)

theorem bare_comma : Bare (byte ',') := isBare_iff.mp (by decide)

theorem comma_not_blank : ¬ Blank (byte ',') := mt isBlank_iff.mpr (by decide)

theorem opening_not_blank : ¬ Blank (byte '(') := mt isBlank_iff.mpr (by decide)

theorem backslash_not_blank : ¬ Blank (byte '\\') := mt isBlank_iff.mpr (by decide)

theorem closing_not_blank : ¬ Blank (byte ')') := mt isBlank_iff.mpr (by decide)

theorem bare_append_comma {first second : List UInt8} (bare : ∀ b ∈ first, Bare b)
    (bare' : ∀ b ∈ second, Bare b) : ∀ b ∈ first ++ byte ',' :: second, Bare b :=
  List.forall_mem_append.mpr ⟨bare, List.forall_mem_cons.mpr ⟨bare_comma, bare'⟩⟩

/-! ## Literals -/

theorem bodyLength?_quote {quote : UInt8} (isQuote : Quote quote) (rest : List UInt8) :
    bodyLength? quote (quote :: rest) = some 1 := by
  rw [bodyLength?.eq_def]
  simp only [beq_iff_eq, isQuote.ne_backslash, if_false, if_true]

theorem bodyLength?_plain {quote b : UInt8} (other : b ≠ quote) (noEscape : b ≠ byte '\\')
    (rest : List UInt8) :
    bodyLength? quote (b :: rest) = (bodyLength? quote rest).map (· + 1) := by
  rw [bodyLength?.eq_def]
  simp only [beq_iff_eq, other, noEscape, if_false]

theorem bodyLength?_append {quote : UInt8} {units : List UInt8} (body : Units quote units)
    (rest : List UInt8) :
    bodyLength? quote (units ++ rest) = (bodyLength? quote rest).map (· + units.length) := by
  induction body with
  | nil => simp
  | escaped _ ih =>
      simp only [List.cons_append, bodyLength?, beq_self_eq_true, if_true, ih, Option.map_map]
      rfl
  | plain other noEscape _ ih =>
      rw [List.cons_append, bodyLength?_plain other noEscape, ih, Option.map_map]
      rfl

theorem bodyLength?_units {quote : UInt8} (isQuote : Quote quote) {units : List UInt8}
    (body : Units quote units) (rest : List UInt8) :
    bodyLength? quote (units ++ quote :: rest) = some (units.length + 1) := by
  rw [bodyLength?_append body, bodyLength?_quote isQuote, Option.map_some, Nat.add_comm]

theorem units_of_bodyLength? {quote : UInt8} {bs : List UInt8} {n : Nat}
    (found : bodyLength? quote bs = some n) :
    ∃ units rest, bs = units ++ quote :: rest ∧ Units quote units ∧ n = units.length + 1 := by
  fun_induction bodyLength? quote bs generalizing n with
  | case1 => cases found
  | case2 => cases found
  | case3 b escape c rest ih =>
      obtain ⟨m, inner, rfl⟩ := Option.map_eq_some_iff.mp found
      obtain ⟨units, after, rfl, body, rfl⟩ := ih inner
      rw [beq_iff_eq.mp escape]
      exact ⟨byte '\\' :: c :: units, after, rfl, .escaped body, rfl⟩
  | case4 b rest noEscape same =>
      cases found
      rw [beq_iff_eq.mp same]
      exact ⟨[], rest, rfl, .nil, rfl⟩
  | case5 b rest noEscape other ih =>
      obtain ⟨m, inner, rfl⟩ := Option.map_eq_some_iff.mp found
      obtain ⟨units, after, rfl, body, rfl⟩ := ih inner
      simp only [beq_iff_eq] at noEscape other
      exact ⟨b :: units, after, rfl, .plain other noEscape body, rfl⟩

theorem literalLength?_append {literal : List UInt8} (isLiteral : IsLiteral literal)
    (rest : List UInt8) : literalLength? (literal ++ rest) = some literal.length := by
  cases isLiteral with
  | @quoted quote units isQuote body =>
      have scanned := bodyLength?_units isQuote body rest
      simp [literalLength?, isQuote_iff.mpr isQuote, scanned]

/-- Literals are what the scanner finds. -/
theorem exists_literal {bs : List UInt8} {n : Nat} (found : literalLength? bs = some n) :
    ∃ literal rest, bs = literal ++ rest ∧ IsLiteral literal ∧ n = literal.length := by
  cases bs with
  | nil => cases found
  | cons quote rest =>
      simp only [literalLength?] at found
      split at found
      · rename_i isQuote
        obtain ⟨m, inner, rfl⟩ := Option.map_eq_some_iff.mp found
        obtain ⟨units, after, rfl, body, rfl⟩ := units_of_bodyLength? inner
        refine ⟨quote :: (units ++ [quote]), after, ?_, .quoted (isQuote_iff.mp isQuote) body, ?_⟩
        · simp
        · simp
      · cases found

theorem IsLiteral.exists_cons {literal : List UInt8} (isLiteral : IsLiteral literal) :
    ∃ quote more, literal = quote :: more ∧ Quote quote := by
  cases isLiteral with
  | quoted isQuote body => exact ⟨_, _, rfl, isQuote⟩

/-! ## Blanks and bare runs -/

theorem skipBlanks_append {blanks : List UInt8} (blank : ∀ b ∈ blanks, Blank b) (rest : List UInt8) :
    skipBlanks (blanks ++ rest) = skipBlanks rest :=
  List.dropWhile_append_of_pos fun b member => isBlank_iff.mpr (blank b member)

theorem skipBlanks_cons {b : UInt8} (solid : ¬ Blank b) (rest : List UInt8) :
    skipBlanks (b :: rest) = b :: rest :=
  List.dropWhile_cons_of_neg (mt isBlank_iff.mp solid)

theorem exists_blanks (bs : List UInt8) :
    ∃ blanks, bs = blanks ++ skipBlanks bs ∧ ∀ b ∈ blanks, Blank b :=
  ⟨bs.takeWhile isBlank, List.takeWhile_append_dropWhile.symm, fun b member =>
    isBlank_iff.mp (List.all_eq_true.mp List.all_takeWhile b member)⟩

theorem skipBlanks_literal {literal : List UInt8} (isLiteral : IsLiteral literal)
    (rest : List UInt8) : skipBlanks (literal ++ rest) = literal ++ rest := by
  obtain ⟨quote, more, rfl, isQuote⟩ := isLiteral.exists_cons
  exact skipBlanks_cons isQuote.not_blank _

/-- No quote comes next if something else than blanks comes before all quotes. -/
theorem no_quote_next {run : List UInt8} {b : UInt8} (noQuote : ∀ b ∈ run, ¬ Quote b)
    (solid : ¬ Blank b) (other : ¬ Quote b) (rest : List UInt8) :
    (skipBlanks (run ++ b :: rest)).head?.any isQuote = false := by
  induction run with
  | nil => simp [skipBlanks_cons solid, Bool.eq_false_iff, isQuote_iff, other]
  | cons c run ih =>
      obtain ⟨first, others⟩ := List.forall_mem_cons.mp noQuote
      by_cases blank : Blank c
      · rw [List.cons_append, ← List.singleton_append, skipBlanks_append (by simpa using blank)]
        exact ih others
      · simp [skipBlanks_cons blank, Bool.eq_false_iff, isQuote_iff, first]

theorem takeWhile_bare {run : List UInt8} (bare : ∀ b ∈ run, Bare b) {stop : UInt8}
    (stops : ¬ Bare stop) (rest : List UInt8) : (run ++ stop :: rest).takeWhile isBare = run := by
  rw [List.takeWhile_append_of_pos fun b member => isBare_iff.mpr (bare b member),
    List.takeWhile_cons_of_neg (mt isBare_iff.mp stops), List.append_nil]

theorem beforeLastComma?_append {blanks : List UInt8} (blank : ∀ b ∈ blanks, Blank b)
    (run : List UInt8) : beforeLastComma? (run ++ byte ',' :: blanks) = some run.length := by
  have skipped : (blanks.reverse ++ byte ',' :: run.reverse).dropWhile (· != byte ',') =
      byte ',' :: run.reverse := by
    rw [List.dropWhile_append_of_pos, List.dropWhile_cons_of_neg (by decide)]
    intro b member
    have isBlank := blank b (List.mem_reverse.mp member)
    simp only [bne_iff_ne]
    rintro rfl
    exact absurd (isBlank_iff.mpr isBlank) (by decide)
  simp only [beforeLastComma?, List.reverse_append, List.reverse_cons, List.append_assoc,
    List.singleton_append, skipped, List.length_reverse]

theorem exists_comma {run : List UInt8} {n : Nat} (found : beforeLastComma? run = some n) :
    ∃ front back, run = front ++ byte ',' :: back ∧ n = front.length := by
  simp only [beforeLastComma?] at found
  split at found
  · cases found
  · rename_i comma before skipped
    cases found
    have suffix : comma :: before <:+ run.reverse := skipped ▸ List.dropWhile_suffix _
    have isComma : comma = byte ',' := by
      have first := List.head?_dropWhile_not (· != byte ',') run.reverse
      simpa only [skipped, List.head?_cons, Bool.not_eq_false', bne_eq_false_iff_eq] using first
    obtain ⟨after, split⟩ := suffix
    have split := congrArg List.reverse split
    refine ⟨before.reverse, after.reverse, ?_, by simp⟩
    simpa [isComma] using split.symm

/-! ## Arguments -/

theorem readArgument_literal {spaces literal : List UInt8} (blank : ∀ b ∈ spaces, Blank b)
    (isLiteral : IsLiteral literal) (more : List UInt8) :
    readArgument (spaces ++ literal ++ more) = .tail more := by
  have skipped : skipBlanks (spaces ++ literal ++ more) = literal ++ more := by
    rw [List.append_assoc, skipBlanks_append blank, skipBlanks_literal isLiteral]
  obtain ⟨quote, inner, shape, isQuote⟩ := isLiteral.exists_cons
  have starts : (literal ++ more).head?.any Call.isQuote = true := by
    simp [shape, isQuote_iff.mpr isQuote]
  simp only [readArgument, skipped, starts, literalLength?_append isLiteral, List.drop_left]

/-- Where no literal comes next, the longest bare run decides. -/
theorem readArgument_run {run rest : List UInt8} {stop : UInt8}
    (starts : (skipBlanks (run ++ stop :: rest)).head?.any isQuote = false)
    (bare : ∀ b ∈ run, Bare b) (stops : ¬ Bare stop) :
    readArgument (run ++ stop :: rest) =
      if run.isEmpty then .broken
      else if stop == byte ')' then .closes
      else match beforeLastComma? run with
        | none => .broken
        | some n =>
          if n == 0 || !(run.drop (n + 1)).all isBlank then .broken
          else .tail ((run ++ stop :: rest).drop n) := by
  cases last : beforeLastComma? run <;>
    simp only [readArgument, starts, takeWhile_bare bare stops, List.drop_left, List.head?_cons, last]

theorem readArgument_closes {run : List UInt8} (nonempty : run ≠ []) (bare : ∀ b ∈ run, Bare b)
    (rest : List UInt8) : readArgument (run ++ byte ')' :: rest) = .closes := by
  have stops : ¬ Bare (byte ')') := fun isBare => isBare.2 rfl
  have starts : (skipBlanks (run ++ byte ')' :: rest)).head?.any isQuote = false :=
    no_quote_next (fun b member => (bare b member).1) (fun blank => stops blank.bare)
      (by rw [← isQuote_iff]; decide) rest
  rw [readArgument_run starts bare stops]
  simp [nonempty]

theorem readArgument_bare {run spaces : List UInt8} {quote : UInt8} (nonempty : run ≠ [])
    (bare : ∀ b ∈ run, Bare b) (blank : ∀ b ∈ spaces, Blank b) (isQuote : Quote quote)
    (rest : List UInt8) :
    readArgument (run ++ byte ',' :: (spaces ++ quote :: rest)) =
      .tail (byte ',' :: (spaces ++ quote :: rest)) := by
  have noParenthesis : quote ≠ byte ')' := by rintro rfl; simp [Quote] at isQuote
  have split : run ++ byte ',' :: (spaces ++ quote :: rest) =
      (run ++ byte ',' :: spaces) ++ quote :: rest := by simp
  have all : ∀ b ∈ run ++ byte ',' :: spaces, Bare b :=
    bare_append_comma bare fun b member => (blank b member).bare
  have starts : (skipBlanks (run ++ byte ',' :: (spaces ++ quote :: rest))).head?.any
      Call.isQuote = false :=
    no_quote_next (fun b member => (bare b member).1) comma_not_blank bare_comma.1 _
  have blankAll : spaces.all isBlank = true :=
    List.all_eq_true.mpr fun b member => isBlank_iff.mpr (blank b member)
  have back : (run ++ byte ',' :: spaces).drop (run.length + 1) = spaces := by
    simp [List.drop_append]
  rw [split] at starts ⊢
  rw [readArgument_run starts all (fun isBare => isBare.1 isQuote), beforeLastComma?_append blank]
  simp only [back, blankAll, beq_iff_eq, noParenthesis, ← split, List.drop_left]
  simp [nonempty]

/-- What can be read behind a comma: a literal, a bare run up to the closing parenthesis, or a bare
run up to a comma before a literal. -/
inductive Reads : List UInt8 → Argument → Prop where
  | literal {spaces literal more : List UInt8} : (∀ b ∈ spaces, Blank b) → IsLiteral literal →
    Reads (spaces ++ literal ++ more) (.tail more)
  | closes {run rest : List UInt8} : run ≠ [] → (∀ b ∈ run, Bare b) →
    Reads (run ++ byte ')' :: rest) .closes
  | bare {run spaces rest : List UInt8} {quote : UInt8} : run ≠ [] → (∀ b ∈ run, Bare b) →
    (∀ b ∈ spaces, Blank b) → Quote quote →
    Reads (run ++ byte ',' :: (spaces ++ quote :: rest))
      (.tail (byte ',' :: (spaces ++ quote :: rest)))

theorem exists_run (bs : List UInt8) : (∀ b ∈ bs, Bare b) ∨
    ∃ run stop rest, bs = run ++ stop :: rest ∧ (∀ b ∈ run, Bare b) ∧ ¬ Bare stop := by
  induction bs with
  | nil => exact .inl (by simp)
  | cons b bs ih =>
      by_cases bare : Bare b
      · rcases ih with all | ⟨run, stop, rest, rfl, all, stops⟩
        · exact .inl (List.forall_mem_cons.mpr ⟨bare, all⟩)
        · exact .inr ⟨b :: run, stop, rest, rfl, List.forall_mem_cons.mpr ⟨bare, all⟩, stops⟩
      · exact .inr ⟨[], b, bs, rfl, by simp, bare⟩

theorem reads_of_run {run rest : List UInt8} {stop : UInt8} {found : Argument}
    (starts : (skipBlanks (run ++ stop :: rest)).head?.any isQuote = false)
    (bare : ∀ b ∈ run, Bare b) (stops : ¬ Bare stop)
    (read : readArgument (run ++ stop :: rest) = found) (sound : found ≠ .broken) :
    Reads (run ++ stop :: rest) found := by
  rw [readArgument_run starts bare stops] at read
  split at read
  · exact absurd read.symm sound
  · rename_i nonempty
    have nonempty : run ≠ [] := by simpa using nonempty
    split at read
    · rename_i parenthesis
      subst read
      rw [beq_iff_eq.mp parenthesis]
      exact .closes nonempty bare
    · rename_i other
      have isQuote : Quote stop := Classical.byContradiction fun noQuote =>
        stops ⟨noQuote, mt beq_iff_eq.mpr other⟩
      split at read
      · exact absurd read.symm sound
      · rename_i n comma
        split at read
        · exact absurd read.symm sound
        · rename_i good
          obtain ⟨front, back, rfl, rfl⟩ := exists_comma comma
          have back_eq : (front ++ byte ',' :: back).drop (front.length + 1) = back := by
            simp [List.drop_append]
          simp only [back_eq, Bool.or_eq_true, beq_iff_eq, List.length_eq_zero_iff,
            Bool.not_eq_true', not_or, Bool.not_eq_false, List.all_eq_true] at good
          simp only [List.append_assoc, List.drop_left] at read
          subst read
          rw [List.append_assoc, List.cons_append]
          refine .bare good.1 ?_ ?_ isQuote
          · exact fun b member => bare b (List.mem_append_left _ member)
          · exact fun b member => isBlank_iff.mp (good.2 b member)

theorem reads_of_readArgument {bs : List UInt8} {found : Argument}
    (read : readArgument bs = found) (sound : found ≠ .broken) : Reads bs found := by
  cases starts : (skipBlanks bs).head?.any isQuote with
  | true =>
      obtain ⟨spaces, split, blank⟩ := exists_blanks bs
      simp only [readArgument, starts] at read
      cases scanned : literalLength? (skipBlanks bs) with
      | none =>
          rw [scanned] at read
          exact absurd read.symm sound
      | some n =>
          obtain ⟨literal, more, inner, isLiteral, rfl⟩ := exists_literal scanned
          rw [scanned, inner] at read
          simp only [List.drop_left] at read
          subst read
          rw [split, inner, ← List.append_assoc]
          exact .literal blank isLiteral
  | false =>
      rcases exists_run bs with all | ⟨run, stop, rest, rfl, bare, stops⟩
      · have whole : bs.takeWhile isBare = bs := by
          have bare : ∀ b ∈ bs, isBare b = true := fun b member => isBare_iff.mpr (all b member)
          have taken := @List.takeWhile_append_of_pos _ isBare bs [] bare
          simpa only [List.append_nil, List.takeWhile_nil] using taken
        simp only [readArgument, starts, whole, List.drop_length, List.head?_nil] at read
        exact absurd read.symm sound
      · exact reads_of_run starts bare stops read sound

end MessageCatalog.Call
