import MessageCatalog.Proofs.Call.Grammar

/-! # Which texts close a call

`closesCall` accepts a text exactly if the grammar derives a tail from some part at its head.
-/

namespace MessageCatalog.Call

/-- What follows a comma goes on to the end of the call. -/
def GoesOn (rest : List UInt8) : Prop :=
  readArgument rest = .closes ∨ ∃ more, readArgument rest = .tail more ∧ closesCall more = true

theorem closesCall_iff {bs : List UInt8} : closesCall bs = true ↔
    (∃ rest, skipBlanks bs = byte ')' :: rest) ∨
      ∃ rest, skipBlanks bs = byte ',' :: rest ∧ GoesOn rest := by
  rw [closesCall]
  split
  · rename_i skipped
    simp [skipped]
  · rename_i b rest skipped
    simp only [skipped, List.cons.injEq, beq_iff_eq]
    split
    · rename_i parenthesis
      simp [parenthesis]
    · rename_i other
      split
      · rename_i comma
        split <;> rename_i read <;> simp [GoesOn, read, comma]
      · rename_i noComma
        simp only [other, noComma, false_and, exists_false, or_self, Bool.false_eq_true]

theorem closesCall_parenthesis {blanks : List UInt8} (blank : ∀ b ∈ blanks, Blank b)
    (rest : List UInt8) : closesCall (blanks ++ byte ')' :: rest) = true := by
  refine closesCall_iff.mpr (.inl ⟨rest, ?_⟩)
  rw [skipBlanks_append blank, skipBlanks_cons closing_not_blank]

theorem closesCall_comma {blanks : List UInt8} (blank : ∀ b ∈ blanks, Blank b) {rest : List UInt8}
    (goesOn : GoesOn rest) : closesCall (blanks ++ byte ',' :: rest) = true := by
  refine closesCall_iff.mpr (.inr ⟨rest, ?_, goesOn⟩)
  rw [skipBlanks_append blank, skipBlanks_cons comma_not_blank]

/-- A bare argument and its comma may be read as a part of the argument behind them: the pass goes
on at the same comma either way. -/
theorem GoesOn.absorb {run rest : List UInt8} (goesOn : GoesOn rest) (nonempty : run ≠ [])
    (bare : ∀ b ∈ run, Bare b) : GoesOn (run ++ byte ',' :: rest) := by
  have longer_ne (inner : List UInt8) : run ++ byte ',' :: inner ≠ [] :=
    List.append_ne_nil_of_left_ne_nil nonempty _
  rcases goesOn with read | ⟨more, read, closes⟩
  · cases reads_of_readArgument read (by simp) with
    | @closes inner after _ bareInner =>
        have whole := readArgument_closes (longer_ne inner) (bare_append_comma bare bareInner) after
        left
        simpa only [List.append_assoc, List.cons_append] using whole
  · right
    cases reads_of_readArgument read (by simp) with
    | @literal spaces literal _ blankInner isLiteral =>
        obtain ⟨quote, inner, shape, isQuote⟩ := isLiteral.exists_cons
        have rest_eq : spaces ++ literal ++ more = spaces ++ quote :: (inner ++ more) := by
          simp [shape]
        have next := closesCall_comma (List.forall_mem_nil Blank)
          (.inr ⟨more, readArgument_literal blankInner isLiteral more, closes⟩)
        refine ⟨byte ',' :: (spaces ++ literal ++ more), ?_, next⟩
        rw [rest_eq]
        exact readArgument_bare nonempty bare blankInner isQuote (inner ++ more)
    | @bare inner spaces after quote _ bareInner blankInner isQuote =>
        have whole := readArgument_bare (longer_ne inner) (bare_append_comma bare bareInner)
          blankInner isQuote after
        refine ⟨_, ?_, closes⟩
        simpa only [List.append_assoc, List.cons_append] using whole

theorem goesOn_of_bare {run bs : List UInt8} (nonempty : run ≠ []) (bare : ∀ b ∈ run, Bare b)
    (closes : closesCall bs = true) : GoesOn (run ++ bs) := by
  obtain ⟨blanks, split, blank⟩ := exists_blanks bs
  have longer : ∀ b ∈ run ++ blanks, Bare b :=
    List.forall_mem_append.mpr ⟨bare, fun b member => (blank b member).bare⟩
  have longer_ne : run ++ blanks ≠ [] := List.append_ne_nil_of_left_ne_nil nonempty blanks
  rw [split, ← List.append_assoc]
  rcases closesCall_iff.mp closes with ⟨rest, skipped⟩ | ⟨rest, skipped, goesOn⟩
  · rw [skipped]
    exact .inl (readArgument_closes longer_ne longer rest)
  · rw [skipped]
    exact goesOn.absorb longer_ne longer

/-- A text that starts with a tail closes the call. -/
theorem closesCall_of_tail {tail : List UInt8} (isTail : Tail tail) (rest : List UInt8) :
    closesCall (tail ++ rest) = true := by
  induction isTail with
  | close blank =>
      rw [List.append_assoc, List.singleton_append]
      exact closesCall_parenthesis blank rest
  | @literal blanks spaces literal more blank blankInner isLiteral _ ih =>
      have read := readArgument_literal blankInner isLiteral (more ++ rest)
      rw [← List.append_assoc] at read
      rw [List.append_assoc, List.cons_append]
      exact closesCall_comma blank (.inr ⟨more ++ rest, read, ih⟩)
  | @bare blanks run more blank nonempty bare _ ih =>
      rw [List.append_assoc, List.cons_append, List.append_assoc]
      exact closesCall_comma blank (goesOn_of_bare nonempty bare ih)

theorem Reads.exists_tail {blanks rest more tail : List UInt8} (reads : Reads rest (.tail more))
    (blank : ∀ b ∈ blanks, Blank b) (isTail : Tail tail) (first : tail <+: more) :
    ∃ longer, Tail longer ∧ longer <+: blanks ++ byte ',' :: rest := by
  obtain ⟨behind, rfl⟩ := first
  generalize found : Argument.tail (tail ++ behind) = argument at reads
  cases reads with
  | @literal spaces literal more blankInner isLiteral =>
      cases found
      refine ⟨_, .literal blank blankInner isLiteral isTail, behind, ?_⟩
      simp
  | closes => cases found
  | @bare run spaces after quote nonempty bare blankInner isQuote =>
      have more_eq := Argument.tail.inj found
      refine ⟨_, .bare blank nonempty bare isTail, behind, ?_⟩
      rw [← more_eq]
      simp

/-- A text that closes the call starts with a tail. -/
theorem exists_tail {bs : List UInt8} (closes : closesCall bs = true) :
    ∃ tail, Tail tail ∧ tail <+: bs := by
  obtain ⟨blanks, split, blank⟩ := exists_blanks bs
  rcases closesCall_iff.mp closes with ⟨rest, skipped⟩ | ⟨rest, skipped, read⟩
  · rw [split, skipped]
    exact ⟨_, .close blank, rest, by simp⟩
  · rcases read with read | ⟨more, read, closes⟩
    · cases reads_of_readArgument read (by simp) with
      | @closes run after nonempty bare =>
          rw [split, skipped]
          have parenthesis : Tail [byte ')'] := .close (List.forall_mem_nil Blank)
          exact ⟨_, .bare blank nonempty bare parenthesis, after, by simp⟩
    · have shorter : more.length < bs.length := by
        have skippedLength := length_skipBlanks_le bs
        have readLength := length_le_of_readArgument read
        rw [skipped, List.length_cons] at skippedLength
        omega
      obtain ⟨tail, isTail, first⟩ := exists_tail closes
      rw [split, skipped]
      exact (reads_of_readArgument read (by simp)).exists_tail blank isTail first
termination_by bs.length

/-- The pass over what follows a literal, from any position, always ends, and it accepts exactly if
the grammar derives a tail from the bytes there up to some point. -/
theorem closes_iff_tail (bytes : List UInt8) (stop : Nat) :
    closesCall (bytes.drop stop) = true ↔ ∃ tail, Tail tail ∧ tail <+: bytes.drop stop := by
  constructor
  · exact exists_tail
  · rintro ⟨tail, isTail, rest, split⟩
    rw [← split]
    exact closesCall_of_tail isTail rest

/-- Commas inside a bare argument, and one that separates it from a literal. -/
example : closesCall (Utf8.bytes ", [a, b] , 'x' )") = true ∧
    closesCall (Utf8.bytes ",, 'x')") = false := by
  decide +kernel

end MessageCatalog.Call
