import MessageCatalog.Proofs.Call.Selection

/-! # Blanks behind commas

Blanks belong to the argument that follows them. Before a literal they are passed over, and a bare
argument may begin with them, so that more or fewer of them decide nothing, with one exception:
blanks alone are an argument, while nothing between two commas, or between a comma and the
parenthesis, is none. What a text is judged to be depends on where it stands, so the proofs follow
all judgements at once: behind a literal, behind a comma, inside a bare argument, and inside a
literal.
-/

namespace MessageCatalog.Call

/-! ## Blanks behind one comma -/

theorem GoesOn.blanks {blanks rest : List UInt8} (blank : ∀ b ∈ blanks, Blank b)
    (goesOn : GoesOn rest) : GoesOn (blanks ++ rest) := by
  have bareBlanks : ∀ b ∈ blanks, Bare b := fun b member => (blank b member).bare
  rcases goesOn with read | ⟨more, read, closes⟩
  · cases reads_of_readArgument read (by simp) with
    | @closes run after nonempty bare =>
        rw [← List.append_assoc]
        exact .inl (readArgument_closes (List.append_ne_nil_of_right_ne_nil blanks nonempty)
          (List.forall_mem_append.mpr ⟨bareBlanks, bare⟩) after)
  · refine .inr ⟨more, ?_, closes⟩
    cases reads_of_readArgument read (by simp) with
    | @literal spaces literal _ blankInner isLiteral =>
        rw [← List.append_assoc, ← List.append_assoc]
        exact readArgument_literal (List.forall_mem_append.mpr ⟨blank, blankInner⟩) isLiteral more
    | @bare run spaces after quote nonempty bare blankInner isQuote =>
        rw [← List.append_assoc]
        exact readArgument_bare (List.append_ne_nil_of_right_ne_nil blanks nonempty)
          (List.forall_mem_append.mpr ⟨bareBlanks, bare⟩) blankInner isQuote after

theorem not_mem_blanks {blanks : List UInt8} (blank : ∀ b ∈ blanks, Blank b) {b : UInt8}
    (solid : ¬ Blank b) : b ∉ blanks := fun member => solid (blank b member)

/-- What is read behind blanks is read without them, too, unless they are the whole argument. -/
theorem GoesOn.of_blanks {blanks rest : List UInt8} (blank : ∀ b ∈ blanks, Blank b)
    (goesOn : GoesOn (blanks ++ rest)) : GoesOn rest ∨ closesCall rest = true := by
  rcases goesOn with read | ⟨more, read, closes⟩
  · generalize shape : blanks ++ rest = bs at read
    cases reads_of_readArgument read (by simp) with
    | @closes run after _ bare =>
        obtain ⟨inner, rfl, rfl⟩ :=
          Utf8.exists_of_not_mem (not_mem_blanks blank closing_not_blank) shape
        rcases List.eq_nil_or_concat' inner with rfl | ⟨_, _, rfl⟩
        · exact .inr (closesCall_parenthesis (List.forall_mem_nil Blank) after)
        · exact .inl (.inl (readArgument_closes (by simp)
            (List.forall_mem_append.mp bare).2 after))
  · generalize shape : blanks ++ rest = bs at read
    cases reads_of_readArgument read (by simp) with
    | @literal spaces literal _ blankInner isLiteral =>
        obtain ⟨quote, inside, rfl, isQuote⟩ := isLiteral.exists_cons
        rw [List.append_assoc, List.cons_append] at shape
        obtain ⟨inner, rfl, rfl⟩ :=
          Utf8.exists_of_not_mem (not_mem_blanks blank isQuote.not_blank) shape
        refine .inl (.inr ⟨more, ?_, closes⟩)
        simpa using readArgument_literal (List.forall_mem_append.mp blankInner).2 isLiteral more
    | @bare run spaces after quote nonempty bare blankInner isQuote =>
        obtain ⟨inner, rfl, rfl⟩ :=
          Utf8.exists_of_not_mem (not_mem_blanks blank comma_not_blank) shape
        rcases List.eq_nil_or_concat' inner with rfl | ⟨_, _, rfl⟩
        · exact .inr closes
        · exact .inl (.inr ⟨_, readArgument_bare (by simp) (List.forall_mem_append.mp bare).2
            blankInner isQuote after, closes⟩)

theorem goesOn_blanks_iff {blanks : List UInt8} (blank : ∀ b ∈ blanks, Blank b)
    (rest : List UInt8) :
    GoesOn (blanks ++ rest) ↔ GoesOn rest ∨ blanks ≠ [] ∧ closesCall rest = true := by
  constructor
  · intro goesOn
    by_cases empty : blanks = []
    · exact .inl (by simpa [empty] using goesOn)
    · exact (goesOn.of_blanks blank).imp_right fun closes => ⟨empty, closes⟩
  · rintro (goesOn | ⟨nonempty, closes⟩)
    · exact goesOn.blanks blank
    · exact goesOn_of_bare nonempty (fun b member => (blank b member).bare) closes

/-! ## One byte further -/

theorem closesCall_comma_iff {rest : List UInt8} :
    closesCall (byte ',' :: rest) = true ↔ GoesOn rest := by
  rw [closesCall_iff, skipBlanks_cons comma_not_blank]
  simp

theorem closesCall_blanks {blanks : List UInt8} (blank : ∀ b ∈ blanks, Blank b)
    (rest : List UInt8) : closesCall (blanks ++ rest) = closesCall rest := by
  rw [Bool.eq_iff_iff, closesCall_iff, closesCall_iff, skipBlanks_append blank]

theorem closesCall_blank {b : UInt8} (blank : Blank b) (rest : List UInt8) :
    closesCall (b :: rest) = closesCall rest :=
  closesCall_blanks (List.forall_mem_singleton.mpr blank) rest

theorem not_closesCall {b : UInt8} (solid : ¬ Blank b) (noComma : b ≠ byte ',')
    (noParenthesis : b ≠ byte ')') (rest : List UInt8) : closesCall (b :: rest) = false := by
  rw [Bool.eq_false_iff, Ne, closesCall_iff, skipBlanks_cons solid]
  simp only [List.cons.injEq, noComma, noParenthesis, false_and, exists_false, or_self,
    not_false_eq_true]

/-- Whether a bare argument that has begun can go on to the end of the call. -/
def InBare (rest : List UInt8) : Prop :=
  ∃ run more, rest = run ++ more ∧ (∀ b ∈ run, Bare b) ∧ closesCall more = true

theorem inBare_cons {b : UInt8} {rest : List UInt8} :
    InBare (b :: rest) ↔ closesCall (b :: rest) = true ∨ Bare b ∧ InBare rest := by
  constructor
  · rintro ⟨run, more, shape, bare, closes⟩
    cases run with
    | nil => exact .inl (shape ▸ closes)
    | cons c run =>
        obtain ⟨rfl, rfl⟩ := List.cons.inj shape
        obtain ⟨first, others⟩ := List.forall_mem_cons.mp bare
        exact .inr ⟨first, run, more, rfl, others, closes⟩
  · rintro (closes | ⟨first, run, more, rfl, others, closes⟩)
    · exact ⟨[], b :: rest, rfl, List.forall_mem_nil _, closes⟩
    · exact ⟨b :: run, more, rfl, List.forall_mem_cons.mpr ⟨first, others⟩, closes⟩

theorem inBare_blanks {blanks : List UInt8} (blank : ∀ b ∈ blanks, Blank b) (rest : List UInt8) :
    InBare (blanks ++ rest) ↔ InBare rest := by
  induction blanks with
  | nil => rfl
  | cons b blanks ih =>
      obtain ⟨first, others⟩ := List.forall_mem_cons.mp blank
      rw [List.cons_append, inBare_cons, closesCall_blank first, closesCall_blanks others, ih others]
      refine ⟨?_, fun inside => .inr ⟨first.bare, inside⟩⟩
      rintro (closes | ⟨_, inside⟩)
      · exact ⟨[], rest, rfl, List.forall_mem_nil _, closes⟩
      · exact inside

theorem goesOn_cons {b : UInt8} (solid : ¬ Blank b) (noQuote : ¬ Quote b) {rest : List UInt8} :
    GoesOn (b :: rest) ↔ Bare b ∧ InBare rest := by
  constructor
  · rintro (read | ⟨more, read, closes⟩)
    · generalize shape : b :: rest = bs at read
      cases reads_of_readArgument read (by simp) with
      | @closes run after nonempty bare =>
          obtain ⟨c, run, rfl⟩ := List.exists_cons_of_ne_nil nonempty
          obtain ⟨rfl, rfl⟩ := List.cons.inj shape
          obtain ⟨first, others⟩ := List.forall_mem_cons.mp bare
          exact ⟨first, run, _, rfl, others, closesCall_parenthesis (List.forall_mem_nil Blank) after⟩
    · generalize shape : b :: rest = bs at read
      cases reads_of_readArgument read (by simp) with
      | @literal spaces literal _ blank isLiteral =>
          obtain ⟨quote, inside, rfl, isQuote⟩ := isLiteral.exists_cons
          cases spaces with
          | nil => exact absurd ((List.cons.inj shape).1 ▸ isQuote) noQuote
          | cons c spaces =>
              exact absurd ((List.cons.inj shape).1 ▸ blank c List.mem_cons_self) solid
      | @bare run spaces after quote nonempty bare blank isQuote =>
          obtain ⟨c, run, rfl⟩ := List.exists_cons_of_ne_nil nonempty
          obtain ⟨rfl, rfl⟩ := List.cons.inj shape
          obtain ⟨first, others⟩ := List.forall_mem_cons.mp bare
          exact ⟨first, run, _, rfl, others, closes⟩
  · rintro ⟨first, run, more, rfl, others, closes⟩
    exact goesOn_of_bare (List.cons_ne_nil b run) (List.forall_mem_cons.mpr ⟨first, others⟩) closes

theorem goesOn_blank {b : UInt8} (blank : Blank b) {rest : List UInt8} :
    GoesOn (b :: rest) ↔ GoesOn rest ∨ closesCall rest = true := by
  have decided := goesOn_blanks_iff (List.forall_mem_singleton.mpr blank) rest
  simpa using decided

/-- Whether a literal that `quote` has begun can go on to the end of the call. -/
def InLiteral (quote : UInt8) (rest : List UInt8) : Prop :=
  ∃ units more, rest = units ++ quote :: more ∧ Units quote units ∧ closesCall more = true

/-- Whether a literal can go on behind a backslash. -/
def Escaped (quote : UInt8) (rest : List UInt8) : Prop :=
  ∃ b more, rest = b :: more ∧ InLiteral quote more

section Literal

variable {quote : UInt8} {rest : List UInt8}

theorem inLiteral_quote (isQuote : Quote quote) :
    InLiteral quote (quote :: rest) ↔ closesCall rest = true := by
  constructor
  · rintro ⟨units, more, shape, body, closes⟩
    cases body with
    | nil => exact (List.cons.inj shape).2 ▸ closes
    | escaped => exact absurd (List.cons.inj shape).1 isQuote.ne_backslash
    | plain other => exact absurd (List.cons.inj shape).1.symm other
  · exact fun closes => ⟨[], rest, rfl, .nil, closes⟩

theorem inLiteral_backslash (isQuote : Quote quote) :
    InLiteral quote (byte '\\' :: rest) ↔ Escaped quote rest := by
  constructor
  · rintro ⟨units, more, shape, body, closes⟩
    cases body with
    | nil => exact absurd (List.cons.inj shape).1.symm isQuote.ne_backslash
    | @escaped b units body =>
        exact ⟨b, _, (List.cons.inj shape).2, units, more, rfl, body, closes⟩
    | plain _ noEscape => exact absurd (List.cons.inj shape).1.symm noEscape
  · rintro ⟨b, _, rfl, units, more, rfl, body, closes⟩
    exact ⟨byte '\\' :: b :: units, more, rfl, .escaped body, closes⟩

theorem inLiteral_plain {b : UInt8} (other : b ≠ quote) (noEscape : b ≠ byte '\\') :
    InLiteral quote (b :: rest) ↔ InLiteral quote rest := by
  constructor
  · rintro ⟨units, more, shape, body, closes⟩
    cases body with
    | nil => exact absurd (List.cons.inj shape).1 other
    | escaped => exact absurd (List.cons.inj shape).1 noEscape
    | @plain _ units _ _ body => exact ⟨units, more, (List.cons.inj shape).2, body, closes⟩
  · rintro ⟨units, more, rfl, body, closes⟩
    exact ⟨b :: units, more, rfl, .plain other noEscape body, closes⟩

theorem inLiteral_blanks (isQuote : Quote quote) {blanks : List UInt8}
    (blank : ∀ b ∈ blanks, Blank b) : InLiteral quote (blanks ++ rest) ↔ InLiteral quote rest := by
  induction blanks with
  | nil => rfl
  | cons b blanks ih =>
      obtain ⟨first, others⟩ := List.forall_mem_cons.mp blank
      have other : b ≠ quote := fun same => isQuote.not_blank (same ▸ first)
      have noEscape : b ≠ byte '\\' := fun same => backslash_not_blank (same ▸ first)
      rw [List.cons_append, inLiteral_plain other noEscape, ih others]

theorem escaped_cons {b : UInt8} : Escaped quote (b :: rest) ↔ InLiteral quote rest := by
  constructor
  · rintro ⟨_, _, shape, inside⟩
    exact (List.cons.inj shape).2 ▸ inside
  · exact fun inside => ⟨b, rest, rfl, inside⟩

theorem goesOn_quote (isQuote : Quote quote) :
    GoesOn (quote :: rest) ↔ InLiteral quote rest := by
  constructor
  · rintro (read | ⟨more, read, closes⟩)
    · generalize shape : quote :: rest = bs at read
      cases reads_of_readArgument read (by simp) with
      | @closes run after nonempty bare =>
          obtain ⟨c, run, rfl⟩ := List.exists_cons_of_ne_nil nonempty
          obtain rfl := (List.cons.inj shape).1
          exact absurd isQuote (bare _ List.mem_cons_self).1
    · generalize shape : quote :: rest = bs at read
      cases reads_of_readArgument read (by simp) with
      | @literal spaces literal _ blank isLiteral =>
          cases spaces with
          | nil =>
              cases isLiteral with
              | @quoted quote' units _ body =>
                  obtain ⟨rfl, rfl⟩ := List.cons.inj shape
                  exact ⟨units, more, by simp, body, closes⟩
          | cons c spaces =>
              obtain rfl := (List.cons.inj shape).1
              exact absurd (blank _ List.mem_cons_self) isQuote.not_blank
      | @bare run spaces after quote' nonempty bare =>
          obtain ⟨c, run, rfl⟩ := List.exists_cons_of_ne_nil nonempty
          obtain rfl := (List.cons.inj shape).1
          exact absurd isQuote (bare _ List.mem_cons_self).1
  · rintro ⟨units, more, rfl, body, closes⟩
    have read := readArgument_literal (List.forall_mem_nil Blank) (.quoted isQuote body) more
    simp only [List.nil_append, List.cons_append, List.append_assoc] at read
    exact .inr ⟨more, read, closes⟩

end Literal

/-! ## Blanks behind all commas -/

/-- Whether blanks between a comma and the text decide nothing: what closes a call has to close it
right behind the comma, too. -/
def NeedsNoBlanks (rest : List UInt8) : Prop :=
  closesCall rest = true → closesCall (byte ',' :: rest) = true

theorem needsNoBlanks_argument {b : UInt8} (solid : ¬ Blank b) (noComma : b ≠ byte ',')
    (noParenthesis : b ≠ byte ')') (more : List UInt8) : NeedsNoBlanks (b :: more) := by
  intro closes
  rw [not_closesCall solid noComma noParenthesis] at closes
  exact absurd closes Bool.false_ne_true

/-- Whether two texts differ in nothing but the blanks behind commas. Where there are blanks in one
text only, they have to be such that they decide nothing. -/
inductive Respaced : List UInt8 → List UInt8 → Prop where
  | same (rest : List UInt8) : Respaced rest rest
  | byte (b : UInt8) {rest rest' : List UInt8} : Respaced rest rest' →
    Respaced (b :: rest) (b :: rest')
  | comma {blanks blanks' rest rest' : List UInt8} : (∀ b ∈ blanks, Blank b) →
    (∀ b ∈ blanks', Blank b) → NeedsNoBlanks rest ∨ (blanks = [] ↔ blanks' = []) →
    Respaced rest rest' →
    Respaced (Call.byte ',' :: (blanks ++ rest)) (Call.byte ',' :: (blanks' ++ rest'))

/-- Whether two texts are judged alike wherever they may stand. -/
structure SameVerdict (rest rest' : List UInt8) : Prop where
  closes : closesCall rest = true ↔ closesCall rest' = true
  goesOn : GoesOn rest ↔ GoesOn rest'
  inBare : InBare rest ↔ InBare rest'
  inLiteral : ∀ quote, Quote quote → (InLiteral quote rest ↔ InLiteral quote rest')
  escaped : ∀ quote, Quote quote → (Escaped quote rest ↔ Escaped quote rest')

namespace SameVerdict

variable {rest rest' : List UInt8}

theorem byte (b : UInt8) (same : SameVerdict rest rest') : SameVerdict (b :: rest) (b :: rest') := by
  have closes : closesCall (b :: rest) = true ↔ closesCall (b :: rest') = true := by
    by_cases blank : Blank b
    · rw [closesCall_blank blank, closesCall_blank blank, same.closes]
    by_cases comma : b = Call.byte ','
    · rw [comma, closesCall_comma_iff, closesCall_comma_iff, same.goesOn]
    by_cases parenthesis : b = Call.byte ')'
    · rw [parenthesis]
      have closed := closesCall_parenthesis (List.forall_mem_nil Blank)
      simp only [List.nil_append] at closed
      simp only [closed]
    · rw [not_closesCall blank comma parenthesis, not_closesCall blank comma parenthesis]
  refine ⟨closes, ?_, ?_, fun quote isQuote => ?_, fun quote isQuote => ?_⟩
  · by_cases blank : Blank b
    · rw [goesOn_blank blank, goesOn_blank blank, same.goesOn, same.closes]
    by_cases isQuote : Quote b
    · rw [goesOn_quote isQuote, goesOn_quote isQuote, same.inLiteral b isQuote]
    · rw [goesOn_cons blank isQuote, goesOn_cons blank isQuote, same.inBare]
  · rw [inBare_cons, inBare_cons, closes, same.inBare]
  · by_cases ends : b = quote
    · rw [ends, inLiteral_quote isQuote, inLiteral_quote isQuote, same.closes]
    by_cases escape : b = Call.byte '\\'
    · rw [escape, inLiteral_backslash isQuote, inLiteral_backslash isQuote,
        same.escaped quote isQuote]
    · rw [inLiteral_plain ends escape, inLiteral_plain ends escape, same.inLiteral quote isQuote]
  · rw [escaped_cons, escaped_cons, same.inLiteral quote isQuote]

theorem comma {blanks blanks' : List UInt8} (blank : ∀ b ∈ blanks, Blank b)
    (blank' : ∀ b ∈ blanks', Blank b)
    (decided : NeedsNoBlanks rest ∨ (blanks = [] ↔ blanks' = []))
    (same : SameVerdict rest rest') :
    SameVerdict (Call.byte ',' :: (blanks ++ rest)) (Call.byte ',' :: (blanks' ++ rest')) := by
  have closes : closesCall (Call.byte ',' :: (blanks ++ rest)) = true ↔
      closesCall (Call.byte ',' :: (blanks' ++ rest')) = true := by
    rw [closesCall_comma_iff, closesCall_comma_iff, goesOn_blanks_iff blank,
      goesOn_blanks_iff blank', ← same.goesOn, ← same.closes]
    rcases decided with needless | alike
    · have goesOn : closesCall rest = true → GoesOn rest := fun closed =>
        closesCall_comma_iff.mp (needless closed)
      have absorbed (given : Prop) : GoesOn rest ∨ given ∧ closesCall rest = true ↔ GoesOn rest :=
        or_iff_left_of_imp fun blanksOnly => goesOn blanksOnly.2
      rw [absorbed, absorbed]
    · rw [Ne, alike]
  have inBare : InBare (blanks ++ rest) ↔ InBare (blanks' ++ rest') := by
    rw [inBare_blanks blank, inBare_blanks blank', same.inBare]
  have inLiteral {quote : UInt8} (isQuote : Quote quote) :
      InLiteral quote (blanks ++ rest) ↔ InLiteral quote (blanks' ++ rest') := by
    rw [inLiteral_blanks isQuote blank, inLiteral_blanks isQuote blank',
      same.inLiteral quote isQuote]
  refine ⟨closes, ?_, ?_, fun quote isQuote => ?_, fun quote isQuote => ?_⟩
  · rw [goesOn_cons comma_not_blank bare_comma.1, goesOn_cons comma_not_blank bare_comma.1, inBare]
  · rw [inBare_cons, inBare_cons, closes, inBare]
  · have other : Call.byte ',' ≠ quote := fun same => bare_comma.1 (same ▸ isQuote)
    rw [inLiteral_plain other (by decide), inLiteral_plain other (by decide), inLiteral isQuote]
  · rw [escaped_cons, escaped_cons, inLiteral isQuote]

end SameVerdict

/-- Texts that differ in blanks behind commas are judged alike. -/
theorem Respaced.sameVerdict {rest rest' : List UInt8} (respaced : Respaced rest rest') :
    SameVerdict rest rest' := by
  induction respaced with
  | same => exact ⟨Iff.rfl, Iff.rfl, Iff.rfl, fun _ _ => Iff.rfl, fun _ _ => Iff.rfl⟩
  | byte b _ ih => exact ih.byte b
  | comma blank blank' decided _ ih => exact ih.comma blank blank' decided

theorem Respaced.prepend {rest rest' : List UInt8} (front : List UInt8)
    (respaced : Respaced rest rest') : Respaced (front ++ rest) (front ++ rest') := by
  induction front with
  | nil => exact respaced
  | cons b front ih => exact .byte b ih

theorem Respaced.closesCall_eq {rest rest' : List UInt8} (respaced : Respaced rest rest') :
    closesCall rest = closesCall rest' :=
  Bool.eq_iff_iff.mpr respaced.sameVerdict.closes

end MessageCatalog.Call
