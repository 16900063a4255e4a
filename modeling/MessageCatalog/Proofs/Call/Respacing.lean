import MessageCatalog.Proofs.Call.Spacing

/-! # Calls with other blanks in their argument lists

A scan comes to a call with one spelling of its further arguments as it does with another one that
differs in the blanks behind commas. Calls to its left are found in both lines or in none, even if
the text that closes them holds the blanks; and where a literal goes on beyond the literal of the
call, the scan passes over the call in both lines.
-/

namespace MessageCatalog.Call

/-! ## Literals within the part of a line that stays -/

theorem firstLiteral?_cons {b : UInt8} {rest : List UInt8} :
    (firstLiteral? (b :: rest)).isSome = true ↔ Quote b ∧ InLiteral b rest := by
  rw [Option.isSome_iff_exists]
  constructor
  · rintro ⟨n, found⟩
    obtain ⟨literal, tail, shape, isLiteral, closes, _⟩ := firstLiteral?_iff.mp found
    cases isLiteral with
    | @quoted quote units isQuote body =>
        obtain ⟨rfl, rfl⟩ := List.cons.inj shape
        exact ⟨isQuote, units, tail, by simp, body, closes⟩
  · rintro ⟨isQuote, units, more, rfl, body, closes⟩
    exact ⟨_, firstLiteral?_iff.mpr ⟨_, more, by simp, .quoted isQuote body, closes, rfl⟩⟩

/-- A literal that ends in the first part of a text is a literal of that part. -/
theorem firstLiteral?_within {part tail : List UInt8} {n : Nat} (within : n ≤ part.length) :
    firstLiteral? (part ++ tail) = some n ↔ ∃ literal more, part = literal ++ more ∧
      IsLiteral literal ∧ closesCall (more ++ tail) = true ∧ n = literal.length := by
  rw [firstLiteral?_iff]
  constructor
  · rintro ⟨literal, rest, shape, isLiteral, closes, rfl⟩
    obtain ⟨more, rfl⟩ : literal <+: part :=
      List.prefix_of_prefix_length_le ⟨rest, shape.symm⟩ (List.prefix_append part tail) within
    rw [List.append_assoc] at shape
    exact ⟨literal, more, rfl, isLiteral, List.append_cancel_left shape ▸ closes, rfl⟩
  · rintro ⟨literal, more, rfl, isLiteral, closes, rfl⟩
    exact ⟨literal, more ++ tail, List.append_assoc .., isLiteral, closes, rfl⟩

section Respaced

variable {name front tail tail' : List UInt8}

theorem Respaced.firstLiteral?_isSome (respaced : Respaced tail tail') {part : List UInt8}
    (nonempty : part ≠ []) :
    (firstLiteral? (part ++ tail)).isSome = (firstLiteral? (part ++ tail')).isSome := by
  obtain ⟨b, part, rfl⟩ := List.exists_cons_of_ne_nil nonempty
  rw [Bool.eq_iff_iff, List.cons_append, List.cons_append, firstLiteral?_cons, firstLiteral?_cons]
  exact and_congr_right fun isQuote => (respaced.prepend part).sameVerdict.inLiteral b isQuote

theorem Respaced.firstLiteral?_iff (respaced : Respaced tail tail') {part : List UInt8} {n : Nat}
    (within : n ≤ part.length) :
    firstLiteral? (part ++ tail) = some n ↔ firstLiteral? (part ++ tail') = some n := by
  rw [firstLiteral?_within within, firstLiteral?_within within]
  simp only [fun more => (respaced.prepend more).closesCall_eq]

/-! ## Positions whose arguments begin in the part of a line that stays -/

theorem skipBlanks_front {bs : List UInt8} (solid : skipBlanks bs ≠ []) (more : List UInt8) :
    skipBlanks (bs ++ more) = skipBlanks bs ++ more := by
  rw [skipBlanks, List.dropWhile_append, if_neg (by simpa [skipBlanks] using solid), skipBlanks]

theorem lt_length_of_argumentsAt {position : Nat} (begun : argumentsAt name front position ≠ []) :
    position + name.length + 1 < front.length := by
  refine Nat.lt_of_not_le fun behind => begun ?_
  rw [argumentsAt, List.drop_eq_nil_of_le behind]
  rfl

theorem named_front {position : Nat} (inside : position + name.length + 1 ≤ front.length)
    (tail : List UInt8) :
    (name ++ [byte '(']).isPrefixOf ((front ++ tail).drop position) =
      (name ++ [byte '(']).isPrefixOf (front.drop position) := by
  rw [List.drop_append_of_le_length (by omega), Bool.eq_iff_iff, List.isPrefixOf_iff_prefix,
    List.isPrefixOf_iff_prefix]
  refine ⟨fun first => ?_, fun first => first.trans (List.prefix_append _ _)⟩
  refine List.prefix_of_prefix_length_le first (List.prefix_append _ _) ?_
  simp only [List.length_append, List.length_singleton, List.length_drop]
  omega

theorem callAt?_front {position : Nat} (begun : argumentsAt name front position ≠ [])
    (tail : List UInt8) :
    callAt? name (front ++ tail) position =
      if (name ++ [byte '(']).isPrefixOf (front.drop position) then
        let arguments := argumentsAt name front position
        let start := front.length - arguments.length
        (firstLiteral? (arguments ++ tail)).map fun n => ⟨position, start, start + n⟩
      else none := by
  have inside := lt_length_of_argumentsAt begun
  have arguments : argumentsAt name (front ++ tail) position =
      argumentsAt name front position ++ tail := by
    rw [argumentsAt, List.drop_append_of_le_length (Nat.le_of_lt inside), skipBlanks_front begun,
      argumentsAt]
  have start : (front ++ tail).length - (argumentsAt name front position ++ tail).length =
      front.length - (argumentsAt name front position).length := by
    rw [List.length_append, List.length_append]
    omega
  rw [callAt?, named_front (Nat.le_of_lt inside), arguments, start]

theorem resumeAt_front {position : Nat} (begun : argumentsAt name front position ≠ [])
    (tail : List UInt8) :
    resumeAt name (front ++ tail) position = resumeAt name front position := by
  rw [resumeAt, named_front (Nat.le_of_lt (lt_length_of_argumentsAt begun)), resumeAt]

theorem Respaced.callAt?_isSome (respaced : Respaced tail tail') {position : Nat}
    (begun : argumentsAt name front position ≠ []) :
    (callAt? name (front ++ tail) position).isSome =
      (callAt? name (front ++ tail') position).isSome := by
  rw [callAt?_front begun, callAt?_front begun]
  split
  · simp only [Option.isSome_map, respaced.firstLiteral?_isSome begun]
  · rfl

/-- A call whose literal ends in the first part of a line is the same in the other line. -/
theorem Respaced.callAt?_iff (respaced : Respaced tail tail') {position : Nat}
    (begun : argumentsAt name front position ≠ []) {site : Site}
    (within : site.stop ≤ front.length) :
    callAt? name (front ++ tail) position = some site ↔
      callAt? name (front ++ tail') position = some site := by
  rw [callAt?_front begun, callAt?_front begun]
  split
  · simp only [Option.map_eq_some_iff]
    refine exists_congr fun n => and_congr_left fun same => respaced.firstLiteral?_iff ?_
    have shorter := (argumentsAt_suffix name front position).length_le
    rw [List.length_drop] at shorter
    rw [← same] at within
    simp only at within
    omega
  · rfl

/-! ## The scan -/

theorem not_mem_sitesFrom {site : Site} {first : Nat} (passed : site.position < first)
    (name line : List UInt8) : site ∉ sitesFrom name first (line.drop first) := fun member =>
  absurd (isCall_of_mem_sitesFrom name line first site member).2 (Nat.not_le.mpr passed)

theorem Respaced.mem_sitesFrom_iff (respaced : Respaced tail tail') {site : Site}
    (begun : ∀ position ≤ site.position, argumentsAt name front position ≠ [])
    (within : site.stop ≤ front.length) {first : Nat} (reached : first ≤ site.position) :
    site ∈ sitesFrom name first ((front ++ tail).drop first) ↔
      site ∈ sitesFrom name first ((front ++ tail').drop first) := by
  induction left : site.position - first using Nat.strongRecOn generalizing first with
  | ind left ih =>
      have begun' := begun first reached
      have inside (rest : List UInt8) : first < (front ++ rest).length := by
        have shorter := lt_length_of_argumentsAt begun'
        rw [List.length_append]
        omega
      have alike := respaced.callAt?_isSome begun'
      cases found : callAt? name (front ++ tail) first with
      | none =>
          rw [found] at alike
          have found' := Option.isSome_eq_false_iff.mp alike.symm
          rw [Option.isNone_iff_eq_none] at found'
          have further := lt_resumeAt name front first
          rw [sitesFrom_resume (inside tail) found, sitesFrom_resume (inside tail') found',
            resumeAt_front begun', resumeAt_front begun']
          rcases Nat.lt_or_ge site.position (resumeAt name front first) with passed | later
          · exact iff_of_false (not_mem_sitesFrom passed _ _) (not_mem_sitesFrom passed _ _)
          · exact ih _ (by omega) later rfl
      | some other =>
          rw [found] at alike
          obtain ⟨other', found'⟩ := Option.isSome_iff_exists.mp alike.symm
          have further := (isCall_iff.mpr (callAt?_position found ▸ found)).position_lt_stop
          have start := callAt?_position found
          rcases Nat.lt_or_ge front.length other.stop with beyond | ends
          · -- A literal that goes on beyond the first part does so in the other line, too.
            have beyond' : front.length < other'.stop := Nat.lt_of_not_le fun ends => by
              have same := (respaced.callAt?_iff begun' ends).mpr found'
              cases found.symm.trans same
              omega
            have last := lt_length_of_argumentsAt (begun _ (Nat.le_refl _))
            have absent {taken : Site} (beyond : front.length < taken.stop) (line : List UInt8) :
                site ∉ taken :: sitesFrom name taken.stop (line.drop taken.stop) := by
              rw [List.mem_cons, not_or]
              refine ⟨?_, not_mem_sitesFrom (by omega) name line⟩
              rintro rfl
              omega
            rw [sitesFrom_call found, sitesFrom_call found']
            exact iff_of_false (absent beyond _) (absent beyond' _)
          · rw [sitesFrom_call found,
              sitesFrom_call ((respaced.callAt?_iff begun' ends).mp found), List.mem_cons,
              List.mem_cons]
            refine or_congr_right ?_
            rcases Nat.lt_or_ge site.position other.stop with passed | later
            · exact iff_of_false (not_mem_sitesFrom passed _ _) (not_mem_sitesFrom passed _ _)
            · exact ih _ (by omega) later rfl

end Respaced

/-! ## Calls -/

section Call

variable {name before blanks literal : List UInt8}

theorem argumentsAt_ne_nil (isLiteral : IsLiteral literal) {position : Nat}
    (upTo : position ≤ before.length) :
    argumentsAt name (before ++ (name ++ byte '(' :: (blanks ++ literal))) position ≠ [] := by
  obtain ⟨quote, more, rfl, isQuote⟩ := isLiteral.exists_cons
  have split : before ++ (name ++ byte '(' :: (blanks ++ quote :: more)) =
      (before ++ name ++ byte '(' :: blanks) ++ quote :: more := by simp
  intro empty
  rw [argumentsAt, split, List.drop_append_of_le_length (by simp; omega), skipBlanks,
    List.dropWhile_eq_nil_iff] at empty
  exact isQuote.not_blank (isBlank_iff.mp (empty quote (by simp)))

theorem sites_respaced (blank : ∀ b ∈ blanks, Blank b) (isLiteral : IsLiteral literal)
    {tail tail' : List UInt8} (respaced : Respaced tail tail') {site : Site}
    (position : site.position = before.length) :
    site ∈ sites name (before ++ (name ++ byte '(' :: (blanks ++ (literal ++ tail)))) ↔
      site ∈ sites name (before ++ (name ++ byte '(' :: (blanks ++ (literal ++ tail')))) := by
  have split (rest : List UInt8) : before ++ (name ++ byte '(' :: (blanks ++ (literal ++ rest))) =
      (before ++ (name ++ byte '(' :: (blanks ++ literal))) ++ rest := by simp
  -- The literal of the call ends where the lines begin to differ.
  have within (rest : List UInt8)
      (member : site ∈ sites name (before ++ (name ++ byte '(' :: (blanks ++ (literal ++ rest))))) :
      site.stop ≤ (before ++ (name ++ byte '(' :: (blanks ++ literal))).length := by
    have call := (isCall_of_mem_sitesFrom name _ 0 site member).1
    rw [isCall_iff, position, callAt?_append blank isLiteral] at call
    split at call
    · cases call
      simp
      omega
    · cases call
  have begun : ∀ passed ≤ site.position,
      argumentsAt name (before ++ (name ++ byte '(' :: (blanks ++ literal))) passed ≠ [] :=
    fun passed upTo => argumentsAt_ne_nil isLiteral (position ▸ upTo)
  have scans (ends : site.stop ≤ (before ++ (name ++ byte '(' :: (blanks ++ literal))).length) :=
    respaced.mem_sitesFrom_iff begun ends (Nat.zero_le _)
  simp only [List.drop_zero, ← split] at scans
  exact ⟨fun member => (scans (within tail member)).mp member,
    fun member => (scans (within tail' member)).mpr member⟩

end Call

/-- Blanks behind a comma count for nothing, unless they are a whole argument: a text that closes a
call closes it behind a comma and blanks, too, while a comma alone needs an argument. So calls whose
texts differ in the blanks behind their commas are both found or neither, as long as no blanks are put
where they alone would be the argument the text still needs, or taken away from there. -/
theorem verdict_respaced :
    (∀ blanks rest : List UInt8, (∀ b ∈ blanks, Blank b) →
      (closesCall (byte ',' :: (blanks ++ rest)) = true ↔
        closesCall (byte ',' :: rest) = true ∨ blanks ≠ [] ∧ closesCall rest = true)) ∧
    ∀ tail tail' : List UInt8, Respaced tail tail' →
      closesCall tail = closesCall tail' ∧
        ∀ name before blanks literal : List UInt8, (∀ b ∈ blanks, Blank b) → IsLiteral literal →
          ∀ site : Site, site.position = before.length →
            (site ∈ sites name (before ++ (name ++ byte '(' :: (blanks ++ (literal ++ tail)))) ↔
              site ∈ sites name
                (before ++ (name ++ byte '(' :: (blanks ++ (literal ++ tail'))))) := by
  constructor
  · intro blanks rest blank
    rw [closesCall_comma_iff, closesCall_comma_iff, goesOn_blanks_iff blank]
  · intro tail tail' respaced
    exact ⟨respaced.closesCall_eq, fun name before blanks literal blank isLiteral site position =>
      sites_respaced blank isLiteral respaced position⟩

/-- A bare argument and a literal, with and without blanks behind their commas. -/
theorem verdict_respaced_two_commas :
    let literal := Utf8.bytes "'a'"
    let tail := Utf8.bytes ",n,'x')"
    let tail' := Utf8.bytes ", n,\t'x')"
    (∀ b ∈ [byte ' '], Blank b) ∧ IsLiteral literal ∧ Respaced tail tail' ∧
      closesCall tail = closesCall tail' ∧
      (⟨0, 3, 6⟩ ∈ sites [byte 't']
          ([] ++ ([byte 't'] ++ byte '(' :: ([byte ' '] ++ (literal ++ tail)))) ↔
        ⟨0, 3, 6⟩ ∈ sites [byte 't']
          ([] ++ ([byte 't'] ++ byte '(' :: ([byte ' '] ++ (literal ++ tail'))))) ∧
      (closesCall (byte ',' :: ([byte ' '] ++ tail)) = true ↔
        closesCall (byte ',' :: tail) = true ∨ [byte ' '] ≠ [] ∧ closesCall tail = true) := by
  intro literal tail tail'
  have blank : ∀ b ∈ [byte ' '], Blank b := by simp [Blank]
  have tab : ∀ b ∈ [byte '\t'], Blank b := by simp [Blank]
  have isLiteral : IsLiteral literal := by
    rw [show literal = byte '\'' :: ([byte 'a'] ++ [byte '\'']) by decide]
    exact .quoted (.inr rfl) (.plain (by decide) (by decide) .nil)
  have respaced : Respaced tail tail' := by
    have letter : NeedsNoBlanks (Utf8.bytes "n,'x')") :=
      needsNoBlanks_argument (mt isBlank_iff.mpr (by decide)) (by decide) (by decide)
        (Utf8.bytes ",'x')")
    have quote : NeedsNoBlanks (Utf8.bytes "'x')") :=
      needsNoBlanks_argument (mt isBlank_iff.mpr (by decide)) (by decide) (by decide)
        (Utf8.bytes "x')")
    have second : Respaced (Utf8.bytes ",'x')") (Utf8.bytes ",\t'x')") :=
      @Respaced.comma [] [byte '\t'] _ _ (List.forall_mem_nil Blank) tab (.inl quote)
        (.same (Utf8.bytes "'x')"))
    exact @Respaced.comma [] [byte ' '] _ _ (List.forall_mem_nil Blank) blank (.inl letter)
      (.byte (byte 'n') second)
  obtain ⟨comma, texts⟩ := verdict_respaced
  obtain ⟨same, calls⟩ := texts tail tail' respaced
  exact ⟨blank, isLiteral, respaced, same, calls _ _ _ _ blank isLiteral _ rfl,
    comma _ tail blank⟩

/-- A blank argument before the closing parenthesis is one, and nothing at all is none. -/
theorem verdict_blank_argument :
    let blanks := [byte ' ']
    let rest := [byte ')']
    (∀ b ∈ blanks, Blank b) ∧ closesCall (byte ',' :: (blanks ++ rest)) = true ∧
      closesCall (byte ',' :: rest) = false ∧
      literals "t" "t('a', )" = [⟨"'a'"⟩] ∧ literals "t" "t('a',)" = [] := by
  refine ⟨?_, ?_, ?_, ?_, ?_⟩
  · simp [Blank]
  all_goals decide +kernel

end MessageCatalog.Call
