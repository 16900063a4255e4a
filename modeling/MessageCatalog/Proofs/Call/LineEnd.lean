import MessageCatalog.Proofs.Call.RoundTrip

/-! # Blanks behind a line

Calls, literals and tails end with a parenthesis or a quote, so that all of them end before the blanks
behind a line. Blanks neither complete a call there nor break one.
-/

namespace MessageCatalog.Call

theorem Tail.exists_concat {tail : List UInt8} (isTail : Tail tail) :
    ∃ front, tail = front ++ [byte ')'] := by
  have ending : [byte ')'] <:+ tail := by
    induction isTail with
    | close => exact List.suffix_append _ _
    | @literal blanks spaces literal more _ _ _ _ ih =>
        exact ih.trans ⟨blanks ++ byte ',' :: (spaces ++ literal), by simp⟩
    | @bare blanks run more _ _ _ _ ih => exact ih.trans ⟨blanks ++ byte ',' :: run, by simp⟩
  obtain ⟨front, rfl⟩ := ending
  exact ⟨front, rfl⟩

section Blanks

variable {blanks : List UInt8}

theorem prefix_of_append_blanks (blank : ∀ b ∈ blanks, Blank b) {front bs : List UInt8} {b : UInt8}
    (solid : ¬ Blank b) (first : front ++ [b] <+: bs ++ blanks) : front ++ [b] <+: bs := by
  rcases List.prefix_or_prefix_of_prefix first (List.prefix_append bs blanks) with
    inside | ⟨more, longer⟩
  · exact inside
  rcases List.eq_nil_or_concat' more with rfl | ⟨more, last, rfl⟩
  · exact ⟨[], by simpa using longer.symm⟩
  · rw [← longer, List.prefix_append_right_inj] at first
    rw [← List.append_assoc] at longer
    obtain ⟨_, same⟩ := List.append_inj' longer rfl
    obtain rfl := (List.cons.inj same).1
    exact absurd (blank last (first.subset (by simp))) solid

theorem isCall_append_blanks (blank : ∀ b ∈ blanks, Blank b) {name line : List UInt8} {site : Site} :
    IsCall name (line ++ blanks) site ↔ IsCall name line site := by
  constructor
  · rintro ⟨before, spaces, literal, tail, shape, blankInner, isLiteral, closes, position, start, stop⟩
    obtain ⟨_, isTail, rest, rfl⟩ := exists_tail closes
    obtain ⟨front, rfl⟩ := isTail.exists_concat
    -- The call ends with a parenthesis, which is not among the blanks.
    have whole : (before ++ (name ++ byte '(' :: (spaces ++ (literal ++ front)))) ++ [byte ')'] <+:
        line ++ blanks := ⟨rest, by rw [shape]; simp⟩
    obtain ⟨behind, shorter⟩ := prefix_of_append_blanks blank closing_not_blank whole
    refine ⟨before, spaces, literal, front ++ [byte ')'] ++ behind, ?_, blankInner, isLiteral,
      closesCall_of_tail isTail behind, position, start, stop⟩
    rw [← shorter]
    simp
  · rintro ⟨before, spaces, literal, tail, rfl, blankInner, isLiteral, closes, position, start, stop⟩
    obtain ⟨_, isTail, rest, rfl⟩ := exists_tail closes
    refine ⟨before, spaces, literal, _, ?_, blankInner, isLiteral,
      closesCall_of_tail isTail (rest ++ blanks), position, start, stop⟩
    simp

theorem callAt?_append_blanks (blank : ∀ b ∈ blanks, Blank b) (name line : List UInt8)
    (position : Nat) : callAt? name (line ++ blanks) position = callAt? name line position :=
  Option.ext fun site => by
    rw [callAt?_eq_some_iff, callAt?_eq_some_iff, isCall_append_blanks blank]

theorem resumeAt_append_blanks (blank : ∀ b ∈ blanks, Blank b) (name : List UInt8)
    {line : List UInt8} {position : Nat} (inside : position ≤ line.length) :
    resumeAt name (line ++ blanks) position = resumeAt name line position := by
  have named : (name ++ [byte '(']).isPrefixOf ((line ++ blanks).drop position) =
      (name ++ [byte '(']).isPrefixOf (line.drop position) := by
    rw [List.drop_append_of_le_length inside, Bool.eq_iff_iff, List.isPrefixOf_iff_prefix,
      List.isPrefixOf_iff_prefix]
    exact ⟨prefix_of_append_blanks blank opening_not_blank,
      fun first => first.trans (List.prefix_append _ _)⟩
  rw [resumeAt, resumeAt, named]

theorem sitesFrom_blanks (blank : ∀ b ∈ blanks, Blank b) (name : List UInt8) (offset : Nat) :
    sitesFrom name offset blanks = [] := by
  induction blanks generalizing offset with
  | nil => rw [sitesFrom]
  | cons b blanks ih =>
      have unnamed : ¬ (name ++ [byte '(']).isPrefixOf (b :: blanks) = true := by
        rw [List.isPrefixOf_iff_prefix]
        exact fun first => opening_not_blank (blank _ (first.subset (by simp)))
      rw [sitesFrom, if_neg unnamed]
      exact ih (List.forall_mem_cons.mp blank).2 (offset + 1)

theorem sitesFrom_append_blanks (blank : ∀ b ∈ blanks, Blank b) (name line : List UInt8)
    (first : Nat) :
    sitesFrom name first ((line ++ blanks).drop first) = sitesFrom name first (line.drop first) := by
  induction left : line.length - first using Nat.strongRecOn generalizing first with
  | ind left ih =>
      rcases Nat.lt_or_ge first line.length with inside | behind
      · have inside' : first < (line ++ blanks).length := by
          rw [List.length_append]
          omega
        have found' := callAt?_append_blanks blank name line first
        cases found : callAt? name line first with
        | some site =>
            rw [found] at found'
            obtain rfl := callAt?_position found
            have further := (isCall_iff.mpr found).position_lt_stop
            rw [sitesFrom_call found, sitesFrom_call found', ih _ (by omega) _ rfl]
        | none =>
            rw [found] at found'
            have further := lt_resumeAt name line first
            rw [sitesFrom_resume inside found, sitesFrom_resume inside' found',
              resumeAt_append_blanks blank name (Nat.le_of_lt inside), ih _ (by omega) _ rfl]
      · rw [List.drop_append, List.drop_eq_nil_of_le behind, List.nil_append,
          sitesFrom_blanks (List.forall_mem_nil Blank)]
        exact sitesFrom_blanks (fun b member => blank b (List.mem_of_mem_drop member)) name first

theorem sites_append_blanks (blank : ∀ b ∈ blanks, Blank b) (name line : List UInt8) :
    sites name (line ++ blanks) = sites name line := by
  have same := sitesFrom_append_blanks blank name line 0
  rwa [List.drop_zero, List.drop_zero] at same

theorem slice_append_of_le {bs : List UInt8} {start stop : Nat} (first : start ≤ stop)
    (last : stop ≤ bs.length) (more : List UInt8) :
    slice (bs ++ more) start stop = slice bs start stop := by
  rw [slice, slice, List.drop_append_of_le_length (Nat.le_trans first last),
    List.take_append_of_le_length (by rw [List.length_drop]; omega)]

/-- Blanks behind a line change nothing: no literal, call or argument begins or ends there. -/
theorem literals_append_blanks (function line : String) {blanks : String}
    (blank : ∀ c ∈ blanks.toList, c ∈ [' ', '\t', '\n', '\x0c', '\r']) :
    literals function (line ++ blanks) = literals function line := by
  rw [literals, literals, Utf8.bytes_append, sites_append_blanks (blank_of_mem_bytes blank)]
  refine List.map_congr_left fun site member => ?_
  have call := (isCall_of_mem_sitesFrom (Utf8.bytes function) (Utf8.bytes line) 0 site member).1
  have last := call.stop_le_length
  obtain ⟨_, _, _, _, _, _, _, _, _, _, stop⟩ := call
  rw [slice_append_of_le (by omega) last]

end Blanks

end MessageCatalog.Call
