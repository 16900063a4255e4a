/-! # Splitting texts

Cuts a text at every character that separates.
-/

namespace MessageCatalog

/-- The parts of a text between the characters that separate: one more than there are of these. -/
def splitAt (separates : Char → Bool) : List Char → List (List Char)
  | [] => [[]]
  | c :: cs =>
    if separates c then [] :: splitAt separates cs
    else
      match splitAt separates cs with
      | [] => [[c]]
      | part :: parts => (c :: part) :: parts

theorem splitAt_ne_nil (separates : Char → Bool) (a : List Char) : splitAt separates a ≠ [] := by
  cases a with
  | nil => exact nofun
  | cons c a =>
    rw [splitAt]
    split
    · exact nofun
    · split <;> exact nofun

/-- Texts on both sides of a separator are cut on their own. -/
theorem splitAt_append {separates : Char → Bool} {c : Char} (h : separates c = true)
    (a b : List Char) :
    splitAt separates (a ++ c :: b) = splitAt separates a ++ splitAt separates b := by
  induction a with
  | nil => simp [splitAt, h]
  | cons d a ih =>
    rw [List.cons_append, splitAt, splitAt, ih]
    split
    · rfl
    · cases parts : splitAt separates a with
      | nil => exact absurd parts (splitAt_ne_nil separates a)
      | cons part parts => rfl

theorem splitAt_eq_singleton {separates : Char → Bool} {a : List Char}
    (h : ∀ c ∈ a, separates c = false) : splitAt separates a = [a] := by
  induction a with
  | nil => rfl
  | cons c a ih =>
    rw [splitAt, h c (.head a), ih fun d hd => h d (.tail c hd)]
    rfl

theorem separates_of_mem_splitAt {separates : Char → Bool} {a part : List Char}
    (h : part ∈ splitAt separates a) : ∀ c ∈ part, separates c = false := by
  induction a generalizing part with
  | nil =>
    rw [splitAt, List.mem_singleton] at h
    subst h
    exact fun _ => nofun
  | cons d a ih =>
    rw [splitAt] at h
    split at h
    · rcases List.mem_cons.mp h with rfl | later
      · exact fun _ => nofun
      · exact ih later
    · rename_i hd
      cases parts : splitAt separates a with
      | nil => exact absurd parts (splitAt_ne_nil separates a)
      | cons first rest =>
        rw [parts] at h ih
        rcases List.mem_cons.mp h with rfl | later
        · exact List.forall_mem_cons.mpr ⟨Bool.eq_false_iff.mpr hd, ih (.head rest)⟩
        · exact ih (.tail first later)

end MessageCatalog
