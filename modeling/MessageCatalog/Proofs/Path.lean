import Mathlib
import MessageCatalog.Path

/-! # Paths below a directory

The path that names lead to from a directory on has these names as its last components, so that
different names lead to different paths.
-/

namespace MessageCatalog.Path

/-- The path that names lead to from a directory on. -/
def below (root : String) (names : List String) : String := names.foldl join root

/-- Whether a text can be the name of something in a directory. -/
def IsName (name : List Char) : Prop := name ≠ [] ∧ '/' ∉ name

instance (name : List Char) : Decidable (IsName name) := inferInstanceAs (Decidable (_ ∧ _))

/-- Whether a text can be the name of an entry, rather than lead to the directory itself or to the
one that holds it. -/
structure IsEntryName (name : List Char) : Prop where
  isName : IsName name
  ne_current : name ≠ ['.']
  ne_parent : name ≠ ['.', '.']

instance (name : List Char) : Decidable (IsEntryName name) :=
  decidable_of_iff (IsName name ∧ name ≠ ['.'] ∧ name ≠ ['.', '.'])
    ⟨fun h => ⟨h.1, h.2.1, h.2.2⟩, fun h => ⟨h.isName, h.ne_current, h.ne_parent⟩⟩

namespace IsEntryName

variable {name : List Char}

theorem counts (proper : IsEntryName name) : counts name = true := by
  simp only [Path.counts, proper.isName.1, proper.ne_current, ne_eq, not_false_eq_true, and_self,
    decide_true]

theorem ofSegment (proper : IsEntryName name) : Component.ofSegment name = .normal name :=
  if_neg proper.ne_parent

end IsEntryName

/-- A path with a slash behind it, unless there is one already, or nothing at all. -/
def slashed (base : List Char) : List Char :=
  match base.getLast? with
  | none => []
  | some last => if last = '/' then base else base ++ ['/']

theorem segments_slash (a b : List Char) : segments (a ++ '/' :: b) = segments a ++ segments b :=
  splitAt_append (by simp) a b

theorem segments_name {name : List Char} (free : '/' ∉ name) : segments name = [name] := by
  refine splitAt_eq_singleton fun c member => decide_eq_false ?_
  rintro rfl
  exact free member

theorem segments_joinSlash {names : List (List Char)} (some : names ≠ [])
    (free : ∀ name ∈ names, '/' ∉ name) : segments (joinSlash names) = names := by
  induction names with
  | nil => exact absurd rfl some
  | cons name names ih =>
      obtain ⟨first, later⟩ := List.forall_mem_cons.mp free
      cases names with
      | nil => exact segments_name first
      | cons next names =>
          rw [joinSlash, segments_slash, segments_name first, ih (List.cons_ne_nil _ _) later]
          · rfl
          · exact List.cons_ne_nil _ _

theorem joinSlash_injective {names others : List (List Char)} (proper : ∀ name ∈ names, IsName name)
    (proper' : ∀ name ∈ others, IsName name) (same : joinSlash names = joinSlash others) :
    names = others := by
  have parts := congrArg segments same
  cases names with
  | nil =>
      cases others with
      | nil => rfl
      | cons other others =>
          rw [segments_joinSlash (List.cons_ne_nil _ _) fun name inside => (proper' name inside).2]
            at parts
          cases parts
          exact absurd rfl (proper' [] List.mem_cons_self).1
  | cons name names =>
      rw [segments_joinSlash (List.cons_ne_nil _ _) fun name inside => (proper name inside).2]
        at parts
      cases others with
      | nil =>
          cases parts
          exact absurd rfl (proper [] List.mem_cons_self).1
      | cons other others =>
          rwa [segments_joinSlash (List.cons_ne_nil _ _) fun name inside => (proper' name inside).2]
            at parts

theorem isAbsolute_name {name : List Char} (proper : IsName name) : isAbsolute name = false := by
  obtain ⟨c, rest, rfl⟩ := List.exists_cons_of_ne_nil proper.1
  have plain := (not_or.mp (mt List.mem_cons.mpr proper.2)).1
  simpa [isAbsolute] using Ne.symm plain

theorem joinChars_relative {path : List Char} (relative : isAbsolute path = false)
    (base : List Char) : joinChars base path = slashed base ++ path := by
  rw [joinChars, relative, slashed]
  cases base.getLast? with
  | none => rfl
  | some last =>
      simp only [Bool.false_eq_true, ↓reduceIte]
      split
      · rfl
      · rw [List.append_assoc]
        rfl

theorem joinChars_name {name : List Char} (proper : IsName name) (base : List Char) :
    joinChars base name = slashed base ++ name :=
  joinChars_relative (isAbsolute_name proper) base

theorem slashed_append {name : List Char} (proper : IsName name) (base : List Char) :
    slashed (base ++ name) = base ++ name ++ ['/'] := by
  have last := List.getLast_mem proper.1
  rw [slashed, List.getLast?_append_of_ne_nil _ proper.1,
    List.getLast?_eq_getLast_of_ne_nil proper.1]
  refine if_neg fun slash => ?_
  rw [slash] at last
  exact proper.2 last

/-- Names are the last components of the path that they lead to. -/
theorem toList_below {names : List String} (some : names ≠ [])
    (proper : ∀ name ∈ names, IsName name.toList) (root : String) :
    (below root names).toList = slashed root.toList ++ joinSlash (names.map String.toList) := by
  induction names generalizing root with
  | nil => exact absurd rfl some
  | cons name names ih =>
      obtain ⟨first, later⟩ := List.forall_mem_cons.mp proper
      have joined : (join root name).toList = slashed root.toList ++ name.toList := by
        rw [join, String.toList_ofList, joinChars_name first]
      cases names with
      | nil => exact joined
      | cons next names =>
          have inner := ih (List.cons_ne_nil _ _) later (join root name)
          rw [joined, slashed_append first] at inner
          refine inner.trans ?_
          simp [joinSlash]

/-- Different names lead to different paths. -/
theorem below_injective {names others : List String} (some : names ≠ []) (some' : others ≠ [])
    (proper : ∀ name ∈ names, IsName name.toList) (proper' : ∀ name ∈ others, IsName name.toList)
    {root : String} (same : below root names = below root others) : names = others := by
  have chars := congrArg String.toList same
  rw [toList_below some proper, toList_below some' proper'] at chars
  have parts := joinSlash_injective (List.forall_mem_map.mpr proper)
    (List.forall_mem_map.mpr proper') (List.append_cancel_left chars)
  exact (List.map_inj_right fun _ _ => String.toList_inj.mp).mp parts

end MessageCatalog.Path
