import MessageCatalog.Proofs.Path.Relative

/-! # Clean paths

A clean path has one slash between its components, none behind them, and nothing that does not
count. Relative paths are clean, with one exception: an absolute path has no relative one from a
relative base, and then it is given as it is spelled.
-/

namespace MessageCatalog.Path

/-- Whether every part of a path below the root counts. The root, and nothing at all, have none. -/
def IsClean (path : List Char) : Prop :=
  let below := if isAbsolute path then path.drop 1 else path
  below = [] ∨ ∀ segment ∈ segments below, counts segment = true

instance (path : List Char) : Decidable (IsClean path) := inferInstanceAs (Decidable (_ ∨ _))

/-- Whether a component is found again from its spelling, which counts wherever it stands. -/
structure Component.IsInner (c : Component) : Prop extends c.IsProper where
  counts : counts c.text = true

theorem isInner_parent : Component.parent.IsInner := ⟨isProper_parent, by decide⟩

theorem isInner_of_mem_inner {path : List Char} {c : Component} (member : c ∈ inner path) :
    c.IsInner := by
  have proper := isProper_of_mem_inner member
  obtain ⟨segment, part, rfl⟩ := List.mem_map.mp member
  refine ⟨proper, ?_⟩
  unfold Component.ofSegment
  split
  · decide
  · exact (List.mem_filter.mp part).2

section Spelled

variable {cs : List Component}

theorem counts_of_mem_text (proper : ∀ c ∈ cs, c.IsInner) :
    ∀ segment ∈ cs.map Component.text, counts segment = true := by
  intro segment member
  obtain ⟨c, among, rfl⟩ := List.mem_map.mp member
  exact (proper c among).counts

theorem segments_spelled (some : cs ≠ []) (proper : ∀ c ∈ cs, c.IsInner) :
    segments (joinSlash (cs.map Component.text)) = cs.map Component.text := by
  apply segments_joinSlash (by simpa using some)
  intro segment member
  obtain ⟨c, among, rfl⟩ := List.mem_map.mp member
  exact (proper c among).isName.2

theorem isAbsolute_spelled (proper : ∀ c ∈ cs, c.IsInner) :
    isAbsolute (joinSlash (cs.map Component.text)) = false := by
  cases cs with
  | nil => rfl
  | cons c cs =>
      have first : IsName c.text := (proper c List.mem_cons_self).isName
      obtain ⟨d, rest, spelled⟩ := List.exists_cons_of_ne_nil first.1
      -- The text begins as its first component does, whether or not others follow.
      have head : (joinSlash ((c :: cs).map Component.text)).head? = c.text.head? := by
        cases cs <;> simp [joinSlash, spelled]
      rw [isAbsolute, head]
      exact isAbsolute_name first

theorem isClean_spelled (proper : ∀ c ∈ cs, c.IsInner) :
    IsClean (joinSlash (cs.map Component.text)) := by
  unfold IsClean
  rw [isAbsolute_spelled proper]
  by_cases some : cs = []
  · left
    subst some
    rfl
  · right
    intro segment member
    rw [if_neg Bool.false_ne_true, segments_spelled some proper] at member
    exact counts_of_mem_text proper segment member

/-- Components are those of the path that they spell. -/
theorem components_spelled (proper : ∀ c ∈ cs, c.IsInner) :
    components (joinSlash (cs.map Component.text)) = cs := by
  by_cases some : cs = []
  · subst some
    rfl
  · have kept : (cs.map Component.text).filter counts = cs.map Component.text := by
      rw [List.filter_eq_self]
      exact counts_of_mem_text proper
    have again : (cs.map Component.text).map Component.ofSegment = cs := by
      rw [List.map_map]
      refine (List.map_congr_left ?_).trans (List.map_id _)
      intro c among
      exact (proper c among).ofSegment
    have plain : (cs.map Component.text).head? ≠ Option.some ['.'] := by
      intro head
      have := counts_of_mem_text proper _ (List.mem_of_head? head)
      simp [counts] at this
    simp only [components, isAbsolute_spelled proper, segments_spelled some proper, kept, again,
      plain, Bool.false_eq_true, ↓reduceIte]

end Spelled

/-! ## Relative paths -/

section Relative

variable {base path : List Char}

theorem components_of_isAbsolute (absolute : isAbsolute path = true) :
    components path = cleanComponents path := by
  rw [cleanComponents_eq, components, absolute]
  rfl

theorem exists_relativeChars (spelled : isAbsolute path = true → isAbsolute base = true) :
    ∃ cs : List Component, (∀ c ∈ cs, c.IsInner) ∧
      relativeChars base path = joinSlash (cs.map Component.text) ∧
      (isAbsolute path ≠ isAbsolute base → cs = cleanComponents path) := by
  have proper : ∀ c ∈ inner path, c.IsInner := fun c => isInner_of_mem_inner
  by_cases alike : isAbsolute path = isAbsolute base
  · exact ⟨_, forall_mem_steps isInner_parent proper, relativeChars_alike alike, absurd alike⟩
  · have relative : isAbsolute path = false := by
      by_contra absolute
      simp_all
    have absolute : isAbsolute base = true := by simp_all
    refine ⟨_, proper, relativeChars_below relative absolute, fun _ => ?_⟩
    rw [cleanComponents_eq, relative, if_neg Bool.false_ne_true]

/-- Between places of one kind, the components of the relative path are the steps from one to the
other. -/
theorem components_relativeChars (alike : isAbsolute path = isAbsolute base) :
    components (relativeChars base path) = steps (cleanComponents base) (cleanComponents path) := by
  have proper : ∀ c ∈ inner path, c.IsInner := fun c => isInner_of_mem_inner
  rw [relativeChars_alike alike, components_spelled (forall_mem_steps isInner_parent proper),
    cleanComponents_eq, cleanComponents_eq, alike]
  split
  · rw [steps_self]
  · rfl

end Relative

/-- A relative path is clean, unless the path is absolute, the base is not, and the path is not
clean itself: it is then given as it is spelled. If just one of the two is absolute, the components
are those of the path but a leading `.`. -/
theorem relative_isClean_iff (base path : String) :
    (IsClean (relative base path).toList ↔
      (isAbsolute path.toList = true → isAbsolute base.toList = false → IsClean path.toList)) ∧
      (isAbsolute path.toList ≠ isAbsolute base.toList →
        components (relative base path).toList = cleanComponents path.toList ∧
          (isAbsolute path.toList = true → relative base path = path)) := by
  have text : (relative base path).toList = relativeChars base.toList path.toList :=
    String.toList_ofList
  by_cases above : isAbsolute path.toList = true ∧ isAbsolute base.toList = false
  · obtain ⟨absolute, relative⟩ := above
    have same : relativeChars base.toList path.toList = path.toList :=
      relativeChars_above absolute (by simp [absolute, relative])
    rw [text, same]
    refine ⟨by simp [absolute, relative], fun _ => ⟨components_of_isAbsolute absolute, fun _ => ?_⟩⟩
    rw [Path.relative, same, String.ofList_toList]
  · have spelled : isAbsolute path.toList = true → isAbsolute base.toList = true := by
      simpa using above
    obtain ⟨cs, proper, spelled, cleaned⟩ := exists_relativeChars spelled
    rw [text, spelled, components_spelled proper]
    constructor
    · simp only [isClean_spelled proper, true_iff]
      intro absolute relative
      exact absurd ⟨absolute, relative⟩ above
    · intro apart
      refine ⟨cleaned apart, fun absolute => ?_⟩
      simp_all

/-- From a relative base, an absolute path keeps the `.` in the midst of it. -/
theorem relative_keeps_current :
    relative "relative/base" "/abs/./a.js" = "/abs/./a.js" ∧
      ¬IsClean (relative "relative/base" "/abs/./a.js").toList := by
  decide +kernel

end MessageCatalog.Path
