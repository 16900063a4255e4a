import MessageCatalog.Proofs.Path

/-! # Relative paths

A relative path first leads up from its base as far as needed, and how far that is depends on the
path. Still the relative paths of different things below one directory differ, wherever the base
is: parents that belong to the directory are common to all of them, and what is below it is reached
by names alone.
-/

namespace MessageCatalog.Path

/-! ## The steps between components -/

section Steps

variable (b : Component) (base path : List Component)

theorem steps_nil : steps [] path = path := by
  cases path <;> rfl

theorem steps_self : steps (b :: base) (b :: path) = steps base path := by
  simp only [steps, dropCommon, ↓reduceIte]

/-- From where the two begin to differ, one leads all the way up. -/
theorem steps_apart (apart : path.head? ≠ some b) :
    steps (b :: base) path = List.replicate (base.length + 1) .parent ++ path := by
  cases path with
  | nil => rfl
  | cons c path =>
      have differ : b ≠ c := fun same => apart (congrArg some same.symm)
      simp only [steps, dropCommon, differ, ↓reduceIte, List.length_cons]

variable {base path}

theorem steps_append_append (common base path : List Component) :
    steps (common ++ base) (common ++ path) = steps base path := by
  induction common with
  | nil => rfl
  | cons c common ih => exact (steps_self c _ _).trans ih

theorem steps_append (base path : List Component) : steps base (base ++ path) = path := by
  simpa [steps_nil] using steps_append_append base [] path

theorem forall_mem_steps {base path : List Component} {P : Component → Prop} (up : P .parent)
    (down : ∀ c ∈ path, P c) : ∀ c ∈ steps base path, P c := by
  induction base generalizing path with
  | nil => rwa [steps_nil]
  | cons b base ih =>
      by_cases common : path.head? = some b
      · obtain ⟨rest, rfl⟩ := List.head?_eq_some_iff.mp common
        rw [steps_self]
        exact ih (List.forall_mem_cons.mp down).2
      · rw [steps_apart b base path common]
        refine List.forall_mem_append.mpr ⟨fun c member => ?_, down⟩
        rw [List.eq_of_mem_replicate member]
        exact up

/-- To a place that is reached without going up, there are no more steps up than the base has
components. -/
theorem count_parent_steps_le (down : .parent ∉ path) :
    (steps base path).count .parent ≤ base.length := by
  induction base generalizing path with
  | nil =>
      rw [steps_nil, List.count_eq_zero.mpr down]
      exact Nat.le_refl 0
  | cons b base ih =>
      by_cases common : path.head? = some b
      · obtain ⟨rest, rfl⟩ := List.head?_eq_some_iff.mp common
        rw [steps_self]
        exact Nat.le_succ_of_le (ih (mt (List.mem_cons_of_mem b) down))
      · rw [steps_apart b base path common, List.count_append, List.count_replicate_self,
          List.count_eq_zero.mpr down]
        exact Nat.le_refl _

theorem steps_ne_of_apart {other : List Component} {rest : List Component} (down : .parent ∉ rest)
    (apart : other.head? ≠ some b) : steps (b :: base) (b :: rest) ≠ steps (b :: base) other := by
  intro same
  have few : (steps base rest).count .parent ≤ base.length := count_parent_steps_le down
  rw [steps_self, steps_apart b base other apart] at same
  rw [same, List.count_append, List.count_replicate_self] at few
  omega

/-- Steps to places that are reached without going up tell the places apart. -/
theorem eq_of_steps {names others : List Component} (down : .parent ∉ names)
    (down' : .parent ∉ others) (same : steps base names = steps base others) : names = others := by
  induction base generalizing names others with
  | nil => rwa [steps_nil, steps_nil] at same
  | cons b base ih =>
      by_cases common : names.head? = some b <;> by_cases common' : others.head? = some b
      · obtain ⟨rest, rfl⟩ := List.head?_eq_some_iff.mp common
        obtain ⟨rest', rfl⟩ := List.head?_eq_some_iff.mp common'
        rw [steps_self, steps_self] at same
        rw [ih (mt (List.mem_cons_of_mem b) down) (mt (List.mem_cons_of_mem b) down') same]
      · obtain ⟨rest, rfl⟩ := List.head?_eq_some_iff.mp common
        exact absurd same (steps_ne_of_apart b (mt (List.mem_cons_of_mem b) down) common')
      · obtain ⟨rest, rfl⟩ := List.head?_eq_some_iff.mp common'
        exact absurd same.symm (steps_ne_of_apart b (mt (List.mem_cons_of_mem b) down') common)
      · rw [steps_apart b base names common, steps_apart b base others common'] at same
        exact List.append_cancel_left same

theorem eq_of_steps_append {root names others : List Component} (down : .parent ∉ names)
    (down' : .parent ∉ others) (same : steps base (root ++ names) = steps base (root ++ others)) :
    names = others := by
  induction root generalizing base with
  | nil => exact eq_of_steps down down' same
  | cons r root ih =>
      cases base with
      | nil =>
          rw [steps_nil, steps_nil] at same
          exact List.append_cancel_left same
      | cons b base =>
          by_cases common : r = b
          · subst common
            exact ih (by simpa only [List.cons_append, steps_self] using same)
          · have apart (rest : List Component) : (r :: root ++ rest).head? ≠ some b :=
              fun head => common (Option.some.inj head)
            rw [steps_apart b base _ (apart names), steps_apart b base _ (apart others)] at same
            exact List.append_cancel_left (List.append_cancel_left same)

end Steps

/-! ## The spelling of components -/

/-- The components of a path that stem from what is between its slashes. -/
def inner (path : List Char) : List Component :=
  ((segments path).filter counts).map Component.ofSegment

theorem cleanComponents_eq (path : List Char) :
    cleanComponents path = if isAbsolute path then .root :: inner path else inner path := by
  have kept : (inner path).filter (· ≠ .current) = inner path := by
    refine List.filter_eq_self.mpr fun c member => decide_eq_true ?_
    obtain ⟨segment, _, rfl⟩ := List.mem_map.mp member
    unfold Component.ofSegment
    split <;> exact nofun
  have whole : components path =
      if isAbsolute path then .root :: inner path
      else if (segments path).head? = some ['.'] then .current :: inner path else inner path := rfl
  rw [cleanComponents, whole]
  split
  · exact (List.filter_cons_of_pos rfl).trans (congrArg _ kept)
  · split
    · exact (List.filter_cons_of_neg (by decide)).trans kept
    · exact kept

theorem filter_segments_slashed {kept : List Char → Bool} (nonempty : kept [] = false)
    (base rest : List Char) :
    (segments (slashed base ++ rest)).filter kept =
      (segments base).filter kept ++ (segments rest).filter kept := by
  unfold slashed
  cases last : base.getLast? with
  | none =>
      obtain rfl := List.getLast?_eq_none_iff.mp last
      simp [segments, splitAt, nonempty]
  | some c =>
      simp only
      split
      · rename_i slash
        obtain ⟨start, rfl⟩ := List.getLast?_eq_some_iff.mp last
        subst slash
        rw [List.append_assoc, List.singleton_append, segments_slash, segments_slash]
        simp [segments, splitAt, nonempty]
      · rw [List.append_assoc, List.singleton_append, segments_slash, List.filter_append]

theorem isAbsolute_join {path : String} (relative : isAbsolute path.toList = false)
    (base : String) : isAbsolute (join base path).toList = isAbsolute base.toList := by
  rw [join, String.toList_ofList, joinChars_relative relative]
  cases chars : base.toList with
  | nil => exact relative
  | cons c rest =>
      unfold slashed
      split
      · rename_i none
        cases List.getLast?_eq_none_iff.mp none
      · split <;> rfl

theorem inner_join {path : String} (relative : isAbsolute path.toList = false) (base : String) :
    inner (join base path).toList = inner base.toList ++ inner path.toList := by
  rw [join, String.toList_ofList, joinChars_relative relative, inner, filter_segments_slashed rfl,
    List.map_append]
  rfl

section Below

variable {names : List String}

theorem inner_below (some : names ≠ []) (proper : ∀ name ∈ names, IsEntryName name.toList)
    (root : String) :
    inner (below root names).toList =
      inner root.toList ++ names.map fun name => .normal name.toList := by
  have kept : (names.map String.toList).filter counts = names.map String.toList :=
    List.filter_eq_self.mpr (List.forall_mem_map.mpr fun name member => (proper name member).counts)
  have parts : segments (joinSlash (names.map String.toList)) = names.map String.toList :=
    segments_joinSlash (by simpa using some)
      (List.forall_mem_map.mpr fun name member => (proper name member).isName.2)
  rw [inner, toList_below some fun name member => (proper name member).isName,
    filter_segments_slashed rfl, parts, kept, List.map_append, List.map_map]
  exact congrArg _ (List.map_congr_left fun name member => (proper name member).ofSegment)

theorem isAbsolute_below (proper : ∀ name ∈ names, IsName name.toList) (root : String) :
    isAbsolute (below root names).toList = isAbsolute root.toList := by
  induction names generalizing root with
  | nil => rfl
  | cons name names ih =>
      obtain ⟨first, later⟩ := List.forall_mem_cons.mp proper
      exact (ih later (join root name)).trans (isAbsolute_join (isAbsolute_name first) root)

end Below

/-- Whether a component is found again from its spelling between slashes. -/
structure Component.IsProper (c : Component) : Prop where
  isName : IsName c.text
  ofSegment : Component.ofSegment c.text = c

theorem isProper_parent : Component.parent.IsProper := ⟨by decide, rfl⟩

theorem isProper_of_mem_inner {path : List Char} {c : Component} (member : c ∈ inner path) :
    c.IsProper := by
  obtain ⟨segment, part, rfl⟩ := List.mem_map.mp member
  obtain ⟨here, counting⟩ := List.mem_filter.mp part
  have spelled : (Component.ofSegment segment).text = segment := by
    unfold Component.ofSegment
    split
    · rename_i parent
      exact parent.symm
    · rfl
  have free : '/' ∉ segment := fun slash => by
    simpa using separates_of_mem_splitAt here '/' slash
  simp only [counts, decide_eq_true_eq] at counting
  refine ⟨?_, congrArg _ spelled⟩
  rw [spelled]
  exact ⟨counting.1, free⟩

theorem isProper_of_mem_steps {base path : List Component} (proper : ∀ c ∈ path, c.IsProper) :
    ∀ c ∈ steps base path, c.IsProper :=
  forall_mem_steps isProper_parent proper

theorem eq_of_joinSlash_text {path other : List Component} (proper : ∀ c ∈ path, c.IsProper)
    (proper' : ∀ c ∈ other, c.IsProper)
    (same : joinSlash (path.map Component.text) = joinSlash (other.map Component.text)) :
    path = other := by
  have texts := joinSlash_injective
    (List.forall_mem_map.mpr fun c member => (proper c member).isName)
    (List.forall_mem_map.mpr fun c member => (proper' c member).isName) same
  have again {path : List Component} (proper : ∀ c ∈ path, c.IsProper) :
      (path.map Component.text).map Component.ofSegment = path := by
    rw [List.map_map]
    exact (List.map_congr_left fun c member => (proper c member).ofSegment).trans (List.map_id _)
  rw [← again proper, texts, again proper']

/-! ## Relative paths of what is below a directory -/

theorem relativeChars_alike {base path : List Char} (alike : isAbsolute path = isAbsolute base) :
    relativeChars base path =
      joinSlash ((steps (inner base) (inner path)).map Component.text) := by
  rw [relativeChars, if_pos alike, cleanComponents_eq, cleanComponents_eq, alike]
  split
  · rw [steps_self]
  · rfl

theorem relativeChars_above {base path : List Char} (absolute : isAbsolute path = true)
    (apart : isAbsolute path ≠ isAbsolute base) : relativeChars base path = path := by
  rw [relativeChars, if_neg apart, if_pos absolute]

theorem relativeChars_below {base path : List Char} (relative : isAbsolute path = false)
    (absolute : isAbsolute base = true) :
    relativeChars base path = joinSlash ((inner path).map Component.text) := by
  simp only [relativeChars, relative, absolute, cleanComponents_eq, Bool.false_eq_true, ↓reduceIte]

/-- What a path names as seen from the base has the same relative path under both spellings. -/
theorem relative_join {base path : String} (absolute : isAbsolute base.toList = true)
    (relative : isAbsolute path.toList = false) :
    Path.relative base (join base path) = Path.relative base path := by
  have alike := isAbsolute_join relative base
  rw [Path.relative, Path.relative, relativeChars_below relative absolute,
    relativeChars_alike alike, inner_join relative, steps_append]

/-- The relative paths of different things below a directory differ, wherever the base is. -/
theorem relative_below_injective {names others : List String} (some : names ≠ [])
    (some' : others ≠ []) (proper : ∀ name ∈ names, IsEntryName name.toList)
    (proper' : ∀ name ∈ others, IsEntryName name.toList) {base root : String}
    (same : relative base (below root names) = relative base (below root others)) :
    names = others := by
  have chars := congrArg String.toList same
  simp only [relative, String.toList_ofList] at chars
  have isName := fun name member => (proper name member).isName
  have isName' := fun name member => (proper' name member).isName
  have origin := isAbsolute_below isName root
  have origin' := isAbsolute_below isName' root
  -- The names end both lists of components, in which nothing leads up behind the root.
  have parts {base : List Component}
      (same : joinSlash ((steps base (inner (below root names).toList)).map Component.text) =
        joinSlash ((steps base (inner (below root others).toList)).map Component.text)) :
      names = others := by
    have steps := eq_of_joinSlash_text (isProper_of_mem_steps fun _ => isProper_of_mem_inner)
      (isProper_of_mem_steps fun _ => isProper_of_mem_inner) same
    rw [inner_below some proper, inner_below some' proper'] at steps
    have normal := eq_of_steps_append (by simp) (by simp) steps
    refine (List.map_inj_right fun a b equal => ?_).mp normal
    exact String.toList_inj.mp (Component.normal.inj equal)
  by_cases alike : isAbsolute root.toList = isAbsolute base.toList
  · rw [relativeChars_alike (origin.trans alike),
      relativeChars_alike (origin'.trans alike)] at chars
    exact parts chars
  · cases absolute : isAbsolute root.toList with
    | true =>
        rw [relativeChars_above (origin.trans absolute) (origin ▸ alike),
          relativeChars_above (origin'.trans absolute) (origin' ▸ alike)] at chars
        exact below_injective some some' isName isName' (String.toList_inj.mp chars)
    | false =>
        have far : isAbsolute base.toList = true := by
          rw [absolute] at alike
          exact Bool.eq_true_of_not_eq_false (Ne.symm alike)
        rw [relativeChars_below (origin.trans absolute) far,
          relativeChars_below (origin'.trans absolute) far] at chars
        exact @parts [] (by rwa [steps_nil, steps_nil])

end MessageCatalog.Path
