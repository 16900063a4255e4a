import MessageCatalog.Proofs.Path.Clean

/-! # Where relative paths lead

The place that components lead to, when every `..` takes back the component before it. From its
base, a relative path leads to the same place as the path that it was made for, and its first steps
take back just what the base does not have in common with that path.
-/

namespace MessageCatalog.Path

/-- The place that one more component leads to. The components of places stand in reverse order.
Nothing is above the root, and a `..` that finds no name before it stays. -/
def goOn (place : List Component) : Component → List Component
  | .root => [.root]
  | .current => place
  | .normal name => .normal name :: place
  | .parent =>
    match place with
    | .normal _ :: above => above
    | .root :: _ => place
    | _ => .parent :: place

/-- The components of the place that components lead to. -/
def location (cs : List Component) : List Component := (cs.foldl goOn []).reverse

section Steps

variable {place base path : List Component}

theorem foldl_goOn_up (names : ∀ c ∈ base, ∃ name, c = .normal name) :
    (base ++ List.replicate base.length Component.parent).foldl goOn place = place := by
  induction base generalizing place with
  | nil => rfl
  | cons b base ih =>
      obtain ⟨⟨name, rfl⟩, others⟩ := List.forall_mem_cons.mp names
      rw [List.length_cons, List.replicate_succ', List.cons_append, List.foldl_cons,
        ← List.append_assoc, List.foldl_append, ih others]
      rfl

/-- Names that are followed by the steps to a path lead where the path leads. -/
theorem foldl_goOn_steps (names : ∀ c ∈ base, ∃ name, c = .normal name) :
    (base ++ steps base path).foldl goOn place = path.foldl goOn place := by
  induction base generalizing place path with
  | nil => rw [steps_nil, List.nil_append]
  | cons b base ih =>
      by_cases common : path.head? = some b
      · obtain ⟨rest, rfl⟩ := List.head?_eq_some_iff.mp common
        rw [steps_self, List.cons_append, List.foldl_cons, List.foldl_cons]
        exact ih (List.forall_mem_cons.mp names).2
      · rw [steps_apart b base path common, ← List.append_assoc, List.foldl_append]
        exact congrArg (path.foldl goOn) (foldl_goOn_up names)

theorem foldl_goOn_names (names : ∀ c ∈ base, ∃ name, c = .normal name) :
    base.foldl goOn place = base.reverse ++ place := by
  induction base generalizing place with
  | nil => rfl
  | cons b base ih =>
      obtain ⟨⟨name, rfl⟩, others⟩ := List.forall_mem_cons.mp names
      rw [List.foldl_cons, ih others]
      simp [goOn]

/-- The steps to a path take back what is not common to it and the base. -/
theorem exists_common (base path : List Component) :
    ∃ common beyond rest, base = common ++ beyond ∧ path = common ++ rest ∧
      (∀ shared, shared <+: base → shared <+: path → shared <+: common) ∧
      steps base path = List.replicate beyond.length .parent ++ rest := by
  induction base generalizing path with
  | nil =>
      refine ⟨[], [], path, rfl, rfl, ?_, steps_nil path⟩
      intro shared first _
      exact first
  | cons b base ih =>
      by_cases same : path.head? = some b
      · obtain ⟨after, rfl⟩ := List.head?_eq_some_iff.mp same
        obtain ⟨common, beyond, rest, rfl, rfl, longest, up⟩ := ih after
        refine ⟨b :: common, beyond, rest, rfl, rfl, ?_, by rw [steps_self, up]⟩
        intro shared first second
        cases shared with
        | nil => exact List.nil_prefix
        | cons c shared =>
            rw [List.cons_prefix_cons] at first second
            exact List.cons_prefix_cons.mpr ⟨first.1, longest shared first.2 second.2⟩
      · refine ⟨[], b :: base, path, rfl, rfl, ?_, steps_apart b base path same⟩
        intro shared first second
        cases shared with
        | nil => exact List.nil_prefix
        | cons c shared =>
            obtain ⟨rfl, -⟩ := List.cons_prefix_cons.mp first
            obtain ⟨rest, rfl⟩ := second
            exact absurd rfl same

end Steps

section Location

variable {path : List Char}

theorem foldl_goOn_filter (place : List Component) (cs : List Component) :
    (cs.filter (· ≠ .current)).foldl goOn place = cs.foldl goOn place := by
  induction cs generalizing place with
  | nil => rfl
  | cons c cs ih =>
      by_cases here : c = .current
      · subst here
        exact ih place
      · rw [List.filter_cons_of_pos (by simpa using here), List.foldl_cons, List.foldl_cons, ih]

theorem location_append_clean (path : List Char) (cs : List Component) :
    location (components path ++ cs) = location (cleanComponents path ++ cs) := by
  rw [location, location, List.foldl_append, List.foldl_append, cleanComponents, foldl_goOn_filter]

theorem normal_of_mem_inner (down : .parent ∉ components path) :
    ∀ c ∈ inner path, ∃ name, c = .normal name := by
  intro c member
  have among : c ∈ cleanComponents path := by
    rw [cleanComponents_eq]
    split
    · exact List.mem_cons_of_mem _ member
    · exact member
  have here : c ∈ components path := List.mem_of_mem_filter among
  obtain ⟨segment, _, rfl⟩ := List.mem_map.mp member
  unfold Component.ofSegment at here ⊢
  split
  · simp_all
  · exact ⟨segment, rfl⟩

/-- The components at the head of an absolute path. -/
def top (path : List Char) : List Component := if isAbsolute path then [.root] else []

theorem cleanComponents_eq_top (path : List Char) :
    cleanComponents path = top path ++ inner path := by
  rw [cleanComponents_eq, top]
  split <;> rfl

theorem location_top (path : List Char) (cs : List Component) :
    location (top path ++ cs) = (cs.foldl goOn (top path)).reverse := by
  unfold location top
  split <;> rfl

theorem location_top_append {names : List Component}
    (plain : ∀ c ∈ names, ∃ name, c = .normal name) :
    location (top path ++ names) = top path ++ names := by
  rw [location_top, foldl_goOn_names plain, List.reverse_append, List.reverse_reverse, top]
  split <;> rfl

end Location

/-- The relative path leads from its base, where nothing leads up, to the place that the path leads
to, if both are absolute or none is. It begins with a step up for each component that the base has
behind its longest common beginning with the path. These lead back to there, and the rest of the
path follows; to what is below the base there are none. -/
theorem relative_leads_there {base path : String}
    (alike : isAbsolute base.toList = isAbsolute path.toList)
    (down : .parent ∉ components base.toList) :
    location (components base.toList ++ components (relative base path).toList) =
        location (components path.toList) ∧
      ∃ common beyond rest,
        cleanComponents base.toList = common ++ beyond ∧
        cleanComponents path.toList = common ++ rest ∧
        (∀ shared, shared <+: cleanComponents base.toList →
          shared <+: cleanComponents path.toList → shared <+: common) ∧
        components (relative base path).toList = List.replicate beyond.length .parent ++ rest ∧
        location (components base.toList ++ List.replicate beyond.length .parent) = common ∧
        (cleanComponents base.toList <+: cleanComponents path.toList → beyond = []) := by
  have names := normal_of_mem_inner down
  have result : components (relative base path).toList =
      steps (cleanComponents base.toList) (cleanComponents path.toList) := by
    rw [relative, String.toList_ofList, components_relativeChars alike.symm]
  have sameTop : top path.toList = top base.toList := by rw [top, top, alike]
  constructor
  · have whole := location_append_clean path.toList []
    rw [List.append_nil, List.append_nil] at whole
    rw [location_append_clean, result, whole, cleanComponents_eq_top, cleanComponents_eq_top,
      sameTop, steps_append_append, List.append_assoc, location_top, location_top,
      foldl_goOn_steps names]
  · obtain ⟨common, beyond, rest, first, second, longest, up⟩ :=
      exists_common (cleanComponents base.toList) (cleanComponents path.toList)
    -- The root belongs to the common beginning, so that what is beyond it are names.
    obtain ⟨shared, rfl⟩ : top base.toList <+: common := by
      apply longest
      · exact ⟨_, (cleanComponents_eq_top _).symm⟩
      · exact ⟨_, sameTop ▸ (cleanComponents_eq_top path.toList).symm⟩
    have split : inner base.toList = shared ++ beyond := by
      rw [cleanComponents_eq_top, List.append_assoc] at first
      exact List.append_cancel_left first
    obtain ⟨kept, back⟩ := List.forall_mem_append.mp (split ▸ names)
    refine ⟨_, beyond, rest, first, second, longest, result.trans up, ?_, ?_⟩
    · rw [location_append_clean, first, List.append_assoc _ beyond, location, List.foldl_append,
        foldl_goOn_up back]
      exact location_top_append kept
    · intro below
      have whole := (longest _ List.prefix_rfl below).length_le
      have lengths := congrArg List.length first
      rw [List.length_append] at lengths
      exact List.eq_nil_of_length_eq_zero (by omega)

/-- From a directory to a file in another one, whose path goes down and up again. -/
theorem relative_leads_there_beside :
    let base := "/repo/app/src"
    let path := "/repo/./lib/old/../a.js"
    isAbsolute base.toList = isAbsolute path.toList ∧ .parent ∉ components base.toList ∧
      relative base path = "../../lib/old/../a.js" ∧
      location (components base.toList ++ components (relative base path).toList) =
        location (components path.toList) := by
  intro base path
  have alike : isAbsolute base.toList = isAbsolute path.toList := by decide +kernel
  have down : .parent ∉ components base.toList := by decide +kernel
  exact ⟨alike, down, by decide +kernel, (relative_leads_there alike down).1⟩

end MessageCatalog.Path
