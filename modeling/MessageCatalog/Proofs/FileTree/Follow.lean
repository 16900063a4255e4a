import MessageCatalog.Proofs.FileTree

/-! # Taking steps

What `follow` does with one step, as equations, and what follows for steps in a row: the steps of a
path can be taken in two parts, fewer links to follow make no other difference than that they may
not be enough, and the names of a place lead there.
-/

namespace MessageCatalog.FileTree

variable {t : FileTree} {purpose : Purpose} {links : Nat} {start place : Place}
  {entries : List (String × FileTree)} {step : String} {steps rest more : List String}

/-! ## Single steps -/

theorem follow_nil {node : FileTree} (there : t.at? place = some node) :
    t.follow purpose links place [] = .ok (.found place node) := by
  rw [follow.eq_def]
  simp only [there]

theorem follow_nowhere (nothing : t.at? place = none) (steps : List String) :
    t.follow purpose links place steps = .error .notFound := by
  rw [follow.eq_def]
  simp only [nothing]

theorem follow_notADirectory {node : FileTree} (there : t.at? place = some node)
    (other : ∀ entries, node ≠ .directory entries) :
    t.follow purpose links place (step :: rest) = .error .notADirectory := by
  rw [follow.eq_def]
  cases node with
  | directory entries => exact absurd rfl (other entries)
  | _ => simp only [there]

theorem follow_file {content : List UInt8} (there : t.at? place = some (.file content)) :
    t.follow purpose links place (step :: rest) = .error .notADirectory :=
  follow_notADirectory there nofun

/-- Whether a step is one that is looked up in the directory it is taken from. -/
structure IsLookup (purpose : Purpose) (step : String) (rest : List String) : Prop where
  moves : ¬(step = "." ∨ step = slashStep)
  down : step ≠ ".."
  allowed : ¬(purpose = .write ∧ rest = [slashStep])

theorem IsLookup.of_not (moves : ¬(decide (step = ".") || decide (step = slashStep)) = true)
    (down : step ≠ "..")
    (allowed : ¬(decide (purpose = .write) && decide (rest = [slashStep])) = true) :
    IsLookup purpose step rest :=
  ⟨by simpa using moves, down, by simpa using allowed⟩

theorem IsLookup.reach (moves : ¬(decide (step = ".") || decide (step = slashStep)) = true)
    (down : step ≠ "..") (rest : List String) : IsLookup .reach step rest :=
  .of_not moves down Bool.false_ne_true

section Directory

variable (there : t.at? place = some (.directory entries))
include there

theorem follow_stays (stays : step = "." ∨ step = slashStep) :
    t.follow purpose links place (step :: rest) = t.follow purpose links place rest := by
  rw [follow.eq_def]
  simp only [there, Bool.or_eq_true, decide_eq_true_eq, stays, ↓reduceIte]

theorem follow_up :
    t.follow purpose links place (".." :: rest) =
      t.follow purpose links place.dropLast rest := by
  rw [follow.eq_def]
  simp only [there, (by decide : (".." = "." || ".." = slashStep) = false), Bool.false_eq_true,
    ↓reduceIte]

theorem follow_refused (moves : ¬(step = "." ∨ step = slashStep)) (down : step ≠ "..") :
    t.follow .write links place [step, slashStep] = .error .isADirectory := by
  rw [follow.eq_def]
  simp only [there, moves, down, Bool.or_eq_true, decide_eq_true_eq, decide_true, Bool.and_self,
    ↓reduceIte]

theorem follow_lookup (lookup : IsLookup purpose step rest) :
    t.follow purpose links place (step :: rest) =
      if (Utf8.bytes step).length > maxNameLength then .error .nameTooLong
      else
        match entries.lookup step with
        | none => if rest = [] then .ok (.vacant place step) else .error .notFound
        | some (.link target) =>
          if rest = [] ∧ purpose = .entry then .ok (.found (place ++ [step]) (.link target))
          else
            match links with
            | 0 => .error .tooManyLinks
            | links + 1 =>
              if target.isEmpty then .error .notFound
              else
                t.follow purpose links (if isAbsolute target then [] else place)
                  (pathSteps target ++ rest)
        | some _ => t.follow purpose links (place ++ [step]) rest := by
  have unfolded := follow.eq_def t purpose links place (step :: rest)
  simp only [there, lookup.moves, lookup.down, lookup.allowed, Bool.or_eq_true, Bool.and_eq_true,
    decide_eq_true_eq, ↓reduceIte, List.isEmpty_iff] at unfolded
  exact unfolded

end Directory

/-! ## Steps in two parts -/

/-- How further steps go on from what the steps before came to. -/
inductive GoesOn (t : FileTree) (purpose : Purpose) (links : Nat) (more : List String) :
    Except OsError Target → Except OsError Target → Prop where
  | error (e : OsError) : GoesOn t purpose links more (.error e) (.error e)
  | vacant (parent : Place) (name : String) :
    GoesOn t purpose links more (.ok (.vacant parent name)) (.error .notFound)
  | found {left : Nat} (place : Place) (node : FileTree) (fewer : left ≤ links) :
    GoesOn t purpose links more (.ok (.found place node)) (t.follow purpose left place more)

theorem GoesOn.mono {before after : Except OsError Target} {fewer : Nat}
    (goes : GoesOn t purpose fewer more before after) (le : fewer ≤ links) :
    GoesOn t purpose links more before after := by
  cases goes with
  | error e => exact .error e
  | vacant parent name => exact .vacant parent name
  | found place node fewer => exact .found place node (fewer.trans le)

/-- Steps in a row are taken as the first part of them and then the second. A link at the end of the
first part is followed. -/
theorem follow_append (purpose : Purpose) (further : more ≠ [])
    (allowed : ¬(purpose = .write ∧ more.getLast? = some slashStep)) (t : FileTree) (links : Nat)
    (start : Place) (steps : List String) :
    GoesOn t purpose links more (t.follow .reach links start steps)
      (t.follow purpose links start (steps ++ more)) := by
  have joined (rest : List String) : rest ++ more ≠ [] := by simp [further]
  have isLookup {step : String} {rest : List String}
      (moves : ¬(decide (step = ".") || decide (step = slashStep)) = true) (down : step ≠ "..") :
      IsLookup purpose step (rest ++ more) := by
    refine ⟨by simpa using moves, down, fun ⟨writes, last⟩ => allowed ⟨writes, ?_⟩⟩
    rw [← List.getLast?_append_of_ne_nil rest further, last]
    rfl
  fun_induction follow t .reach links start steps with
  | case1 links place steps nothing =>
      rw [follow_nowhere nothing]
      exact .error _
  | case2 links place node there => exact .found place node (Nat.le_refl _)
  | case3 links place entries step rest there stays ih =>
      rw [List.cons_append, follow_stays there (by simpa using stays)]
      exact ih
  | case4 links place entries rest there _ ih =>
      rw [List.cons_append, follow_up there]
      exact ih
  | case5 => simp_all
  | case6 links place entries step rest there moves down _ long =>
      rw [List.cons_append, follow_lookup there (isLookup moves down), if_pos long]
      exact .error _
  | case7 links place entries step rest there moves down _ short missing =>
      rw [List.cons_append, follow_lookup there (isLookup moves down), if_neg short]
      simp only [missing, joined, ↓reduceIte]
      exact .vacant _ _
  | case8 links place entries step rest there moves down _ short missing =>
      rw [List.cons_append, follow_lookup there (isLookup moves down), if_neg short]
      simp only [missing, joined, ↓reduceIte]
      exact .error _
  | case9 => simp_all
  | case10 place entries step rest there moves down _ short target found =>
      rw [List.cons_append, follow_lookup there (isLookup moves down), if_neg short]
      simp only [found, joined, false_and, ↓reduceIte]
      exact .error _
  | case11 place entries step rest there moves down _ short target found _ links nothing =>
      rw [List.cons_append, follow_lookup there (isLookup moves down), if_neg short]
      simp only [found, joined, false_and, ↓reduceIte, nothing]
      exact .error _
  | case12 place entries step rest there moves down _ short target found _ links target' next ih =>
      rw [List.cons_append, follow_lookup there (isLookup moves down), if_neg short]
      simp only [found, joined, false_and, ↓reduceIte, target']
      rw [List.append_assoc] at ih
      exact ih.mono (Nat.le_succ links)
  | case13 links place entries step rest there moves down _ short node plain found ih =>
      rw [List.cons_append, follow_lookup there (isLookup moves down), if_neg short]
      simp only [found]
      exact ih
  | case14 links place node step rest other there =>
      rw [List.cons_append, follow_notADirectory there other]
      exact .error _

/-- With fewer links to follow, steps lead to the same, or there are too many links on the way. -/
theorem follow_fewer {left : Nat} (fewer : left ≤ links) :
    t.follow .reach left place steps = t.follow .reach links place steps ∨
      t.follow .reach left place steps = .error .tooManyLinks := by
  fun_induction follow t .reach left place steps generalizing links with
  | case1 left place steps nothing => exact .inl (follow_nowhere nothing steps).symm
  | case2 left place node there => exact .inl (follow_nil there).symm
  | case3 left place entries step rest there stays ih =>
      rw [follow_stays there (by simpa using stays)]
      exact ih fewer
  | case4 left place entries rest there _ ih =>
      rw [follow_up there]
      exact ih fewer
  | case5 => simp_all
  | case6 left place entries step rest there moves down _ long =>
      rw [follow_lookup there (.reach moves down rest), if_pos long]
      exact .inl rfl
  | case7 left place entries step rest there moves down _ short missing last =>
      rw [follow_lookup there (.reach moves down rest), if_neg short, missing]
      exact .inl (if_pos (List.isEmpty_iff.mp last)).symm
  | case8 left place entries step rest there moves down _ short missing more =>
      rw [follow_lookup there (.reach moves down rest), if_neg short, missing]
      exact .inl (if_neg (mt List.isEmpty_iff.mpr more)).symm
  | case9 => simp_all
  | case10 => exact .inr rfl
  | case11 place entries step rest there moves down _ short target found _ left nothing =>
      obtain ⟨links, rfl⟩ := Nat.exists_eq_add_of_lt fewer
      rw [follow_lookup there (.reach moves down rest), if_neg short]
      simp only [found, reduceCtorEq, and_false, ↓reduceIte, nothing, true_or]
  | case12 place entries step rest there moves down _ short target found _ left target' next =>
      rename_i ih
      obtain ⟨more, rfl⟩ := Nat.exists_eq_add_of_le fewer
      rw [Nat.succ_add, follow_lookup there (.reach moves down rest), if_neg short]
      simp only [found, reduceCtorEq, and_false, ↓reduceIte, target']
      exact ih (Nat.le_add_right left more)
  | case13 left place entries step rest there moves down _ short node plain found ih =>
      rw [follow_lookup there (.reach moves down rest), if_neg short]
      simp only [found]
      exact ih fewer
  | case14 left place node step rest other there =>
      exact .inl (follow_notADirectory there other).symm

/-! ## The names of a place -/

/-- Whether a name leads from a directory to its entry of that name. -/
structure IsStep (name : String) : Prop where
  entry : Path.IsEntryName name.toList
  short : (Utf8.bytes name).length ≤ maxNameLength

theorem IsStep.isLookup {name : String} (proper : IsStep name) {rest : List String}
    (allowed : ¬(purpose = .write ∧ rest = [slashStep])) : IsLookup purpose name rest := by
  refine ⟨?_, ?_, allowed⟩
  · rintro (rfl | rfl)
    · exact proper.entry.ne_current rfl
    · exact proper.entry.isName.1 rfl
  · rintro rfl
    exact proper.entry.ne_parent rfl

theorem IsLookup.isStep (lookup : IsLookup purpose step rest) (free : '/' ∉ step.toList)
    (short : (Utf8.bytes step).length ≤ maxNameLength) : IsStep step := by
  refine ⟨⟨⟨fun none => lookup.moves (.inr ?_), free⟩, fun current => lookup.moves (.inl ?_),
    fun parent => lookup.down ?_⟩, short⟩
  all_goals exact String.toList_inj.mp ‹_›

/-- Names in the directories of a tree are distinct, and each leads to its entry. -/
structure StepNamed (t : FileTree) : Prop extends t.WellNamed where
  isStep : ∀ {place entries}, t.at? place = some (.directory entries) → ∀ e ∈ entries, IsStep e.1

theorem StepNamed.file (content : List UInt8) : (FileTree.file content).StepNamed :=
  ⟨.file content, fun {place} _ there => by cases place <;> cases there⟩

theorem StepNamed.link (target : String) : (FileTree.link target).StepNamed :=
  ⟨.link target, fun {place} _ there => by cases place <;> cases there⟩

theorem StepNamed.directory {entries : List (String × FileTree)}
    (distinct : (entries.map Prod.fst).Nodup) (isStep : ∀ e ∈ entries, IsStep e.1)
    (below : ∀ e ∈ entries, e.2.StepNamed) : (FileTree.directory entries).StepNamed := by
  refine ⟨.directory distinct (fun e member => (isStep e member).entry.isName)
    fun e member => (below e member).toWellNamed, fun {place} inner there => ?_⟩
  cases place with
  | nil =>
      cases there
      exact isStep
  | cons name place =>
      obtain ⟨e, member, there⟩ := exists_entry_of_at? there
      exact (below e member).isStep there

theorem slash_not_mem_of_mem_pathSteps {path : String} (member : step ∈ pathSteps path) :
    '/' ∉ step.toList := by
  have plain : ∀ step ∈ ((Path.segments path.toList).filter (· ≠ [])).map String.ofList,
      '/' ∉ step.toList := by
    intro step member
    obtain ⟨segment, inside, rfl⟩ := List.mem_map.mp member
    rw [String.toList_ofList]
    have part := List.mem_of_mem_filter inside
    exact fun slash => by simpa using separates_of_mem_splitAt part '/' slash
  simp only [pathSteps] at member
  split at member
  · rcases List.mem_append.mp member with named | last
    · exact plain step named
    · rw [List.mem_singleton.mp last]
      decide
  · exact plain step member

/-- Steps lead to a place through names only. -/
theorem isStep_of_follow {node : FileTree} (before : ∀ name ∈ start, IsStep name)
    (free : ∀ step ∈ steps, '/' ∉ step.toList)
    (found : t.follow .reach links start steps = .ok (.found place node)) :
    ∀ name ∈ place, IsStep name := by
  fun_induction follow t .reach links start steps with
  | case2 =>
      cases found
      exact before
  | case3 links start entries step rest there stays ih =>
      exact ih before (List.forall_mem_cons.mp free).2 found
  | case4 links start entries rest there _ ih =>
      exact ih (fun name member => before name (List.mem_of_mem_dropLast member))
        (List.forall_mem_cons.mp free).2 found
  | case9 => simp_all
  | case12 start entries step rest there moves down _ short target _ _ links _ next ih =>
      refine ih ?_ (List.forall_mem_append.mpr
        ⟨fun _ => slash_not_mem_of_mem_pathSteps, (List.forall_mem_cons.mp free).2⟩) found
      dsimp only [next]
      split
      · exact List.forall_mem_nil _
      · exact before
  | case13 links start entries step rest there moves down _ short node plain _ ih =>
      obtain ⟨here, later⟩ := List.forall_mem_cons.mp free
      refine ih (List.forall_mem_append.mpr ⟨before, ?_⟩) later found
      rw [List.forall_mem_singleton]
      exact (IsLookup.reach moves down rest).isStep here (Nat.le_of_not_lt short)
  | _ => cases found

theorem isStep_of_vacant {parent : Place} {name : String} (free : ∀ step ∈ steps, '/' ∉ step.toList)
    (found : t.follow purpose links start steps = .ok (.vacant parent name)) :
    IsStep name ∧ ∃ entries, t.at? parent = some (.directory entries) ∧
      entries.lookup name = none := by
  fun_induction follow t purpose links start steps with
  | case3 links start entries step rest there stays ih =>
      exact ih (List.forall_mem_cons.mp free).2 found
  | case4 links start entries rest there _ ih =>
      exact ih (List.forall_mem_cons.mp free).2 found
  | case7 links start entries step rest there moves down allowed short missing last =>
      cases found
      have lookup : IsLookup purpose name rest := .of_not moves down allowed
      exact ⟨lookup.isStep (List.forall_mem_cons.mp free).1 (Nat.le_of_not_lt short), entries,
        there, missing⟩
  | case12 start entries step rest there moves down _ short target _ _ links _ next ih =>
      exact ih (List.forall_mem_append.mpr
        ⟨fun _ => slash_not_mem_of_mem_pathSteps, (List.forall_mem_cons.mp free).2⟩) found
  | case13 links start entries step rest there moves down _ short node plain _ ih =>
      exact ih (List.forall_mem_cons.mp free).2 found
  | _ => cases found

theorem at?_append (t : FileTree) (place further : Place) :
    t.at? (place ++ further) = (t.at? place).bind (·.at? further) := by
  induction place generalizing t with
  | nil => rfl
  | cons name place ih =>
      rw [List.cons_append, at?, at?]
      cases t.child? name with
      | none => rfl
      | some node => exact ih node

theorem lookup_eq_at? (there : t.at? place = some (.directory entries)) (step : String) :
    entries.lookup step = t.at? (place ++ [step]) := by
  rw [at?_append_name, there]
  rfl

/-- The names of a directory's place lead there, without a link on the way. -/
theorem follow_place (proper : ∀ name ∈ place, IsStep name)
    (there : t.at? (start ++ place) = some (.directory entries)) (rest : List String) :
    t.follow .reach links start (place ++ rest) =
      t.follow .reach links (start ++ place) rest := by
  induction place generalizing start with
  | nil => rw [List.append_nil, List.nil_append]
  | cons name place ih =>
      obtain ⟨here, later⟩ := List.forall_mem_cons.mp proper
      rw [List.append_cons] at there ⊢
      have whole := there
      rw [at?_append, at?_append_name] at there
      obtain ⟨node, child, below⟩ := Option.bind_eq_some_iff.mp there
      obtain ⟨parent, at_, found⟩ := Option.bind_eq_some_iff.mp child
      cases parent with
      | directory siblings =>
          have found : siblings.lookup name = some node := found
          have lookup : IsLookup .reach name (place ++ rest) := here.isLookup (nomatch ·.1)
          rw [List.cons_append, follow_lookup at_ lookup,
            if_neg (Nat.not_lt.mpr here.short), found]
          cases node with
          | link target => cases place <;> cases below
          | _ => exact ih later whole
      | _ => cases found

end MessageCatalog.FileTree
