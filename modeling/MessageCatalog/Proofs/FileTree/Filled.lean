import MessageCatalog.Proofs.FileTree.Gains

/-! # Trees that differ in one file

A file is made, or takes other bytes, and all else stays of the kind that it was. Steps lead to the
same places as before then, unless the file was missing: steps that ended at its name find it, and
steps that were to go on from there are refused because it is no directory.
-/

namespace MessageCatalog.FileTree

/-- Whether a tree is another one with a file at a place where nothing or another file stood. -/
structure Filled (new : Place) (content : List UInt8) (t t' : FileTree) : Prop where
  inside : new ≠ []
  made : t'.at? new = some (.file content)
  before : ∀ node, t.at? new = some node → ∃ old, node = .file old
  kept : ∀ here, here ≠ new → Option.Rel SameKind (t.at? here) (t'.at? here)

/-- What steps come to before and after a file was filled. -/
inductive Fills (t : FileTree) (new : Place) (content : List UInt8) :
    Except OsError Target → Except OsError Target → Prop where
  | error (e : OsError) : Fills t new content (.error e) (.error e)
  | found (place : Place) (node node' : FileTree) :
    Fills t new content (.ok (.found place node)) (.ok (.found place node'))
  | vacant {parent : Place} {name : String} (other : parent ++ [name] ≠ new) :
    Fills t new content (.ok (.vacant parent name)) (.ok (.vacant parent name))
  | made {parent : Place} {name : String} (free : t.at? new = none)
    (here : parent ++ [name] = new) :
    Fills t new content (.ok (.vacant parent name)) (.ok (.found new (.file content)))
  | beyond (free : t.at? new = none) :
    Fills t new content (.error .notFound) (.error .notADirectory)

variable {t t' u u' : FileTree} {new other place here start : Place} {node node' : FileTree}
  {content old : List UInt8} {entries entries' : List (String × FileTree)} {cwd path step : String}
  {steps : List String}

/-! ## Things of the same kind, or none -/

theorem rel_refl (node : Option FileTree) : Option.Rel SameKind node node := by
  cases node with
  | none => exact .none
  | some node => exact .some (.refl node)

theorem rel_symm {before after : Option FileTree} (kept : Option.Rel SameKind before after) :
    Option.Rel SameKind after before := by
  cases kept with
  | none => exact .none
  | some kind => exact .some kind.symm

theorem rel_trans {before between after : Option FileTree}
    (first : Option.Rel SameKind before between) (second : Option.Rel SameKind between after) :
    Option.Rel SameKind before after := by
  cases first with
  | none => exact second
  | some kind =>
      cases second with
      | some kind' => exact .some (kind.trans kind')

/-! ## Filling a file -/

theorem Kept.rel {parent : Place} {name : String} {before after : Option FileTree}
    (kept : Kept parent name here before after) : Option.Rel SameKind before after := by
  cases kept with
  | same => exact rel_refl _
  | around names => exact .some (.directory _ _)

theorem Filled.put_entry {parent : Place} {name : String}
    (there : t.at? parent = some (.directory entries))
    (before : ∀ node, entries.lookup name = some node → ∃ old, node = .file old)
    (content : List UInt8) :
    Filled (parent ++ [name]) content t (t.put (parent ++ [name]) (.file content)) := by
  obtain ⟨made, kept⟩ := kept_put there before content
  refine ⟨by simp, made, fun node found => before node ?_,
    fun here other => (kept here other).rel⟩
  rw [lookup_eq_at? there, found]

theorem exists_parent (there : t.at? place = some node) (inside : place ≠ []) :
    ∃ parent name entries, place = parent ++ [name] ∧
      t.at? parent = some (.directory entries) ∧ entries.lookup name = some node := by
  rcases List.eq_nil_or_concat place with rfl | ⟨parent, name, rfl⟩
  · exact absurd rfl inside
  · rw [List.concat_eq_append, at?_append_name] at there
    obtain ⟨above, holds, child⟩ := Option.bind_eq_some_iff.mp there
    cases above with
    | directory entries => exact ⟨parent, name, entries, List.concat_eq_append, holds, child⟩
    | _ => cases child

theorem Filled.put_file (there : t.at? place = some (.file old)) (inside : place ≠ [])
    (content : List UInt8) : Filled place content t (t.put place (.file content)) := by
  obtain ⟨parent, name, entries, rfl, holds, found⟩ := exists_parent there inside
  refine .put_entry holds (fun node found' => ⟨old, ?_⟩) content
  exact Option.some.inj (found'.symm.trans found)

namespace Filled

theorem of_gains {parent : Place} {name : String} (gains : Gains parent name content t t') :
    Filled (parent ++ [name]) content t t' :=
  ⟨by simp, gains.made, fun _ there => (nomatch gains.free.symm.trans there),
    fun here other => (gains.kept here other).rel⟩

variable (filled : Filled new content t t')
include filled

theorem symm (there : t.at? new = some (.file old)) : Filled new old t' t :=
  ⟨filled.inside, there, fun _ after => ⟨content, Option.some.inj (after.symm.trans filled.made)⟩,
    fun here other => rel_symm (filled.kept here other)⟩

/-- Trees differ in one file still when the same is put in a file elsewhere. -/
theorem commute {bytes : List UInt8} (apart : other ≠ new) (left : Filled other bytes t u)
    (right : Filled other bytes t' u') : Filled new content u u' := by
  refine ⟨filled.inside, ?_, fun node there => ?_, fun here elsewhere => ?_⟩
  · have kept := right.kept new apart.symm
    rw [filled.made] at kept
    generalize u'.at? new = after at kept
    cases kept with
    | some kind => rw [kind.eq nofun]
  · have kept := left.kept new apart.symm
    rw [there] at kept
    generalize before : t.at? new = first at kept
    cases kept with
    | some kind =>
        obtain ⟨old, rfl⟩ := filled.before _ before
        exact ⟨old, kind.eq nofun⟩
  · by_cases same : here = other
    · rw [same, left.made, right.made]
      exact rel_refl _
    · exact rel_trans (rel_symm (left.kept here same))
        (rel_trans (filled.kept here elsewhere) (right.kept here same))

/-! ## What stands where it stood -/

theorem at?_of_some (apart : here ≠ new) (there : t.at? here = some node) :
    ∃ node', t'.at? here = some node' ∧ SameKind node node' := by
  have kept := filled.kept here apart
  rw [there] at kept
  generalize t'.at? here = after at kept
  cases kept with
  | some kind => exact ⟨_, rfl, kind⟩

theorem at?_of_none (apart : here ≠ new) (nothing : t.at? here = none) : t'.at? here = none := by
  have kept := filled.kept here apart
  rw [nothing] at kept
  generalize t'.at? here = after at kept
  cases kept
  rfl

theorem exists_at? (there : t.at? here = some node) : ∃ node', t'.at? here = some node' := by
  by_cases same : here = new
  · exact ⟨_, same ▸ filled.made⟩
  · obtain ⟨node', there', _⟩ := filled.at?_of_some same there
    exact ⟨node', there'⟩

theorem not_prefix (there : t.at? place = some (.directory entries)) : ¬new <+: place := by
  rintro ⟨more, rfl⟩
  rw [at?_append] at there
  obtain ⟨node, there, below⟩ := Option.bind_eq_some_iff.mp there
  obtain ⟨old, rfl⟩ := filled.before node there
  cases more <;> cases below

theorem directory (there : t.at? here = some (.directory entries)) :
    ∃ entries', t'.at? here = some (.directory entries') := by
  have apart : here ≠ new := fun same => filled.not_prefix there (same ▸ List.prefix_rfl)
  obtain ⟨node', there', kind⟩ := filled.at?_of_some apart there
  obtain ⟨entries', rfl⟩ := kind.exists_directory
  exact ⟨entries', there'⟩

theorem exists_directory (there' : t'.at? here = some (.directory entries')) :
    ∃ entries, t.at? here = some (.directory entries) := by
  have apart : here ≠ new := fun same => by cases (same ▸ filled.made).symm.trans there'
  have kept := filled.kept here apart
  rw [there'] at kept
  generalize t.at? here = before at kept
  cases kept with
  | some kind =>
      obtain ⟨entries, rfl⟩ := kind.symm.exists_directory
      exact ⟨entries, rfl⟩

theorem lookup (there : t.at? place = some (.directory entries))
    (there' : t'.at? place = some (.directory entries')) (step : String) :
    place ++ [step] = new ∧ entries'.lookup step = some (.file content) ∧
        (∀ node, entries.lookup step = some node → ∃ old, node = .file old) ∨
      place ++ [step] ≠ new ∧ Option.Rel SameKind (entries.lookup step) (entries'.lookup step) := by
  rw [lookup_eq_at? there, lookup_eq_at? there']
  by_cases here : place ++ [step] = new
  · rw [here]
    exact .inl ⟨rfl, filled.made, filled.before⟩
  · exact .inr ⟨here, filled.kept _ here⟩

theorem lookup_link (there : t.at? place = some (.directory entries))
    (there' : t'.at? place = some (.directory entries')) {target : String}
    (found : entries.lookup step = some (.link target)) :
    entries'.lookup step = some (.link target) := by
  rcases filled.lookup there there' step with ⟨_, _, before⟩ | ⟨_, kept⟩
  · obtain ⟨_, file⟩ := before _ found
    cases file
  · rw [found] at kept
    generalize entries'.lookup step = after at kept ⊢
    cases kept with
    | some kind => rw [kind.eq nofun]

/-! ## Taking steps -/

/-- Steps from somewhere lead where they led, but for the file. -/
theorem follow (purpose : Purpose) (links : Nat) (apart : start ≠ new) (steps : List String) :
    Fills t new content (t.follow purpose links start steps)
      (t'.follow purpose links start steps) := by
  fun_induction FileTree.follow t purpose links start steps with
  | case1 links place steps nothing =>
      rw [follow_nowhere (filled.at?_of_none apart nothing)]
      exact .error _
  | case2 links place node there =>
      obtain ⟨node', there', _⟩ := filled.at?_of_some apart there
      rw [follow_nil there']
      exact .found _ _ _
  | case3 links place entries step rest there stays ih =>
      obtain ⟨entries', there'⟩ := filled.directory there
      rw [follow_stays there' (by simpa using stays)]
      exact ih apart
  | case4 links place entries rest there _ ih =>
      obtain ⟨entries', there'⟩ := filled.directory there
      rw [follow_up there']
      exact ih fun same => filled.not_prefix there (same ▸ List.dropLast_prefix place)
  | case5 links place entries step rest there moves down refused =>
      obtain ⟨entries', there'⟩ := filled.directory there
      simp only [Bool.and_eq_true, decide_eq_true_eq] at refused
      obtain ⟨rfl, rfl⟩ := refused
      rw [follow_refused there' (by simpa using moves) down]
      exact .error _
  | case6 links place entries step rest there moves down allowed long =>
      obtain ⟨entries', there'⟩ := filled.directory there
      rw [follow_lookup there' (.of_not moves down allowed), if_pos long]
      exact .error _
  | case7 links place entries step rest there moves down allowed short missing last =>
      obtain ⟨entries', there'⟩ := filled.directory there
      obtain rfl := List.isEmpty_iff.mp last
      rw [follow_lookup there' (.of_not moves down allowed), if_neg short]
      rcases filled.lookup there there' step with ⟨rfl, found, _⟩ | ⟨apart, kept⟩
      · rw [found]
        simp only [follow_nil filled.made]
        exact .made ((lookup_eq_at? there step).symm.trans missing) rfl
      · rw [missing] at kept
        generalize entries'.lookup step = after at kept
        cases kept
        exact .vacant apart
  | case8 links place entries step rest there moves down allowed short missing more =>
      obtain ⟨entries', there'⟩ := filled.directory there
      obtain ⟨next, rest, rfl⟩ := List.exists_cons_of_ne_nil (mt List.isEmpty_iff.mpr more)
      rw [follow_lookup there' (.of_not moves down allowed), if_neg short]
      rcases filled.lookup there there' step with ⟨rfl, found, _⟩ | ⟨apart, kept⟩
      · rw [found]
        simp only [follow_file filled.made]
        exact .beyond ((lookup_eq_at? there step).symm.trans missing)
      · rw [missing] at kept
        generalize entries'.lookup step = after at kept
        cases kept
        exact .error _
  | case9 links place entries step rest there moves down allowed short target found last =>
      obtain ⟨entries', there'⟩ := filled.directory there
      rw [follow_lookup there' (.of_not moves down allowed), if_neg short,
        filled.lookup_link there there' found]
      simp only [Bool.and_eq_true, List.isEmpty_iff, decide_eq_true_eq] at last
      simp only [last, and_self, ↓reduceIte]
      exact .found _ _ _
  | case10 place entries step rest there moves down allowed short target found last =>
      obtain ⟨entries', there'⟩ := filled.directory there
      rw [follow_lookup there' (.of_not moves down allowed), if_neg short,
        filled.lookup_link there there' found]
      simp only [Bool.and_eq_true, List.isEmpty_iff, decide_eq_true_eq] at last
      simp only [last, ↓reduceIte]
      exact .error _
  | case11 place entries step rest there moves down allowed short target found last links
      nothing =>
      obtain ⟨entries', there'⟩ := filled.directory there
      rw [follow_lookup there' (.of_not moves down allowed), if_neg short,
        filled.lookup_link there there' found]
      simp only [Bool.and_eq_true, List.isEmpty_iff, decide_eq_true_eq] at last
      simp only [last, ↓reduceIte, nothing]
      exact .error _
  | case12 place entries step rest there moves down allowed short target found last links target'
      next ih =>
      obtain ⟨entries', there'⟩ := filled.directory there
      rw [follow_lookup there' (.of_not moves down allowed), if_neg short,
        filled.lookup_link there there' found]
      simp only [Bool.and_eq_true, List.isEmpty_iff, decide_eq_true_eq] at last
      simp only [last, ↓reduceIte, target']
      refine ih fun same => filled.not_prefix there ?_
      rw [← same]
      dsimp only [next]
      split
      · exact List.nil_prefix
      · exact List.prefix_rfl
  | case13 links place entries step rest there moves down allowed short node plain found ih =>
      obtain ⟨entries', there'⟩ := filled.directory there
      rw [follow_lookup there' (.of_not moves down allowed), if_neg short]
      rcases filled.lookup there there' step with ⟨rfl, found', before⟩ | ⟨apart, kept⟩
      · -- The file itself: no step leads on from it, whatever bytes it has.
        obtain ⟨old, rfl⟩ := before node found
        have there := (lookup_eq_at? there step).symm.trans found
        rw [found']
        cases rest with
        | nil =>
            rw [follow_nil there]
            simp only [follow_nil filled.made]
            exact .found _ _ _
        | cons next rest =>
            rw [follow_file there]
            simp only [follow_file filled.made]
            exact .error _
      · rw [found] at kept
        generalize entries'.lookup step = after at kept
        cases kept with
        | @some _ node' kind =>
            cases node' with
            | link target => exact absurd (kind.symm.eq (by simp)) (plain target)
            | _ => exact ih apart
  | case14 links place node step rest other there =>
      obtain ⟨node', there', kind⟩ := filled.at?_of_some apart there
      rw [follow_notADirectory there' (by rw [kind.eq other]; exact other)]
      exact .error _

theorem follow_path (purpose : Purpose) (cwd path : String) : Fills t new content
    (t.follow purpose maxLinks [] (pathSteps (Path.join cwd path)))
    (t'.follow purpose maxLinks [] (pathSteps (Path.join cwd path))) :=
  filled.follow purpose maxLinks filled.inside.symm _

theorem locate (purpose : Purpose) (cwd path : String) :
    Fills t new content (t.locate purpose cwd path) (t'.locate purpose cwd path) := by
  rw [FileTree.locate, FileTree.locate]
  cases pathFault? path with
  | some e => exact .error e
  | none => exact filled.follow_path purpose cwd path

theorem stat_place (found : t.stat cwd path = .ok (place, node)) :
    ∃ node', t'.stat cwd path = .ok (place, node') := by
  have fills := filled.follow_path .reach cwd path
  rw [follow_of_stat found] at fills
  rw [stat_eq_reached (pathFault?_of_stat found)]
  generalize t'.follow .reach maxLinks [] (pathSteps (Path.join cwd path)) = target at fills
  cases fills with
  | found place node node' => exact ⟨node', rfl⟩

theorem stat_directory (found : t.stat cwd path = .ok (place, .directory entries)) :
    ∃ entries', t'.stat cwd path = .ok (place, .directory entries') := by
  obtain ⟨node', found'⟩ := filled.stat_place found
  obtain ⟨entries', there'⟩ := filled.directory (at?_of_look found)
  cases (at?_of_look found').symm.trans there'
  exact ⟨entries', found'⟩

theorem exists_stat_directory
    (found' : t'.stat cwd path = .ok (place, .directory entries')) :
    ∃ entries, t.stat cwd path = .ok (place, .directory entries) := by
  have fills := filled.follow_path .reach cwd path
  rw [follow_of_stat found'] at fills
  rw [stat_eq_reached (pathFault?_of_stat found')]
  generalize followed : t.follow .reach maxLinks [] (pathSteps (Path.join cwd path)) = target
    at fills
  cases fills with
  | found place node =>
      obtain ⟨entries, there⟩ := filled.exists_directory (at?_of_look found')
      cases (at?_of_follow followed).symm.trans there
      exact ⟨entries, rfl⟩

/-- A path that leads to something leads there with the new file still. -/
theorem stat (free : t.at? new = none)
    (found : t.stat cwd path = .ok (place, node)) :
    ∃ node', t'.stat cwd path = .ok (place, node') ∧ SameKind node node' := by
  obtain ⟨node', found'⟩ := filled.stat_place found
  have there := at?_of_look found
  have apart : place ≠ new := fun same => by cases (same ▸ free).symm.trans there
  obtain ⟨_, there', kind⟩ := filled.at?_of_some apart there
  cases (at?_of_look found').symm.trans there'
  exact ⟨node', found', kind⟩

/-- What fails to be reached still fails in the same way when a file takes other bytes. -/
theorem stat_error {e : OsError} (there : t.at? new = some (.file old))
    (fails : t.stat cwd path = .error e) : t'.stat cwd path = .error e := by
  cases fault : pathFault? path with
  | some e =>
      rw [stat_of_pathFault? fault] at fails ⊢
      exact fails
  | none =>
      have fills := filled.follow_path .reach cwd path
      rw [stat_eq_reached fault] at fails ⊢
      generalize t.follow .reach maxLinks [] (pathSteps (Path.join cwd path)) = target,
        t'.follow .reach maxLinks [] (pathSteps (Path.join cwd path)) = target' at fills fails ⊢
      cases fills with
      | error => exact fails
      | vacant => exact fails
      | found => cases fails
      | made free => cases free.symm.trans there
      | beyond free => cases free.symm.trans there

end Filled

end MessageCatalog.FileTree
