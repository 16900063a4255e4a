import MessageCatalog.FileTree.Edit
import MessageCatalog.Proofs.FileTree.Join

/-! # Trees with one more file

What `put` does to a tree. A file that is made where nothing stood adds a name to one directory and
leaves everything else what it was, and names that were sound stay so.
-/

namespace MessageCatalog.FileTree

/-- Two things that are the same, or two directories. -/
inductive SameKind : FileTree → FileTree → Prop where
  | refl (node : FileTree) : SameKind node node
  | directory (entries entries' : List (String × FileTree)) :
    SameKind (.directory entries) (.directory entries')

/-- The same refusals, or the same place and what is of the same kind there. -/
inductive SameAt :
    Except OsError (Place × FileTree) → Except OsError (Place × FileTree) → Prop where
  | error (e : OsError) : SameAt (.error e) (.error e)
  | ok (place : Place) {node node' : FileTree} (kind : SameKind node node') :
    SameAt (.ok (place, node)) (.ok (place, node'))

/-- What stands somewhere before and after a file of some name was made in the directory at
`parent`. -/
inductive Kept (parent : Place) (name : String) (here : Place) :
    Option FileTree → Option FileTree → Prop where
  | same (node : Option FileTree) : Kept parent name here node node
  /-- A directory on the way to the file has the same names, but for the new one. -/
  | around {entries entries' : List (String × FileTree)}
    (names : entries'.map Prod.fst = entries.map Prod.fst ∨
      here = parent ∧ entries'.map Prod.fst = entries.map Prod.fst ++ [name]) :
    Kept parent name here (some (.directory entries)) (some (.directory entries'))

/-- Whether a tree is another one with a new file in the directory at `parent`. -/
structure Gains (parent : Place) (name : String) (content : List UInt8) (t t' : FileTree) :
    Prop where
  free : t.at? (parent ++ [name]) = none
  made : t'.at? (parent ++ [name]) = some (.file content)
  kept : ∀ here, here ≠ parent ++ [name] → Kept parent name here (t.at? here) (t'.at? here)

variable {t t' : FileTree} {parent place here : Place} {name step : String} {node node' : FileTree}
  {content : List UInt8} {entries : List (String × FileTree)}
  {found found' : Except OsError (Place × FileTree)}

theorem SameKind.symm (kind : SameKind node node') : SameKind node' node := by
  cases kind with
  | refl => exact .refl node
  | directory entries entries' => exact .directory entries' entries

theorem SameKind.trans {between : FileTree} (kind : SameKind node between)
    (kind' : SameKind between node') : SameKind node node' := by
  cases kind with
  | refl => exact kind'
  | directory entries entries' =>
      cases kind' with
      | refl => exact .directory entries entries'
      | directory _ entries'' => exact .directory entries entries''

theorem SameKind.eq (kind : SameKind node node') (other : ∀ entries, node ≠ .directory entries) :
    node' = node := by
  cases kind with
  | refl => rfl
  | directory entries => exact absurd rfl (other entries)

theorem SameKind.exists_directory (kind : SameKind (.directory entries) node) :
    ∃ entries', node = .directory entries' := by
  cases kind with
  | refl => exact ⟨entries, rfl⟩
  | directory _ entries' => exact ⟨entries', rfl⟩

theorem SameAt.symm (same : SameAt found found') : SameAt found' found := by
  cases same with
  | error e => exact .error e
  | ok place kind => exact .ok place kind.symm

theorem SameAt.exists_directory (same : SameAt (.ok (place, .directory entries)) found) :
    ∃ entries', found = .ok (place, .directory entries') := by
  cases same with
  | ok _ kind =>
      obtain ⟨entries', rfl⟩ := kind.exists_directory
      exact ⟨entries', rfl⟩

theorem SameAt.file (same : SameAt (.ok (place, .file content)) found) :
    found = .ok (place, .file content) := by
  cases same with
  | ok _ kind => rw [kind.eq nofun]

/-! ## Making a file -/

theorem at?_nil (t : FileTree) : t.at? [] = some t := rfl

theorem at?_directory_cons : (directory entries).at? (step :: place) =
    (entries.lookup step).bind (·.at? place) := by
  rw [at?, child?, FileTree.entries]
  cases entries.lookup step <;> rfl

theorem lookup_cons_eq_ite (first : String) (node : FileTree) (entries : List (String × FileTree))
    (other : String) : ((first, node) :: entries).lookup other =
      if other = first then some node else entries.lookup other := by
  rw [List.lookup_cons]
  split
  · rename_i same
    rw [if_pos (beq_iff_eq.mp same)]
  · rename_i differs
    rw [if_neg (beq_eq_false_iff_ne.mp differs)]

theorem lookup_setEntry (name : String) (node : FileTree) (entries : List (String × FileTree))
    (other : String) : (setEntry name node entries).lookup other =
      if other = name then some node else entries.lookup other := by
  induction entries with
  | nil => exact lookup_cons_eq_ite name node [] other
  | cons e entries ih =>
      obtain ⟨first, old⟩ := e
      rw [setEntry]
      split
      · rename_i same
        rw [lookup_cons_eq_ite, lookup_cons_eq_ite, same]
        split <;> rfl
      · rename_i differs
        rw [lookup_cons_eq_ite, lookup_cons_eq_ite, ih]
        split
        · rename_i here
          rw [if_neg (here ▸ differs)]
        · rfl

theorem names_setEntry_of_some {old : FileTree} (found : entries.lookup name = some old)
    (node : FileTree) : (setEntry name node entries).map Prod.fst = entries.map Prod.fst := by
  induction entries with
  | nil => cases found
  | cons e entries ih =>
      obtain ⟨first, old⟩ := e
      rw [setEntry]
      split
      · rename_i same
        rw [List.map_cons, List.map_cons, same]
      · rename_i differs
        rw [lookup_cons_eq_ite, if_neg (Ne.symm differs)] at found
        rw [List.map_cons, List.map_cons, ih found]

theorem names_setEntry_of_none (free : entries.lookup name = none) (node : FileTree) :
    (setEntry name node entries).map Prod.fst = entries.map Prod.fst ++ [name] := by
  induction entries with
  | nil => rfl
  | cons e entries ih =>
      obtain ⟨first, old⟩ := e
      rw [lookup_cons_eq_ite] at free
      rw [setEntry]
      split
      · rename_i same
        rw [if_pos same.symm] at free
        cases free
      · rename_i differs
        rw [if_neg (Ne.symm differs)] at free
        rw [List.map_cons, List.map_cons, ih free, List.cons_append]

theorem Kept.cons (step : String) {node node' : Option FileTree}
    (kept : Kept parent name here node node') :
    Kept (step :: parent) name (step :: here) node node' := by
  cases kept with
  | same => exact .same node
  | around names => exact .around (names.imp_right (And.imp_left (congrArg (step :: ·))))

/-- A file that is put in a directory stands there, and all else is kept, unless something else than
a file goes. -/
theorem kept_put (there : t.at? parent = some (.directory entries))
    (before : ∀ node, entries.lookup name = some node → ∃ old, node = .file old)
    (content : List UInt8) :
    (t.put (parent ++ [name]) (.file content)).at? (parent ++ [name]) = some (.file content) ∧
      ∀ here, here ≠ parent ++ [name] →
        Kept parent name here (t.at? here) ((t.put (parent ++ [name]) (.file content)).at? here) := by
  induction parent generalizing t with
  | nil =>
      cases there
      rw [List.nil_append, FileTree.put, FileTree.put]
      refine ⟨?_, fun here other => ?_⟩
      · rw [at?_directory_cons, lookup_setEntry, if_pos rfl, Option.bind_some, at?]
      · cases here with
        | nil =>
            cases found : entries.lookup name with
            | none => exact .around (.inr ⟨rfl, names_setEntry_of_none found _⟩)
            | some old => exact .around (.inl (names_setEntry_of_some found _))
        | cons step here =>
            rw [at?_directory_cons, at?_directory_cons, lookup_setEntry]
            split
            · rename_i same
              subst same
              obtain ⟨next, below, rfl⟩ := List.exists_cons_of_ne_nil (l := here)
                fun none => other (by rw [none])
              -- Nothing is below a file.
              cases found : entries.lookup step with
              | none => exact .same none
              | some node =>
                  obtain ⟨old, rfl⟩ := before node found
                  exact .same none
            · exact .same _
  | cons first parent ih =>
      cases t with
      | directory siblings =>
          rw [at?_directory_cons] at there
          obtain ⟨next, found, below⟩ := Option.bind_eq_some_iff.mp there
          obtain ⟨made, kept⟩ := ih below
          rw [List.cons_append, FileTree.put, found, Option.getD_some]
          have inside (place : Place) :
              (directory (setEntry first (next.put (parent ++ [name]) (.file content)) siblings)).at?
                (first :: place) = (next.put (parent ++ [name]) (.file content)).at? place := by
            rw [at?_directory_cons, lookup_setEntry, if_pos rfl, Option.bind_some]
          have inside' (place : Place) :
              (directory siblings).at? (first :: place) = next.at? place := by
            rw [at?_directory_cons, found, Option.bind_some]
          refine ⟨(inside _).trans made, fun here other => ?_⟩
          cases here with
          | nil => exact .around (.inl (names_setEntry_of_some found _))
          | cons step here =>
              by_cases same : step = first
              · subst same
                rw [inside, inside']
                exact (kept here fun whole => other (by rw [whole])).cons step
              · rw [at?_directory_cons, at?_directory_cons, lookup_setEntry, if_neg same]
                exact .same _
      | _ => cases there

theorem Gains.put (there : t.at? parent = some (.directory entries))
    (free : entries.lookup name = none) (content : List UInt8) :
    Gains parent name content t (t.put (parent ++ [name]) (.file content)) := by
  obtain ⟨made, kept⟩ := kept_put there (fun _ found => by cases free.symm.trans found) content
  exact ⟨(lookup_eq_at? there name).symm.trans free, made, kept⟩

theorem setEntry_setEntry (name : String) (node new : FileTree)
    (entries : List (String × FileTree)) :
    setEntry name new (setEntry name node entries) = setEntry name new entries := by
  induction entries with
  | nil => simp only [setEntry, ↓reduceIte]
  | cons e entries ih =>
      obtain ⟨first, old⟩ := e
      rw [setEntry]
      split
      · rename_i same
        rw [setEntry, setEntry, if_pos rfl, if_pos same]
      · rename_i differs
        rw [setEntry, setEntry, if_neg differs, if_neg differs, ih]

theorem put_put (t : FileTree) (place : Place) (node new : FileTree) :
    (t.put place node).put place new = t.put place new := by
  induction place generalizing t with
  | nil => simp only [put]
  | cons step place ih =>
      cases t with
      | directory entries =>
          rw [put, put, lookup_setEntry, if_pos rfl, Option.getD_some, ih, setEntry_setEntry, put]
      | _ => simp only [put]

theorem at?_put (there : t.at? place = some node) (new : FileTree) :
    (t.put place new).at? place = some new := by
  induction place generalizing t with
  | nil => rw [put, at?]
  | cons step place ih =>
      cases t with
      | directory entries =>
          rw [at?_directory_cons] at there
          obtain ⟨next, found, further⟩ := Option.bind_eq_some_iff.mp there
          rw [put, found, Option.getD_some, at?_directory_cons, lookup_setEntry, if_pos rfl,
            Option.bind_some, ih further]
      | _ => cases there

/-- What is put below a place is put into what stands there. -/
theorem put_append (there : t.at? place = some node) (rest : Place) (new : FileTree) :
    t.put (place ++ rest) new = t.put place (node.put rest new) := by
  induction place generalizing t with
  | nil =>
      cases there
      rw [List.nil_append, put]
  | cons step place ih =>
      cases t with
      | directory entries =>
          rw [at?_directory_cons] at there
          obtain ⟨next, found, further⟩ := Option.bind_eq_some_iff.mp there
          rw [List.cons_append, put, put, found, Option.getD_some, ih further]
      | _ => cases there

theorem erase_append (there : t.at? place = some node) {rest : Place} (some : rest ≠ []) :
    t.erase (place ++ rest) = t.put place (node.erase rest) := by
  induction place generalizing t with
  | nil =>
      cases there
      rw [List.nil_append, put]
  | cons step place ih =>
      cases t with
      | directory entries =>
          rw [at?_directory_cons] at there
          obtain ⟨next, found, further⟩ := Option.bind_eq_some_iff.mp there
          rw [List.cons_append, erase, put, found, Option.getD_some]
          · dsimp only
            rw [ih further]
          · simp [some]
      | _ => cases there

theorem Gains.append (gains : Gains parent name [] t (t.addEntry parent name (.file [])))
    (content : List UInt8) :
    (t.addEntry parent name (.file [])).append (parent ++ [name]) content =
      t.put (parent ++ [name]) (.file content) := by
  rw [FileTree.append, gains.made]
  exact put_put t (parent ++ [name]) (.file []) (.file content)

/-! ## Sound names -/

theorem mem_setEntry {e : String × FileTree} (member : e ∈ setEntry name node entries) :
    e = (name, node) ∨ e ∈ entries := by
  induction entries with
  | nil => exact .inl (List.mem_singleton.mp member)
  | cons first entries ih =>
      obtain ⟨other, old⟩ := first
      rw [setEntry] at member
      split at member
      · exact (List.mem_cons.mp member).imp_right (.tail _)
      · rcases List.mem_cons.mp member with rfl | later
        · exact .inr List.mem_cons_self
        · exact (ih later).imp_right (.tail _)

theorem StepNamed.entry (names : (FileTree.directory entries).StepNamed) {e : String × FileTree}
    (member : e ∈ entries) : e.2.StepNamed := by
  have below (place : Place) : (FileTree.directory entries).at? (e.1 :: place) = e.2.at? place := by
    rw [at?_directory_cons, lookup_of_mem (names.distinct (at?_nil _)) member,
      Option.bind_some]
  exact ⟨⟨fun there => names.distinct ((below _).trans there),
    fun there => names.proper ((below _).trans there)⟩,
    fun there => names.isStep ((below _).trans there)⟩

theorem StepNamed.setEntry (names : (FileTree.directory entries).StepNamed) (isStep : IsStep name)
    (below : node.StepNamed) :
    (FileTree.directory (FileTree.setEntry name node entries)).StepNamed := by
  have distinct := names.distinct (at?_nil _)
  have named : ∀ e ∈ FileTree.setEntry name node entries, IsStep e.1 ∧ e.2.StepNamed := by
    intro e member
    rcases mem_setEntry member with rfl | member
    · exact ⟨isStep, below⟩
    · exact ⟨names.isStep (at?_nil _) e member, names.entry member⟩
  refine .directory ?_ (fun e member => (named e member).1) fun e member => (named e member).2
  cases found : entries.lookup name with
  | some old =>
      rw [names_setEntry_of_some found]
      exact distinct
  | none =>
      rw [names_setEntry_of_none found, List.nodup_append]
      refine ⟨distinct, List.nodup_singleton name, fun other among _ last same => ?_⟩
      obtain ⟨e, member, rfl⟩ := List.mem_map.mp among
      rw [← List.mem_singleton.mp last, ← same, lookup_of_mem distinct member] at found
      cases found

theorem StepNamed.put (names : t.StepNamed) (there : t.at? parent = some (.directory entries))
    (isStep : IsStep name) (below : node.StepNamed) :
    (t.put (parent ++ [name]) node).StepNamed := by
  induction parent generalizing t with
  | nil =>
      cases there
      rw [List.nil_append, FileTree.put, FileTree.put]
      exact names.setEntry isStep below
  | cons first parent ih =>
      cases t with
      | directory siblings =>
          rw [at?_directory_cons] at there
          obtain ⟨next, found, inside⟩ := Option.bind_eq_some_iff.mp there
          have member := mem_of_lookup found
          rw [List.cons_append, FileTree.put, found, Option.getD_some]
          exact names.setEntry (names.isStep (at?_nil _) _ member)
            (ih (names.entry member) inside)
      | _ => cases there

end MessageCatalog.FileTree
