import MessageCatalog.Proofs.FileTree.Filled

/-! # Files to write to beside a new file

Opening a file to write to does the same with a new file elsewhere and without it, unless the path
leads to the new file or through it. What is written then leaves the trees apart in the new file
alone.
-/

namespace MessageCatalog.FileTree

/-- Whether two trees differ in a new file alone, and hold the same at a place to write to. -/
structure Outlets (new : Place) (content : List UInt8) (out : Place) (t t' : FileTree) :
    Prop where
  filled : Filled new content t t'
  free : t.at? new = none
  names : t.StepNamed
  names' : t'.StepNamed
  same : t'.at? out = t.at? out

/-- What becomes of a file to write to without and with a new file. -/
inductive OpensAlike (new : Place) (content : List UInt8) :
    Except OsError (FileTree × Place) → Except OsError (FileTree × Place) → Prop where
  | error (e : OsError) : OpensAlike new content (.error e) (.error e)
  /-- The new file is no directory. -/
  | beyond : OpensAlike new content (.error .notFound) (.error .notADirectory)
  /-- The new file is the one to write to. -/
  | itself (made : FileTree) : OpensAlike new content (.ok (made, new)) (.ok (made, new))
  | beside {made made' : FileTree} {out : Place} (outlets : Outlets new content out made made') :
    OpensAlike new content (.ok (made, out)) (.ok (made', out))

variable {t t' : FileTree} {new out place parent : Place} {name cwd path : String} {node : FileTree}
  {content old : List UInt8} {entries : List (String × FileTree)}

theorem at?_of_locate {purpose : Purpose}
    (found : t.locate purpose cwd path = .ok (.found place node)) : t.at? place = some node := by
  have look : t.look purpose cwd path = .ok (place, node) := by rw [look, found]
  exact at?_of_look look

/-- A file to be made is missing in a directory. -/
theorem isStep_of_locate {purpose : Purpose}
    (missing : t.locate purpose cwd path = .ok (.vacant parent name)) :
    IsStep name ∧ ∃ entries, t.at? parent = some (.directory entries) ∧
      entries.lookup name = none := by
  rw [locate] at missing
  split at missing
  · cases missing
  · exact isStep_of_vacant (fun _ => slash_not_mem_of_mem_pathSteps) missing

theorem Filled.put_free (there : t.at? parent = some (.directory entries))
    (free : entries.lookup name = none) (content : List UInt8) :
    Filled (parent ++ [name]) content t (t.put (parent ++ [name]) (.file content)) :=
  .put_entry there (fun _ found => (nomatch free.symm.trans found)) content

theorem StepNamed.put_file (names : t.StepNamed) (there : t.at? place = some (.file old))
    (inside : place ≠ []) (content : List UInt8) : (t.put place (.file content)).StepNamed := by
  obtain ⟨parent, name, entries, rfl, holds, found⟩ := exists_parent there inside
  exact names.put holds (names.isStep holds _ (mem_of_lookup found)) (.file content)

/-! ## Writing -/

theorem append_of_file (there : t.at? place = some (.file old)) (bytes : List UInt8) :
    t.append place bytes = t.put place (.file (old ++ bytes)) := by
  rw [append, there]

theorem append_of_no_file (other : ∀ old, t.at? place ≠ some (.file old)) (bytes : List UInt8) :
    t.append place bytes = t := by
  rw [append]
  split
  · exact absurd ‹_› (other _)
  · rfl

theorem Filled.ne_nil (filled : Filled new content t t') (there : t.at? place = some (.file old)) :
    place ≠ [] := by
  rintro rfl
  cases there
  obtain ⟨step, below, rfl⟩ := List.exists_cons_of_ne_nil filled.inside
  obtain ⟨_, there', kind⟩ := filled.at?_of_some (List.cons_ne_nil _ _).symm (at?_nil _)
  cases there'
  cases kind.eq nofun ▸ filled.made

namespace Outlets

variable (outlets : Outlets new content out t t')
include outlets

theorem ne : out ≠ new := by
  rintro rfl
  cases (outlets.filled.made.symm.trans outlets.same).trans outlets.free

/-- Bytes are added to the same file in both trees, or to none. -/
theorem append_cases (bytes : List UInt8) :
    (t.append out bytes = t ∧ t'.append out bytes = t') ∨
      ∃ old, t.at? out = some (.file old) ∧ t'.at? out = some (.file old) ∧
        Filled out (old ++ bytes) t (t.append out bytes) ∧
        Filled out (old ++ bytes) t' (t'.append out bytes) := by
  by_cases file : ∃ old, t.at? out = some (.file old)
  · obtain ⟨old, there⟩ := file
    have there' := outlets.same.trans there
    have inside := outlets.filled.ne_nil there
    refine .inr ⟨old, there, there', ?_, ?_⟩
    · rw [append_of_file there]
      exact .put_file there inside _
    · rw [append_of_file there']
      exact .put_file there' inside _
  · have other := not_exists.mp file
    exact .inl ⟨append_of_no_file other bytes,
      append_of_no_file (fun old there' => other old (outlets.same.symm.trans there')) bytes⟩

theorem append (bytes : List UInt8) :
    Outlets new content out (t.append out bytes) (t'.append out bytes) := by
  rcases outlets.append_cases bytes with ⟨same, same'⟩ | ⟨old, there, there', left, right⟩
  · rw [same, same']
    exact outlets
  · have inside := outlets.filled.ne_nil there
    refine ⟨outlets.filled.commute outlets.ne left right,
      left.at?_of_none outlets.ne.symm outlets.free, ?_, ?_, right.made.trans left.made.symm⟩
    · rw [append_of_file there]
      exact outlets.names.put_file there inside _
    · rw [append_of_file there']
      exact outlets.names'.put_file there' inside _

end Outlets

/-! ## Opening -/

theorem createFile_vacant {base : String}
    (directory : t.stat cwd base = .ok (place, .directory entries)) (proper : IsStep name)
    (free : entries.lookup name = none) (sound : pathFault? (Path.join base name) = none) :
    t.createFile cwd (Path.join base name) =
      .ok (t.addEntry place name (.file []), place ++ [name]) := by
  rw [createFile, locate_vacant directory proper free sound]

/-- With a new file and without it, the same file is opened to write to. -/
theorem opensAlike (names : t.StepNamed) (there : t.at? parent = some (.directory entries))
    (free : entries.lookup name = none) (isStep : IsStep name) (content : List UInt8)
    (cwd path : String) :
    OpensAlike (parent ++ [name]) content (t.createFile cwd path)
      ((t.put (parent ++ [name]) (.file content)).createFile cwd path) := by
  have filled := Filled.put_free there free content
  have names' : (t.put (parent ++ [name]) (.file content)).StepNamed :=
    names.put there isStep (.file content)
  have vacant : t.at? (parent ++ [name]) = none := (lookup_eq_at? there name).symm.trans free
  have fills := filled.locate .write cwd path
  have again := put_put t (parent ++ [name]) (.file content) (.file [])
  generalize t.put (parent ++ [name]) (.file content) = t' at *
  generalize parent ++ [name] = new at *
  rw [createFile, createFile]
  generalize located : t.locate .write cwd path = target,
    located' : t'.locate .write cwd path = target' at fills
  cases fills with
  | error e => exact .error e
  | beyond => exact .beyond
  | found place node node' =>
      have there := at?_of_locate located
      have there' := at?_of_locate located'
      have apart : place ≠ new := fun same => by cases (same ▸ vacant).symm.trans there
      obtain ⟨_, there'', kind⟩ := filled.at?_of_some apart there
      cases there'.symm.trans there''
      cases node with
      | file old =>
          obtain rfl := kind.eq nofun
          have inside := filled.ne_nil there
          have left := Filled.put_file there inside []
          have right := Filled.put_file there' inside []
          exact .beside ⟨filled.commute apart left right, left.at?_of_none apart.symm vacant,
            names.put_file there inside [], names'.put_file there' inside [],
            right.made.trans left.made.symm⟩
      | directory entries =>
          obtain ⟨entries', rfl⟩ := kind.exists_directory
          exact .error _
      | _ =>
          obtain rfl := kind.eq nofun
          exact .beside ⟨filled, vacant, names, names', there'.trans there.symm⟩
  | @vacant parent name other =>
      obtain ⟨isStep, entries, holds, free⟩ := isStep_of_locate located
      obtain ⟨_, entries', holds', free'⟩ := isStep_of_locate located'
      have left := Filled.put_free holds free []
      have right := Filled.put_free holds' free' []
      exact .beside ⟨filled.commute other left right, left.at?_of_none other.symm vacant,
        names.put holds isStep (.file []), names'.put holds' isStep (.file []),
        right.made.trans left.made.symm⟩
  | made _ here =>
      dsimp only
      rw [addEntry, here, again]
      exact .itself _

end MessageCatalog.FileTree
