import MessageCatalog.NameFilter
import MessageCatalog.Proofs.FileTree.Gains

/-! # Trees that differ in ignored entries

An entry is ignored if its name is accepted neither for a file nor for a directory. Adding such an
entry somewhere in a tree, putting something else in its place and removing it all lead to a tree
that agrees with the old one.
-/

namespace MessageCatalog

/-- Whether a filter accepts a name neither for a file nor for a directory. -/
def NameFilter.Ignores (filter : NameFilter) (name : String) : Prop :=
  filter.acceptsFile name = false ∧ filter.acceptsDir name = false

theorem NameFilter.not_ignores_of_file {filter : NameFilter} {name : String}
    (accepted : filter.acceptsFile name = true) : ¬filter.Ignores name :=
  fun ignored => Bool.false_ne_true (ignored.1.symm.trans accepted)

theorem NameFilter.not_ignores_of_dir {filter : NameFilter} {name : String}
    (accepted : filter.acceptsDir name = true) : ¬filter.Ignores name :=
  fun ignored => Bool.false_ne_true (ignored.2.symm.trans accepted)

namespace FileTree

/-- Entries of two directories that differ in ignored ones alone, here or further below. -/
inductive Agree (filter : NameFilter) :
    List (String × FileTree) → List (String × FileTree) → Prop where
  | nil : Agree filter [] []
  | same {e entries entries'} (rest : Agree filter entries entries') :
    Agree filter (e :: entries) (e :: entries')
  | inside {name inner inner' entries entries'} (below : Agree filter inner inner')
    (rest : Agree filter entries entries') :
    Agree filter ((name, .directory inner) :: entries) ((name, .directory inner') :: entries')
  | left {e entries entries'} (ignored : filter.Ignores e.1)
    (rest : Agree filter entries entries') : Agree filter (e :: entries) entries'
  | right {e entries entries'} (ignored : filter.Ignores e.1)
    (rest : Agree filter entries entries') : Agree filter entries (e :: entries')

/-- Two things of which one is the other but for what it holds in ignored entries. -/
inductive AgreeNode (filter : NameFilter) : FileTree → FileTree → Prop where
  | refl (node : FileTree) : AgreeNode filter node node
  | directory {entries entries'} (below : Agree filter entries entries') :
    AgreeNode filter (.directory entries) (.directory entries')

/-- The same refusals, or the same place and what agrees there. -/
inductive AgreeAt (filter : NameFilter) :
    Except OsError (Place × FileTree) → Except OsError (Place × FileTree) → Prop where
  | error (e : OsError) : AgreeAt filter (.error e) (.error e)
  | ok (place : Place) {node node' : FileTree} (agree : AgreeNode filter node node') :
    AgreeAt filter (.ok (place, node)) (.ok (place, node'))

variable {filter : NameFilter}

namespace Agree

variable {entries entries' inner inner' : List (String × FileTree)} {name : String}

theorem refl (filter : NameFilter) (entries : List (String × FileTree)) :
    Agree filter entries entries := by
  induction entries with
  | nil => exact .nil
  | cons e entries ih => exact .same ih

theorem symm (h : Agree filter entries entries') : Agree filter entries' entries := by
  induction h with
  | nil => exact .nil
  | same rest ih => exact .same ih
  | inside below rest ihBelow ih => exact .inside ihBelow ih
  | left ignored rest ih => exact .right ignored ih
  | right ignored rest ih => exact .left ignored ih

theorem exists_of_mem (h : Agree filter entries entries') {e : String × FileTree}
    (member : e ∈ entries) (heeded : ¬filter.Ignores e.1) :
    ∃ node, (e.1, node) ∈ entries' ∧ AgreeNode filter e.2 node := by
  induction h with
  | nil => cases member
  | same rest ih =>
      rcases List.mem_cons.mp member with rfl | later
      · exact ⟨e.2, List.mem_cons_self, .refl e.2⟩
      · exact (ih later).imp fun _ => And.imp_left (.tail _)
  | inside below rest ihBelow ih =>
      rcases List.mem_cons.mp member with rfl | later
      · exact ⟨_, List.mem_cons_self, .directory below⟩
      · exact (ih later).imp fun _ => And.imp_left (.tail _)
  | left ignored rest ih =>
      rcases List.mem_cons.mp member with rfl | later
      · exact absurd ignored heeded
      · exact ih later
  | right ignored rest ih => exact (ih member).imp fun _ => And.imp_left (.tail _)

theorem setEntry (ignored : filter.Ignores name) (node : FileTree)
    (entries : List (String × FileTree)) :
    Agree filter entries (FileTree.setEntry name node entries) := by
  induction entries with
  | nil => exact .right ignored .nil
  | cons e entries ih =>
      obtain ⟨other, old⟩ := e
      rw [FileTree.setEntry]
      split
      · rename_i same
        -- The old entry goes and the new one comes: two changes of ignored entries.
        exact .left (same ▸ ignored) (.right ignored (refl filter entries))
      · exact .same ih

theorem eraseEntry (ignored : filter.Ignores name) (entries : List (String × FileTree)) :
    Agree filter entries (FileTree.eraseEntry name entries) := by
  induction entries with
  | nil => exact .nil
  | cons e entries ih =>
      rw [FileTree.eraseEntry, List.filter_cons]
      split
      · exact .same ih
      · rename_i same
        have named : e.1 = name := by simpa using same
        exact .left (named ▸ ignored) ih

theorem setDirectory (found : entries.lookup name = some (.directory inner))
    (below : Agree filter inner inner') :
    Agree filter entries (FileTree.setEntry name (.directory inner') entries) := by
  induction entries with
  | nil => cases found
  | cons e entries ih =>
      obtain ⟨other, old⟩ := e
      rw [FileTree.setEntry]
      split
      · rename_i same
        subst same
        rw [List.lookup_cons_self] at found
        cases found
        exact .inside below (refl filter entries)
      · rename_i differs
        refine .same (ih ?_)
        rwa [List.lookup_cons, beq_false_of_ne (Ne.symm differs)] at found

theorem put_directory {place : Place}
    (there : (FileTree.directory entries).at? place = some (.directory inner))
    (below : Agree filter inner inner') :
    ∃ after, (FileTree.directory entries).put place (.directory inner') = .directory after ∧
      Agree filter entries after := by
  induction place generalizing entries with
  | nil =>
      cases there
      exact ⟨inner', by rw [put], below⟩
  | cons step place ih =>
      rw [at?_directory_cons] at there
      obtain ⟨between, found, further⟩ := Option.bind_eq_some_iff.mp there
      cases between with
      | directory between =>
          obtain ⟨after, puts, agree⟩ := ih further
          refine ⟨FileTree.setEntry step (.directory after) entries, ?_, setDirectory found agree⟩
          rw [put, found, Option.getD_some, puts]
      | _ => cases place <;> cases further

/-- Adding an ignored entry somewhere in a directory, putting something else in its place, or
removing it. -/
theorem of_change {t t' : FileTree} {place below : Place} (ignored : filter.Ignores name)
    (directory : t.at? place = some (.directory entries))
    (there : t.at? (place ++ below) = some (.directory inner))
    (change : t' = t.erase (place ++ below ++ [name]) ∨
      ∃ node, t' = t.put (place ++ below ++ [name]) node) :
    ∃ entries', t'.at? place = some (.directory entries') ∧ Agree filter entries entries' := by
  have there' : (FileTree.directory entries).at? below = some (.directory inner) := by
    rwa [at?_append, directory, Option.bind_some] at there
  have changed : ∃ inner', Agree filter inner inner' ∧
      t' = t.put place ((FileTree.directory entries).put below (.directory inner')) := by
    rcases change with rfl | ⟨node, rfl⟩
    · refine ⟨_, eraseEntry ignored inner, ?_⟩
      rw [List.append_assoc, erase_append directory (by simp), erase_append there' (by simp), erase]
    · refine ⟨_, setEntry ignored node inner, ?_⟩
      rw [List.append_assoc, put_append directory, put_append there', put, put]
  obtain ⟨inner', agree, rfl⟩ := changed
  obtain ⟨after, puts, agree⟩ := put_directory there' agree
  exact ⟨after, puts ▸ at?_put directory _, agree⟩

end Agree

theorem AgreeNode.symm {node node' : FileTree} (h : AgreeNode filter node node') :
    AgreeNode filter node' node := by
  cases h with
  | refl => exact .refl node
  | directory below => exact .directory below.symm

theorem AgreeAt.symm {found found' : Except OsError (Place × FileTree)}
    (h : AgreeAt filter found found') : AgreeAt filter found' found := by
  cases h with
  | error e => exact .error e
  | ok place agree => exact .ok place agree.symm

theorem AgreeAt.directory {place : Place} {entries : List (String × FileTree)}
    {found : Except OsError (Place × FileTree)}
    (h : AgreeAt filter (.ok (place, .directory entries)) found) :
    ∃ entries', found = .ok (place, .directory entries') ∧ Agree filter entries entries' := by
  cases h with
  | ok place agree =>
      cases agree with
      | refl => exact ⟨entries, rfl, Agree.refl filter entries⟩
      | directory below => exact ⟨_, rfl, below⟩

theorem AgreeAt.file {place : Place} {content : List UInt8}
    {found : Except OsError (Place × FileTree)}
    (h : AgreeAt filter (.ok (place, .file content)) found) :
    found = .ok (place, .file content) := by
  cases h with
  | ok place agree =>
      cases agree
      rfl

end FileTree

end MessageCatalog
