import MessageCatalog.Proofs.Listing.Order

/-! # Listings of what a walk sees

`Sight.Leads` says which names lead where, through directories whose names are accepted. A listing
is exact for the accepted files and the obstacles that names lead to in this way, if all directories
have their entries in order.
-/

namespace MessageCatalog

namespace Sight

/-- Entries in the order of their names, here and in all directories below. -/
inductive Ordered : List (String × Sight) → Prop where
  | intro {entries : List (String × Sight)}
    (here : entries.Pairwise fun a b => Utf8.bytes a.1 < Utf8.bytes b.1)
    (below : ∀ name children, (name, .directory children) ∈ entries → Ordered children) :
    Ordered entries

/-- Where names lead, through directories whose names are accepted. -/
inductive Leads (filter : NameFilter) :
    List (String × Sight) → List String → String → Sight → Prop where
  | here {entries name sight} (member : (name, sight) ∈ entries) :
    Leads filter entries [] name sight
  | inside {entries dir children dirs name sight} (member : (dir, .directory children) ∈ entries)
    (accepted : filter.acceptsDir dir = true) (leads : Leads filter children dirs name sight) :
    Leads filter entries (dir :: dirs) name sight

/-- What blocks the way of a walk, and why. A directory that cannot be opened only does if it would
be entered. -/
inductive Blocks (filter : NameFilter) (name path : String) : Sight → Cause → Prop where
  | unresolved {e : OsError} : Blocks filter name path (.unresolved e) (.entry path e)
  | loop {ancestor : String} : Blocks filter name path (.loop ancestor) (.loop path ancestor)
  | unopened {e : OsError} (accepted : filter.acceptsDir name = true) :
    Blocks filter name path (.unopened e) (.entry path e)

/-- Whether names lead to a file that is accepted. -/
def IsFile (filter : NameFilter) (entries : List (String × Sight)) (names : List String) : Prop :=
  ∃ dirs name, names = dirs ++ [name] ∧ Leads filter entries dirs name .file ∧
    filter.acceptsFile name = true

def IsObstacle (filter : NameFilter) (path : String) (entries : List (String × Sight))
    (names : List String) (cause : Cause) : Prop :=
  ∃ dirs name sight, names = dirs ++ [name] ∧ Leads filter entries dirs name sight ∧
    Blocks filter name (Path.below path names) sight cause

section Entries

variable {filter : NameFilter} {name : String} {sight : Sight}
  {entries children : List (String × Sight)}

theorem leads_cons {dirs : List String} {last : String} {found : Sight} :
    Leads filter ((name, sight) :: entries) dirs last found ↔
      Leads filter [(name, sight)] dirs last found ∨ Leads filter entries dirs last found := by
  constructor
  · intro leads
    cases leads with
    | here member =>
        rcases List.mem_cons.mp member with head | tail
        · exact .inl (.here (List.mem_singleton.mpr head))
        · exact .inr (.here tail)
    | inside member accepted leads =>
        rcases List.mem_cons.mp member with head | tail
        · exact .inl (.inside (List.mem_singleton.mpr head) accepted leads)
        · exact .inr (.inside tail accepted leads)
  · rintro (leads | leads)
    · cases leads with
      | here member => exact .here (List.mem_cons.mpr (.inl (List.mem_singleton.mp member)))
      | inside member accepted leads =>
          exact .inside (List.mem_cons.mpr (.inl (List.mem_singleton.mp member))) accepted leads
    · cases leads with
      | here member => exact .here (.tail _ member)
      | inside member accepted leads => exact .inside (.tail _ member) accepted leads

theorem isFile_cons {names : List String} :
    IsFile filter ((name, sight) :: entries) names ↔
      IsFile filter [(name, sight)] names ∨ IsFile filter entries names := by
  constructor
  · rintro ⟨dirs, last, same, leads, accepted⟩
    exact (leads_cons.mp leads).imp (⟨dirs, last, same, ·, accepted⟩)
      (⟨dirs, last, same, ·, accepted⟩)
  · rintro (⟨dirs, last, same, leads, accepted⟩ | ⟨dirs, last, same, leads, accepted⟩)
    · exact ⟨dirs, last, same, leads_cons.mpr (.inl leads), accepted⟩
    · exact ⟨dirs, last, same, leads_cons.mpr (.inr leads), accepted⟩

theorem isObstacle_cons {path : String} {names : List String} {cause : Cause} :
    IsObstacle filter path ((name, sight) :: entries) names cause ↔
      IsObstacle filter path [(name, sight)] names cause ∨
        IsObstacle filter path entries names cause := by
  constructor
  · rintro ⟨dirs, last, found, same, leads, blocks⟩
    exact (leads_cons.mp leads).imp (⟨dirs, last, found, same, ·, blocks⟩)
      (⟨dirs, last, found, same, ·, blocks⟩)
  · rintro (⟨dirs, last, found, same, leads, blocks⟩ | ⟨dirs, last, found, same, leads, blocks⟩)
    · exact ⟨dirs, last, found, same, leads_cons.mpr (.inl leads), blocks⟩
    · exact ⟨dirs, last, found, same, leads_cons.mpr (.inr leads), blocks⟩

theorem leads_leaf (leaf : ∀ children, sight ≠ .directory children) {dirs : List String}
    {last : String} {found : Sight} :
    Leads filter [(name, sight)] dirs last found ↔ dirs = [] ∧ last = name ∧ found = sight := by
  constructor
  · intro leads
    cases leads with
    | here member =>
        cases List.mem_singleton.mp member
        exact ⟨rfl, rfl, rfl⟩
    | inside member =>
        cases List.mem_singleton.mp member
        exact absurd rfl (leaf _)
  · rintro ⟨rfl, rfl, rfl⟩
    exact .here List.mem_cons_self

theorem isFile_leaf (leaf : ∀ children, sight ≠ .directory children) {names : List String} :
    IsFile filter [(name, sight)] names ↔
      names = [name] ∧ sight = .file ∧ filter.acceptsFile name = true := by
  simp only [IsFile, leads_leaf leaf]
  constructor
  · rintro ⟨_, _, rfl, ⟨rfl, rfl, same⟩, accepted⟩
    exact ⟨rfl, same.symm, accepted⟩
  · rintro ⟨rfl, rfl, accepted⟩
    exact ⟨[], name, rfl, ⟨rfl, rfl, rfl⟩, accepted⟩

theorem isObstacle_leaf (leaf : ∀ children, sight ≠ .directory children) {path : String}
    {names : List String} {cause : Cause} :
    IsObstacle filter path [(name, sight)] names cause ↔
      names = [name] ∧ Blocks filter name (Path.join path name) sight cause := by
  simp only [IsObstacle, leads_leaf leaf]
  constructor
  · rintro ⟨_, _, _, rfl, ⟨rfl, rfl, rfl⟩, blocks⟩
    exact ⟨rfl, blocks⟩
  · rintro ⟨rfl, blocks⟩
    exact ⟨[], name, sight, rfl, ⟨rfl, rfl, rfl⟩, blocks⟩

theorem isFile_directory {names : List String} :
    IsFile filter [(name, .directory children)] names ↔ filter.acceptsDir name = true ∧
      ∃ rest, names = name :: rest ∧ IsFile filter children rest := by
  constructor
  · rintro ⟨dirs, last, rfl, leads, isFile⟩
    cases leads with
    | here member => cases List.mem_singleton.mp member
    | inside member accepted leads =>
        cases List.mem_singleton.mp member
        exact ⟨accepted, _, rfl, _, last, rfl, leads, isFile⟩
  · rintro ⟨accepted, _, rfl, dirs, last, rfl, leads, isFile⟩
    exact ⟨name :: dirs, last, rfl, .inside List.mem_cons_self accepted leads, isFile⟩

theorem isObstacle_directory {path : String} {names : List String} {cause : Cause} :
    IsObstacle filter path [(name, .directory children)] names cause ↔
      filter.acceptsDir name = true ∧
        ∃ rest, names = name :: rest ∧
          IsObstacle filter (Path.join path name) children rest cause := by
  constructor
  · rintro ⟨dirs, last, found, rfl, leads, blocks⟩
    cases leads with
    | here member =>
        cases List.mem_singleton.mp member
        cases blocks
    | inside member accepted leads =>
        cases List.mem_singleton.mp member
        exact ⟨accepted, _, rfl, _, last, found, rfl, leads, blocks⟩
  · rintro ⟨accepted, _, rfl, dirs, last, found, rfl, leads, blocks⟩
    exact ⟨name :: dirs, last, found, rfl, .inside List.mem_cons_self accepted leads, blocks⟩

theorem Leads.exists_cons {dirs : List String} {last : String} {found : Sight}
    (leads : Leads filter entries dirs last found) :
    ∃ entry ∈ entries, ∃ rest, dirs ++ [last] = entry.1 :: rest := by
  cases leads with
  | here member => exact ⟨_, member, [], rfl⟩
  | inside member => exact ⟨_, member, _, rfl⟩

theorem exists_cons_of_found (path : String) {names : List String}
    (found : IsFile filter entries names ∨ ∃ cause, IsObstacle filter path entries names cause) :
    ∃ entry ∈ entries, ∃ rest, names = entry.1 :: rest := by
  rcases found with ⟨_, _, rfl, leads, _⟩ | ⟨_, _, _, _, rfl, leads, _⟩ <;> exact leads.exists_cons

end Entries

end Sight

namespace Listing

open Sight

variable {filter : NameFilter} {path name : String} {sight : Sight}

theorem exact_skipped (leaf : ∀ children, sight ≠ .directory children)
    (skipped : ¬(sight = .file ∧ filter.acceptsFile name = true))
    (clear : ∀ cause, ¬Blocks filter name (Path.join path name) sight cause) :
    Exact path (IsFile filter [(name, sight)]) (IsObstacle filter path [(name, sight)])
      Listing.empty := by
  refine .empty (fun names isFile => ?_) fun names cause blocks => ?_
  · exact skipped ((isFile_leaf leaf).mp isFile).2
  · exact clear cause ((isObstacle_leaf leaf).mp blocks).2

theorem exact_blocked {cause : Cause} (leaf : ∀ children, sight ≠ .directory children)
    (notFile : sight ≠ .file)
    (only : ∀ other, Blocks filter name (Path.join path name) sight other ↔ other = cause) :
    Exact path (IsFile filter [(name, sight)]) (IsObstacle filter path [(name, sight)])
      (Listing.failed (Path.join path name) cause) := by
  refine .failed (fun names isFile => ?_) fun names other => ?_
  · exact notFile ((isFile_leaf leaf).mp isFile).2.1
  · rw [isObstacle_leaf leaf, only]

theorem exact_file (accepted : filter.acceptsFile name = true) :
    Exact path (IsFile filter [(name, .file)]) (IsObstacle filter path [(name, .file)])
      (Listing.file (Path.join path name)) := by
  have leaf : ∀ children, Sight.file ≠ .directory children := fun _ same => by cases same
  refine .single (fun names => ?_) fun names cause blocks => ?_
  · rw [isFile_leaf leaf]
    exact ⟨And.left, fun same => ⟨same, rfl, accepted⟩⟩
  · cases ((isObstacle_leaf leaf).mp blocks).2

theorem exact_directory {children : List (String × Sight)} {listing : Listing}
    (accepted : filter.acceptsDir name = true)
    (inner : Exact (Path.join path name) (IsFile filter children)
      (IsObstacle filter (Path.join path name) children) listing) :
    Exact path (IsFile filter [(name, .directory children)])
      (IsObstacle filter path [(name, .directory children)]) listing := by
  refine inner.inside.congr (fun names => ?_) fun names cause => ?_
  · rw [isFile_directory, and_iff_right accepted]
  · rw [isObstacle_directory, and_iff_right accepted]

theorem exact_closed {children : List (String × Sight)} (rejected : filter.acceptsDir name ≠ true) :
    Exact path (IsFile filter [(name, .directory children)])
      (IsObstacle filter path [(name, .directory children)]) Listing.empty := by
  refine .empty (fun names isFile => ?_) fun names cause blocks => ?_
  · exact rejected (isFile_directory.mp isFile).1
  · exact rejected (isObstacle_directory.mp blocks).1

theorem exact_cons {entries : List (String × Sight)} {first later : Listing}
    (before : ∀ entry ∈ entries, Utf8.bytes name < Utf8.bytes entry.1)
    (head : Exact path (IsFile filter [(name, sight)]) (IsObstacle filter path [(name, sight)])
      first)
    (rest : Exact path (IsFile filter entries) (IsObstacle filter path entries) later) :
    Exact path (IsFile filter ((name, sight) :: entries))
      (IsObstacle filter path ((name, sight) :: entries)) (first.append later) := by
  refine (head.append rest fun a b inFirst inRest => ?_).congr (fun _ => isFile_cons.symm)
    fun _ _ => isObstacle_cons.symm
  obtain ⟨entry, member, _, rfl⟩ := exists_cons_of_found path inFirst
  obtain ⟨other, member', _, rfl⟩ := exists_cons_of_found path inRest
  obtain rfl := List.mem_singleton.mp member
  exact Before.cons_iff.mpr (.inl (before other member'))

/-- The listing of entries in order is exact for the accepted files and the obstacles that names
lead to from them. -/
theorem exact_ofEntries (path : String) (entries : List (String × Sight))
    (ordered : Ordered entries) :
    Exact path (IsFile filter entries) (IsObstacle filter path entries)
      (ofEntries filter path entries) := by
  -- By recursion on the entries, and on those of a directory that is entered.
  match entries with
  | [] =>
      rw [ofEntries]
      refine .empty (fun names found => ?_) fun names cause found => ?_
      · obtain ⟨_, none, _⟩ := exists_cons_of_found path (.inl found)
        cases none
      · obtain ⟨_, none, _⟩ := exists_cons_of_found path (.inr ⟨cause, found⟩)
        cases none
  | (name, sight) :: entries =>
      obtain ⟨here, below⟩ := ordered
      obtain ⟨first, later⟩ := List.pairwise_cons.mp here
      have rest := exact_ofEntries path entries
        ⟨later, fun other children member => below other children (.tail _ member)⟩
      cases sight with
      | file =>
          rw [ofEntries]
          refine exact_cons first ?_ rest
          split
          · rename_i accepted
            exact exact_file accepted
          · rename_i rejected
            exact exact_skipped (by simp) (fun h => rejected h.2) fun _ blocks => by cases blocks
      | special =>
          rw [ofEntries]
          have skipped : ¬(Sight.special = .file ∧ filter.acceptsFile name = true) := by simp
          refine exact_cons first (exact_skipped (by simp) skipped fun _ blocks => ?_) rest
          cases blocks
      | directory children =>
          rw [ofEntries]
          refine exact_cons first ?_ rest
          split
          · rename_i accepted
            have inner := exact_ofEntries (Path.join path name) children
              (below name children List.mem_cons_self)
            exact exact_directory accepted inner
          · rename_i rejected
            exact exact_closed rejected
      | unopened e =>
          rw [ofEntries]
          refine exact_cons first ?_ rest
          split
          · rename_i accepted
            refine exact_blocked (by simp) (by simp) fun other => ⟨fun blocks => ?_, ?_⟩
            · cases blocks
              rfl
            · rintro rfl
              exact .unopened accepted
          · rename_i rejected
            refine exact_skipped (by simp) (by simp) fun cause blocks => ?_
            cases blocks with
            | unopened accepted => exact rejected accepted
      | unresolved e =>
          rw [ofEntries]
          refine exact_cons first
            (exact_blocked (by simp) (by simp) fun other => ⟨fun blocks => ?_, ?_⟩) rest
          · cases blocks
            rfl
          · rintro rfl
            exact .unresolved
      | loop ancestor =>
          rw [ofEntries]
          refine exact_cons first
            (exact_blocked (by simp) (by simp) fun other => ⟨fun blocks => ?_, ?_⟩) rest
          · cases blocks
            rfl
          · rintro rfl
            exact .loop
termination_by sizeOf entries

end Listing

end MessageCatalog
