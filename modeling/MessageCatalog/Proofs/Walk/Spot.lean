import MessageCatalog.Proofs.Listing.Entries

/-! # Where a walk stands

A `Spot` is what a walk comes to under a path, with the directories that it is inside of then. What
the walk sees there follows from the tree alone: `Seen` has one rule for each outcome, so that
nothing else opens `Walk.sight`. `Leads` and `Blocks` say the same of spots as `Sight.Leads` and
`Sight.Blocks` say of what is seen there.
-/

namespace MessageCatalog.Walk

/-- Something that a walk comes to, and the directories that it is inside of then, the nearest
first. -/
structure Spot where
  path : String
  place : Place
  node : FileTree
  inside : List Ancestor

namespace Spot

/-- What stands at a spot once links are followed, and its place. -/
def followed (t : FileTree) (cwd : String) (s : Spot) : Except OsError (Place × FileTree) :=
  match s.node with
  | .link _ => t.stat cwd s.path
  | node => .ok (s.place, node)

/-- An entry of the directory at `place` that a spot leads to. -/
def entry (s : Spot) (place : Place) (e : String × FileTree) : Spot :=
  ⟨Path.join s.path e.1, place ++ [e.1], e.2, ⟨place, s.path⟩ :: s.inside⟩

def IsFile (t : FileTree) (cwd : String) (s : Spot) : Prop :=
  ∃ place content, s.followed t cwd = .ok (place, .file content)

/-- Where names lead from a spot, through directories whose names are accepted and with all links on
the way followed. -/
inductive Leads (t : FileTree) (cwd : String) (filter : NameFilter) :
    Spot → List String → String → Spot → Prop where
  | here {s : Spot} {place entries e} (opens : s.followed t cwd = .ok (place, .directory entries))
    (member : e ∈ entries) : Leads t cwd filter s [] e.1 (s.entry place e)
  | inside {s : Spot} {place entries e dirs name found}
    (opens : s.followed t cwd = .ok (place, .directory entries)) (member : e ∈ entries)
    (accepted : filter.acceptsDir e.1 = true)
    (leads : Leads t cwd filter (s.entry place e) dirs name found) :
    Leads t cwd filter s (e.1 :: dirs) name found

/-- What blocks the way at a spot of some name: a link that leads nowhere, or to a directory that
the walk is inside of, and a directory that would be entered and cannot be opened. -/
inductive Blocks (t : FileTree) (cwd : String) (filter : NameFilter) (name : String) (s : Spot) :
    Cause → Prop where
  | unresolved {target e} (link : s.node = .link target) (fails : t.stat cwd s.path = .error e) :
    Blocks t cwd filter name s (.entry s.path e)
  | loop {target place entries ancestor} (link : s.node = .link target)
    (leads : t.stat cwd s.path = .ok (place, .directory entries))
    (inside : s.inside.find? (·.place = place) = some ancestor) :
    Blocks t cwd filter name s (.loop s.path ancestor.path)
  | unopened {entries e} (directory : s.node = .directory entries)
    (accepted : filter.acceptsDir name = true) (fault : FileTree.pathFault? s.path = some e) :
    Blocks t cwd filter name s (.entry s.path e)

def sight (t : FileTree) (cwd : String) (s : Spot) : Sight :=
  Walk.sight t cwd s.inside s.path s.place s.node

/-- What a walk sees in the directory at `place` that a spot leads to. -/
def sights (t : FileTree) (cwd : String) (s : Spot) (place : Place)
    (entries : List (String × FileTree)) : List (String × Sight) :=
  Sight.sortEntries (entries.map fun e => (e.1, (s.entry place e).sight t cwd))

/-- What a walk can see at a spot. -/
inductive Seen (t : FileTree) (cwd : String) (s : Spot) : Sight → Prop where
  | file (isFile : s.IsFile t cwd) : Seen t cwd s .file
  | special {place node} (leads : s.followed t cwd = .ok (place, node))
    (noFile : ∀ content, node ≠ .file content)
    (noDirectory : ∀ entries, node ≠ .directory entries) : Seen t cwd s .special
  | directory {place entries} (opens : s.followed t cwd = .ok (place, .directory entries))
    (clear : ∀ filter name cause, ¬s.Blocks t cwd filter name cause) :
    Seen t cwd s (.directory (s.sights t cwd place entries))
  | unopened {entries e} (directory : s.node = .directory entries)
    (fault : FileTree.pathFault? s.path = some e) : Seen t cwd s (.unopened e)
  | unresolved {target e} (link : s.node = .link target) (fails : t.stat cwd s.path = .error e) :
    Seen t cwd s (.unresolved e)
  | loop {target place entries ancestor} (link : s.node = .link target)
    (leads : t.stat cwd s.path = .ok (place, .directory entries))
    (inside : s.inside.find? (·.place = place) = some ancestor) :
    Seen t cwd s (.loop ancestor.path)

variable {t : FileTree} {cwd : String} {filter : NameFilter}

theorem followed_link {s : Spot} {target : String} (link : s.node = .link target) :
    s.followed t cwd = t.stat cwd s.path := by
  simp only [followed, link]

theorem followed_directory {s : Spot} {entries : List (String × FileTree)}
    (directory : s.node = .directory entries) :
    s.followed t cwd = .ok (s.place, .directory entries) := by
  simp only [followed, directory]

theorem sights_attach (s : Spot) (place : Place) (entries : List (String × FileTree)) :
    Sight.sortEntries (entries.attach.map fun ⟨(name, child), _⟩ =>
      (name, Walk.sight t cwd (⟨place, s.path⟩ :: s.inside) (Path.join s.path name)
        (place ++ [name]) child)) = s.sights t cwd place entries :=
  congrArg Sight.sortEntries
    (List.attach_map_val (f := fun e => (e.1, (s.entry place e).sight t cwd)))

theorem seen_sight (t : FileTree) (cwd : String) (s : Spot) : Seen t cwd s (s.sight t cwd) := by
  obtain ⟨path, place, node, inside⟩ := s
  cases node with
  | file content =>
      rw [sight, Walk.sight]
      exact .file ⟨place, content, rfl⟩
  | special =>
      rw [sight, Walk.sight]
      exact .special rfl (by simp) (by simp)
  | full =>
      rw [sight, Walk.sight]
      exact .special rfl (by simp) (by simp)
  | directory entries =>
      rw [sight, Walk.sight]
      split
      · rename_i e fault
        exact .unopened rfl fault
      · rename_i opened
        rw [sights_attach ⟨path, place, .directory entries, inside⟩ place entries]
        refine .directory rfl fun filter name cause blocks => ?_
        cases blocks with
        | unresolved link => cases link
        | loop link => cases link
        | unopened directory accepted fault => cases opened.symm.trans fault
  | link target =>
      rw [sight, Walk.sight]
      split
      · rename_i e fails
        exact .unresolved rfl fails
      · rename_i place entries leads
        split
        · rename_i ancestor found
          exact .loop rfl leads found
        · rename_i outside
          rw [sights_attach ⟨path, place, .link target, inside⟩ place entries]
          refine .directory leads fun filter name cause blocks => ?_
          cases blocks with
          | unresolved link fails => cases leads.symm.trans fails
          | loop link leads' inside =>
              cases leads.symm.trans leads'
              cases outside.symm.trans inside
          | unopened directory => cases directory
      · rename_i place content leads
        exact .file ⟨place, content, leads⟩
      · rename_i place node noDirectory noFile leads
        exact .special leads noFile noDirectory

theorem sight_eq_file {s : Spot} : s.sight t cwd = .file ↔ s.IsFile t cwd := by
  have seen := seen_sight t cwd s
  generalize s.sight t cwd = sight at seen
  constructor
  · rintro rfl
    cases seen with
    | file isFile => exact isFile
  · rintro ⟨place, content, leads⟩
    cases seen with
    | file => rfl
    | special leads' noFile =>
        cases leads.symm.trans leads'
        exact absurd rfl (noFile content)
    | directory opens => cases leads.symm.trans opens
    | unopened directory => cases leads.symm.trans (followed_directory directory)
    | unresolved link fails => cases (leads.symm.trans (followed_link link)).trans fails
    | loop link leads' => cases (leads.symm.trans (followed_link link)).trans leads'

theorem Blocks.followed {s : Spot} {name : String} {cause : Cause}
    (blocks : s.Blocks t cwd filter name cause) :
    (∃ e, s.followed t cwd = .error e) ∨
      ∃ place entries, s.followed t cwd = .ok (place, .directory entries) := by
  cases blocks with
  | unresolved link fails => exact .inl ⟨_, (followed_link link).trans fails⟩
  | loop link leads => exact .inr ⟨_, _, (followed_link link).trans leads⟩
  | unopened directory => exact .inr ⟨_, _, followed_directory directory⟩

/-- A walk sees an obstacle where the way is blocked. -/
theorem blocks_sight {s : Spot} {name : String} {cause : Cause} :
    Sight.Blocks filter name s.path (s.sight t cwd) cause ↔ s.Blocks t cwd filter name cause := by
  have seen := seen_sight t cwd s
  generalize s.sight t cwd = sight at seen
  constructor
  · intro blocks
    cases blocks with
    | unresolved =>
        cases seen with
        | unresolved link fails => exact .unresolved link fails
    | loop =>
        cases seen with
        | loop link leads inside => exact .loop link leads inside
    | unopened accepted =>
        cases seen with
        | unopened directory fault => exact .unopened directory accepted fault
  · intro blocks
    cases seen with
    | file isFile =>
        obtain ⟨place, content, leads⟩ := isFile
        rcases blocks.followed with ⟨_, fails⟩ | ⟨_, _, opens⟩
        · cases leads.symm.trans fails
        · cases leads.symm.trans opens
    | special leads noFile noDirectory =>
        rcases blocks.followed with ⟨_, fails⟩ | ⟨_, _, opens⟩
        · cases leads.symm.trans fails
        · cases leads.symm.trans opens
          exact absurd rfl (noDirectory _)
    | directory opens clear => exact absurd blocks (clear filter name cause)
    | unopened directory fault =>
        cases blocks with
        | unresolved link => cases directory.symm.trans link
        | loop link => cases directory.symm.trans link
        | unopened _ accepted fault' =>
            cases fault.symm.trans fault'
            exact .unopened accepted
    | unresolved link fails =>
        cases blocks with
        | unresolved _ fails' =>
            cases fails.symm.trans fails'
            exact .unresolved
        | loop _ leads => cases fails.symm.trans leads
        | unopened directory => cases directory.symm.trans link
    | loop link leads inside =>
        cases blocks with
        | unresolved _ fails => cases fails.symm.trans leads
        | loop _ leads' inside' =>
            cases leads.symm.trans leads'
            cases inside.symm.trans inside'
            exact .loop
        | unopened directory => cases directory.symm.trans link

end Spot

end MessageCatalog.Walk
