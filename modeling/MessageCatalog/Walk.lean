import MessageCatalog.FileTree.Locate

/-! # Walks

What a walk down from a root finds, with all links followed. A link that leads nowhere, one that
leads back to a directory the walk is inside of, and a directory whose path is too long to be opened
block the way.
-/

namespace MessageCatalog

/-- What a walk finds under a name. -/
inductive Sight where
  | file
  | special
  /-- A directory, its entries ordered by the bytes of their names. -/
  | directory (entries : List (String × Sight))
  /-- A directory that cannot be opened. -/
  | unopened (e : OsError)
  /-- A link that leads nowhere. -/
  | unresolved (e : OsError)
  /-- A link to a directory that the walk is inside of, which it reached by the path `ancestor`. -/
  | loop (ancestor : String)
  deriving Repr

namespace Sight

/-- Whether the bytes of a name come no later than those of another. -/
def nameLe (a b : String) : Bool := !List.lex (Utf8.bytes b) (Utf8.bytes a)

def sortEntries (entries : List (String × Sight)) : List (String × Sight) :=
  entries.mergeSort fun a b => nameLe a.1 b.1

end Sight

namespace Walk

/-- A directory that a walk is inside of. -/
structure Ancestor where
  place : Place
  path : String
  deriving Repr, DecidableEq

/-- The number of places that a walk is not inside of. -/
def outsideAmong (places : List Place) (ancestors : List Ancestor) : Nat :=
  (places.filter fun place => !ancestors.any (·.place = place)).length

/-- The number of directories of a tree that a walk is not inside of. -/
def outside (t : FileTree) (ancestors : List Ancestor) : Nat := outsideAmong t.directories ancestors

theorem outsideAmong_cons_le (places : List Place) (ancestors : List Ancestor) (a : Ancestor) :
    outsideAmong places (a :: ancestors) ≤ outsideAmong places ancestors := by
  unfold outsideAmong
  induction places with
  | nil => simp
  | cons place places ih =>
    simp only [List.filter_cons, List.any_cons, Bool.not_or, Bool.and_eq_true]
    split <;> split <;> simp_all
    omega

theorem outsideAmong_cons_lt {places : List Place} {ancestors : List Ancestor} {a : Ancestor}
    (hmem : a.place ∈ places) (hnew : ancestors.any (·.place = a.place) = false) :
    outsideAmong places (a :: ancestors) < outsideAmong places ancestors := by
  induction places with
  | nil => cases hmem
  | cons place places ih =>
    have hle := outsideAmong_cons_le places ancestors a
    have hlt (h : a.place ∈ places) := ih h
    simp only [outsideAmong, List.filter_cons, List.any_cons, Bool.not_or] at hle hlt ⊢
    by_cases heq : a.place = place
    · subst heq
      simp only [hnew, decide_true, Bool.not_true, Bool.false_and, Bool.false_eq_true, ↓reduceIte,
        Bool.not_false, List.length_cons]
      omega
    · have hin : a.place ∈ places := by
        rcases List.mem_cons.mp hmem with h | h
        · exact absurd h heq
        · exact h
      have hlt := hlt hin
      simp only [heq, decide_false, Bool.not_false, Bool.true_and] at hlt ⊢
      split <;> (try simp only [List.length_cons]) <;> omega

theorem outside_cons_le (t : FileTree) (ancestors : List Ancestor) (a : Ancestor) :
    outside t (a :: ancestors) ≤ outside t ancestors := outsideAmong_cons_le _ _ _

/-- Entering a directory that the walk was not inside of leaves fewer of them outside. -/
theorem outside_cons_lt {t : FileTree} {ancestors : List Ancestor} {a : Ancestor}
    (hmem : a.place ∈ t.directories) (hnew : ancestors.any (·.place = a.place) = false) :
    outside t (a :: ancestors) < outside t ancestors := outsideAmong_cons_lt hmem hnew

/-- What a walk finds at a path, where `node` stands at `place`. The nearest ancestor comes first. -/
def sight (t : FileTree) (cwd : String) (ancestors : List Ancestor) (path : String)
    (place : Place) (node : FileTree) : Sight :=
  match node with
  | .file _ => .file
  | .special => .special
  | .full => .special
  | .directory entries =>
    match FileTree.pathFault? path with
    | some e => .unopened e
    | none =>
      .directory (Sight.sortEntries (entries.attach.map fun ⟨(name, child), _hmem⟩ =>
        (name, sight t cwd (⟨place, path⟩ :: ancestors) (Path.join path name) (place ++ [name])
          child)))
  | .link _ =>
    match _hstat : t.stat cwd path with
    | .error e => .unresolved e
    | .ok (target, .directory entries) =>
      match _hfind : ancestors.find? (·.place = target) with
      | some a => .loop a.path
      | none =>
        .directory (Sight.sortEntries (entries.attach.map fun ⟨(name, child), _hmem⟩ =>
          (name, sight t cwd (⟨target, path⟩ :: ancestors) (Path.join path name)
            (target ++ [name]) child)))
    | .ok (_, .file _) => .file
    | .ok (_, _) => .special
termination_by (outside t ancestors, sizeOf node)
decreasing_by
  · have hsize := List.sizeOf_lt_of_mem _hmem
    have hle := outside_cons_le t ancestors ⟨place, path⟩
    simp only [Prod.mk.sizeOf_spec] at hsize
    rcases Nat.lt_or_eq_of_le hle with hlt | heq
    · exact Prod.Lex.left _ _ hlt
    · rw [heq]
      apply Prod.Lex.right
      simp only [FileTree.directory.sizeOf_spec]
      omega
  · apply Prod.Lex.left
    apply outside_cons_lt
    · exact FileTree.mem_directories (FileTree.at?_of_look _hstat)
    · simpa [List.any_eq_false] using _hfind

/-- What a walk finds at its root. -/
def ofRoot (t : FileTree) (cwd root : String) : Except OsError Sight :=
  match t.linkStat cwd root with
  | .error e => .error e
  | .ok (place, node) => .ok (sight t cwd [] root place node)

end Walk

end MessageCatalog
