/-! # Trees of files

A tree holds what is kept under names, from a root directory on: files with their bytes, directories
and links. A `Place` is the list of names that leads to something from the root through directories
alone, so two paths lead to the same thing if they lead to the same place.
-/

namespace MessageCatalog

/-- What a name in a directory stands for. -/
inductive FileTree where
  | file (content : List UInt8)
  | directory (entries : List (String × FileTree))
  /-- A link, whose target is a path. -/
  | link (target : String)
  /-- Something that holds neither bytes nor names, such as a device or a pipe. -/
  | special
  /-- A device that has no room for a byte. -/
  | full
  deriving Repr

/-- The names from the root to something. -/
abbrev Place := List String

namespace FileTree

/-- A root directory without entries. -/
def empty : FileTree := .directory []

def entries : FileTree → List (String × FileTree)
  | .directory entries => entries
  | _ => []

/-- What stands under a name. -/
def child? (t : FileTree) (name : String) : Option FileTree := t.entries.lookup name

/-- What stands at a place. -/
def at? : FileTree → Place → Option FileTree
  | t, [] => some t
  | t, name :: place =>
    match t.child? name with
    | some node => node.at? place
    | none => none

/-- Put something under a name, in place of what stands there. -/
def setEntry (name : String) (node : FileTree) :
    List (String × FileTree) → List (String × FileTree)
  | [] => [(name, node)]
  | (other, old) :: entries =>
    if other = name then (name, node) :: entries else (other, old) :: setEntry name node entries

/-- Put something at a place, in place of what stands there. Only directories change. -/
def put (t : FileTree) (place : Place) (new : FileTree) : FileTree :=
  match t, place with
  | _, [] => new
  | .directory entries, name :: place =>
    .directory (setEntry name (((entries.lookup name).getD empty).put place new) entries)
  | t, _ :: _ => t
termination_by place

def eraseEntry (name : String) (entries : List (String × FileTree)) :
    List (String × FileTree) :=
  entries.filter fun entry => entry.1 ≠ name

/-- Take away what stands at a place. The root stays. -/
def erase (t : FileTree) (place : Place) : FileTree :=
  match t, place with
  | t, [] => t
  | .directory entries, [name] => .directory (eraseEntry name entries)
  | .directory entries, name :: place =>
    match entries.lookup name with
    | some node => .directory (setEntry name (node.erase place) entries)
    | none => .directory entries
  | t, _ :: _ => t
termination_by place

def directories : FileTree → List Place
  | .directory entries =>
    [] :: entries.attach.flatMap fun ⟨(name, node), _h⟩ => node.directories.map (name :: ·)
  | _ => []
decreasing_by
  have := List.sizeOf_lt_of_mem _h
  simp only [Prod.mk.sizeOf_spec] at this
  simp only [FileTree.directory.sizeOf_spec]
  omega

theorem mem_of_lookup {name : String} {node : FileTree} {entries : List (String × FileTree)}
    (h : entries.lookup name = some node) : (name, node) ∈ entries := by
  induction entries with
  | nil => cases h
  | cons entry entries ih =>
    rcases entry with ⟨other, old⟩
    rw [List.lookup_cons] at h
    split at h
    · rename_i heq
      cases h
      simp_all
    · exact List.mem_cons_of_mem _ (ih h)

theorem mem_directories {place : Place} {t : FileTree} {entries : List (String × FileTree)}
    (h : t.at? place = some (.directory entries)) : place ∈ t.directories := by
  induction place generalizing t with
  | nil =>
    cases h
    simp [directories]
  | cons name place ih =>
    simp only [at?] at h
    split at h
    · rename_i node hnode
      cases t with
      | directory es =>
        simp only [child?, FileTree.entries] at hnode
        simp only [directories, List.mem_cons, List.mem_flatMap, List.mem_attach, true_and,
          List.mem_map, Subtype.exists]
        exact Or.inr ⟨(name, node), mem_of_lookup hnode, place, ih h, rfl⟩
      | _ => cases hnode
    · cases h

theorem at?_append_name (t : FileTree) (place : Place) (name : String) :
    t.at? (place ++ [name]) = (t.at? place).bind (·.child? name) := by
  induction place generalizing t with
  | nil =>
    simp only [List.nil_append, at?]
    simp only [Option.bind_some]
    cases t.child? name <;> rfl
  | cons other place ih =>
    simp only [List.cons_append, at?]
    cases t.child? other with
    | none => rfl
    | some node => exact ih node

end FileTree

end MessageCatalog
