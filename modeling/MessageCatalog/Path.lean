import MessageCatalog.Text.Split

/-! # Paths

Paths as texts and as components. Slashes separate components; doubled slashes, slashes at the end
and `.` components but a leading one do not count. `Path.relative` gives the path that leads from
one place to another.
-/

namespace MessageCatalog.Path

/-- One component of a path. -/
inductive Component where
  /-- The root directory, at the head of absolute paths. -/
  | root
  /-- The directory itself, kept at the head of relative paths only. -/
  | current
  /-- The parent directory. -/
  | parent
  | normal (name : List Char)
  deriving Repr, DecidableEq

/-- The spelling of a component. -/
def Component.text : Component → List Char
  | .root => ['/']
  | .current => ['.']
  | .parent => ['.', '.']
  | .normal name => name

/-- The parts of a path between slashes. -/
def segments (path : List Char) : List (List Char) := splitAt (· = '/') path

def isAbsolute (path : List Char) : Bool := path.head? = some '/'

/-- Whether a part between slashes counts wherever it stands. -/
def counts (segment : List Char) : Bool := segment ≠ [] ∧ segment ≠ ['.']

def Component.ofSegment (segment : List Char) : Component :=
  if segment = ['.', '.'] then .parent else .normal segment

def components (path : List Char) : List Component :=
  let parts := segments path
  let body := (parts.filter counts).map Component.ofSegment
  if isAbsolute path then .root :: body
  else if parts.head? = some ['.'] then .current :: body
  else body

/-- The components of a path without a leading `.`. -/
def cleanComponents (path : List Char) : List Component :=
  (components path).filter (· ≠ .current)

/-- What remains of two lists behind their longest common beginning. -/
def dropCommon {α : Type} [DecidableEq α] : List α → List α → List α × List α
  | a :: as, b :: bs => if a = b then dropCommon as bs else (a :: as, b :: bs)
  | as, bs => (as, bs)

def joinSlash : List (List Char) → List Char
  | [] => []
  | [s] => s
  | s :: rest => s ++ '/' :: joinSlash rest

/-- The components that lead from one list of components to another: up from what only the first
has, then down what only the second has. -/
def steps (base path : List Component) : List Component :=
  let (up, down) := dropCommon base path
  List.replicate up.length .parent ++ down

/-- `relative`, on characters. -/
def relativeChars (base path : List Char) : List Char :=
  if isAbsolute path = isAbsolute base then
    joinSlash ((steps (cleanComponents base) (cleanComponents path)).map Component.text)
  else if isAbsolute path then path
  else joinSlash ((cleanComponents path).map Component.text)

/-- The path that leads from `base` to `path`. If only one of them is absolute there is none, and
`path` itself is given, without its `.` components if it is relative. -/
def relative (base path : String) : String :=
  String.ofList (relativeChars base.toList path.toList)

def joinChars (base path : List Char) : List Char :=
  if isAbsolute path then path
  else
    match base.getLast? with
    | none => path
    | some last => if last = '/' then base ++ path else base ++ '/' :: path

/-- The place that `path` names as seen from `base`. -/
def join (base path : String) : String := String.ofList (joinChars base.toList path.toList)

/-- Cut off the part behind the last slash, and that slash. -/
def cutLast (path : List Char) : List Char :=
  ((path.reverse.dropWhile (· ≠ '/')).drop 1).reverse

def lastSegment (path : List Char) : List Char := (path.reverse.takeWhile (· ≠ '/')).reverse

theorem length_cutLast_lt {path : List Char} (h : path ≠ []) :
    (cutLast path).length < path.length := by
  have hle : (path.reverse.dropWhile (· ≠ '/')).length ≤ path.length := by
    simpa using (List.dropWhile_suffix (p := (· ≠ '/')) (l := path.reverse)).length_le
  have hpos : 0 < path.length := List.length_pos_iff.mpr h
  simp only [cutLast, List.length_reverse, List.length_drop]
  omega

/-- The end of a path without the parts that do not count. A leading `.` and the root stay. -/
def trimEnd (path : List Char) : List Char :=
  if _h : path = [] ∨ path = ['.'] ∨ path = ['/'] then path
  else if counts (lastSegment path) then path
  else if cutLast path = [] ∧ isAbsolute path then ['/']
  else trimEnd (cutLast path)
termination_by path.length
decreasing_by exact length_cutLast_lt fun hp => _h (Or.inl hp)

/-- The directory that a path is in, by its text alone: the path without its last component. The
root and the empty path have none. -/
def parentChars? (path : List Char) : Option (List Char) :=
  let trimmed := trimEnd path
  if trimmed = [] ∨ trimmed = ['/'] then none
  else if trimmed = ['.'] then some []
  else if cutLast trimmed = [] ∧ isAbsolute trimmed then some ['/']
  else some (trimEnd (cutLast trimmed))

/-- The directory that a path is in, by its text alone. -/
def parent? (path : String) : Option String := (parentChars? path.toList).map String.ofList

theorem length_trimEnd_le (path : List Char) : (trimEnd path).length ≤ path.length := by
  fun_induction trimEnd path with
  | case1 => exact Nat.le_refl _
  | case2 => exact Nat.le_refl _
  | case3 path h _ _ =>
    have : path ≠ [] := fun hp => h (Or.inl hp)
    exact List.length_pos_iff.mpr this
  | case4 path h _ _ ih =>
    have hne : path ≠ [] := fun hp => h (Or.inl hp)
    have := length_cutLast_lt hne
    omega

theorem length_parent?_lt {path parent : String} (h : parent? path = some parent) :
    parent.length < path.length := by
  simp only [parent?, Option.map_eq_some_iff] at h
  obtain ⟨chars, hchars, rfl⟩ := h
  have htrim := length_trimEnd_le path.toList
  simp only [← String.length_toList, String.toList_ofList]
  simp only [parentChars?] at hchars
  split at hchars
  · cases hchars
  · rename_i hne
    have hpos : trimEnd path.toList ≠ [] := fun h => hne (Or.inl h)
    have hlt := length_cutLast_lt hpos
    have hle := length_trimEnd_le (cutLast (trimEnd path.toList))
    have hone := List.length_pos_iff.mpr hpos
    split at hchars
    · cases hchars
      simp only [List.length_nil]
      omega
    · split at hchars
      · rename_i habs
        cases hchars
        have hnot : (trimEnd path.toList).length ≠ 1 := by
          intro hlen
          obtain ⟨c, hc⟩ := List.length_eq_one_iff.mp hlen
          apply hne
          right
          have := habs.2
          rw [hc] at this ⊢
          simpa [isAbsolute] using this
        simp only [List.length_cons, List.length_nil]
        omega
      · cases hchars
        omega

end MessageCatalog.Path
