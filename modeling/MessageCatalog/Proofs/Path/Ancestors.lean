import MessageCatalog.Proofs.Path.Clean

/-! # The directories above a directory

By its text alone, a path tells which directories are above the one it names: those whose components
are the first ones of its own. A parent's path is the path without its last component and without
what does not count before that.
-/

namespace MessageCatalog.Path

/-- A directory and those above it, by their paths alone, from the nearest to the root. -/
def ancestors (path : String) : List String :=
  path ::
    match _h : parent? path with
    | some parent => ancestors parent
    | none => []
termination_by path.length
decreasing_by exact length_parent?_lt _h

section Absolute

variable {path : List Char} (absolute : isAbsolute path = true)
include absolute

theorem eq_cutLast_append : path = cutLast path ++ '/' :: lastSegment path := by
  have slash : '/' ∈ path.reverse :=
    List.mem_reverse.mpr (List.mem_of_head? (of_decide_eq_true absolute))
  have split := List.takeWhile_append_dropWhile (p := (· ≠ '/')) (l := path.reverse)
  cases rest : path.reverse.dropWhile (· ≠ '/') with
  | nil => simpa using List.dropWhile_eq_nil_iff.mp rest '/' slash
  | cons c more =>
      have found := List.head?_dropWhile_not (· ≠ '/') path.reverse
      rw [rest] at found
      have isSlash : c = '/' := by simpa using found
      rw [rest] at split
      have whole := congrArg List.reverse split
      rw [List.reverse_append, List.reverse_reverse, List.reverse_cons, isSlash] at whole
      rw [cutLast, rest, lastSegment, List.drop_one, List.tail_cons]
      refine whole.symm.trans ?_
      rw [List.append_assoc]
      rfl

theorem inner_eq_cutLast : inner path = inner (cutLast path) ++
    (if counts (lastSegment path) then [Component.ofSegment (lastSegment path)] else []) := by
  have free : '/' ∉ lastSegment path := fun slash => by
    have kept := List.mem_reverse.mp slash
    simpa using List.mem_takeWhile_imp kept
  have parts : segments path = segments (cutLast path) ++ [lastSegment path] := by
    rw [← segments_name free, ← segments_slash, ← eq_cutLast_append absolute]
  rw [inner, parts, List.filter_append, List.map_append, ← inner]
  split <;> simp_all

theorem isAbsolute_cutLast (some : cutLast path ≠ []) : isAbsolute (cutLast path) = true := by
  obtain ⟨c, rest, front⟩ := List.exists_cons_of_ne_nil some
  rw [eq_cutLast_append absolute, front] at absolute
  rw [front]
  exact absolute

theorem trimEnd_absolute : isAbsolute (trimEnd path) = true ∧ inner (trimEnd path) = inner path ∧
    (trimEnd path = ['/'] ∨ counts (lastSegment (trimEnd path)) = true) := by
  fun_induction trimEnd path with
  | case1 path short =>
      rcases short with rfl | rfl | rfl
      · cases absolute
      · cases absolute
      · exact ⟨rfl, rfl, .inl rfl⟩
  | case2 path long counting => exact ⟨absolute, rfl, .inr counting⟩
  | case3 path long skipped top =>
      refine ⟨rfl, ?_, .inl rfl⟩
      rw [inner_eq_cutLast absolute, top.1, if_neg skipped]
      rfl
  | case4 path long skipped below ih =>
      have some : cutLast path ≠ [] := fun none => below ⟨none, absolute⟩
      obtain ⟨absolute', same, ending⟩ := ih (isAbsolute_cutLast absolute some)
      refine ⟨absolute', ?_, ending⟩
      rw [same, inner_eq_cutLast absolute, if_neg skipped, List.append_nil]

/-- An absolute path has a parent unless it is the root, and the parent's components are those of the
path without the last one. -/
theorem parentChars?_absolute :
    (inner path = [] ∧ parentChars? path = none) ∨
      ∃ parent last, parentChars? path = some parent ∧ isAbsolute parent = true ∧
        inner path = inner parent ++ [last] := by
  obtain ⟨absolute', same, ending⟩ := trimEnd_absolute absolute
  rw [← same, parentChars?]
  generalize trimEnd path = trimmed at absolute' ending
  rcases ending with rfl | counting
  · exact .inl ⟨rfl, rfl⟩
  · have inside := inner_eq_cutLast absolute'
    rw [if_pos counting] at inside
    have some : trimmed ≠ [] := by
      rintro rfl
      cases absolute'
    have long : trimmed ≠ ['/'] := by
      rintro rfl
      exact absurd counting (by decide)
    have notHere : trimmed ≠ ['.'] := by
      rintro rfl
      cases absolute'
    right
    rw [if_neg (by simp [some, long]), if_neg notHere]
    by_cases top : cutLast trimmed = []
    · rw [top] at inside
      exact ⟨['/'], _, if_pos ⟨top, absolute'⟩, rfl, inside⟩
    · obtain ⟨above, same', _⟩ := trimEnd_absolute (isAbsolute_cutLast absolute' top)
      rw [← same'] at inside
      exact ⟨_, _, if_neg fun both => top both.1, above, inside⟩

end Absolute

theorem exists_ancestors (path : String) : ∃ above, ancestors path = path :: above := by
  rw [ancestors]
  exact ⟨_, rfl⟩

theorem ancestors_of_parent?_none {path : String} (top : parent? path = none) :
    ancestors path = [path] := by
  rw [ancestors]
  split
  · rename_i found
    cases top.symm.trans found
  · rfl

theorem ancestors_of_parent? {path parent : String} (above : parent? path = some parent) :
    ancestors path = path :: ancestors parent := by
  rw [ancestors]
  split
  · rename_i found
    cases above.symm.trans found
    rfl
  · rename_i missing
    cases above.symm.trans missing

/-- The directories above an absolute path have its first components, each time one less. -/
theorem components_ancestors {path : String} (absolute : isAbsolute path.toList = true) :
    (ancestors path).map (fun directory => components directory.toList) =
      (inner path.toList).inits.reverse.map (Component.root :: ·) := by
  induction length : path.length using Nat.strongRecOn generalizing path with
  | ind n ih =>
      subst length
      have here : components path.toList = .root :: inner path.toList := by
        rw [components_of_isAbsolute absolute, cleanComponents_eq, if_pos absolute]
      rcases parentChars?_absolute absolute with ⟨top, missing⟩ | ⟨chars, last, found, above, split⟩
      · have topmost : parent? path = none := by rw [parent?, missing, Option.map_none]
        rw [ancestors_of_parent?_none topmost, List.map_singleton, here, top]
        rfl
      · have parent : parent? path = some (String.ofList chars) := by
          rw [parent?, found, Option.map_some]
        have rest := ih _ (length_parent?_lt parent) (by rwa [String.toList_ofList]) rfl
        rw [ancestors_of_parent? parent, List.map_cons, here, rest, String.toList_ofList, split,
          List.inits_append]
        simp

theorem isAbsolute_of_mem_ancestors {path directory : String}
    (absolute : isAbsolute path.toList = true) (among : directory ∈ ancestors path) :
    isAbsolute directory.toList = true := by
  have components' := List.mem_map_of_mem (f := fun d : String => components d.toList) among
  rw [components_ancestors absolute] at components'
  obtain ⟨names, _, same⟩ := List.mem_map.mp components'
  by_contra relative
  rw [components, if_neg relative] at same
  split at same
  · cases same
  · have root : Component.root ∈ inner directory.toList := by
      rw [inner, ← same]
      exact List.mem_cons_self
    exact (isProper_of_mem_inner root).isName.2 List.mem_cons_self

example : ancestors "/w/./a//" = ["/w/./a//", "/w", "/"] := by decide +kernel

end MessageCatalog.Path
