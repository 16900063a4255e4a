import MessageCatalog.Proofs.FileTree.Follow
import MessageCatalog.Proofs.Path.Relative

/-! # Paths in two parts

What a path names as seen from a directory is what the two paths in one name, but for the limits on
paths: one more part makes a path longer, and there may be more links on its way.
-/

namespace MessageCatalog

/-- Whether a path tells where something is as seen from a directory. -/
structure Path.IsRelative (path : String) : Prop where
  ne_empty : path ≠ ""
  relative : isAbsolute path.toList = false

theorem Path.isRelative_name {name : String} (proper : IsName name.toList) : IsRelative name :=
  ⟨fun none => proper.1 (congrArg String.toList none), isAbsolute_name proper⟩

theorem Path.prefix_slashed (base : List Char) : base <+: slashed base := by
  unfold slashed
  split
  · rename_i none
    rw [List.getLast?_eq_none_iff.mp none]
  · split
    · exact List.prefix_rfl
    · exact List.prefix_append _ _

theorem Path.toList_join {path : String} (relative : IsRelative path) (base : String) :
    (join base path).toList = slashed base.toList ++ path.toList := by
  rw [join, String.toList_ofList, joinChars_relative relative.relative]

theorem Path.IsRelative.join {base path : String} (relative : IsRelative base)
    (relative' : IsRelative path) : IsRelative (join base path) := by
  refine ⟨fun none => ?_, (isAbsolute_join relative'.relative base).trans relative.relative⟩
  have chars := congrArg String.toList none
  rw [toList_join relative'] at chars
  exact relative'.ne_empty (String.toList_inj.mp (List.append_eq_nil_iff.mp chars).2)

/-- A path in three parts can be put together from either end. -/
theorem Path.join_join {path name : String} (relative : IsRelative path)
    (relative' : IsRelative name) (base : String) :
    join (join base path) name = join base (join path name) := by
  have behind : slashed (slashed base.toList ++ path.toList) =
      slashed base.toList ++ slashed path.toList := by
    have some := mt String.toList_eq_nil_iff.mp relative.ne_empty
    rw [slashed, slashed.eq_def path.toList, List.getLast?_append_of_ne_nil _ some]
    cases last : path.toList.getLast? with
    | none => exact absurd (List.getLast?_eq_none_iff.mp last) some
    | some c =>
        dsimp only
        split
        · rfl
        · exact List.append_assoc _ _ _
  have whole : IsRelative (join path name) := relative.join relative'
  refine String.toList_inj.mp ?_
  rw [toList_join relative', toList_join relative, toList_join whole, toList_join relative', behind,
    List.append_assoc]

namespace FileTree

variable {t : FileTree} {links : Nat} {start place : Place} {entries : List (String × FileTree)}
  {cwd base path : String}

/-- The steps of a path without the one that a slash at its end makes. -/
def plainSteps (path : String) : List String :=
  ((Path.segments path.toList).filter (· ≠ [])).map String.ofList

theorem pathSteps_eq (path : String) : pathSteps path =
    if path.toList.getLast? = some '/' ∧ plainSteps path ≠ [] then plainSteps path ++ [slashStep]
    else plainSteps path := rfl

theorem plainSteps_join (relative : Path.IsRelative path) (base : String) :
    plainSteps (Path.join base path) = plainSteps base ++ plainSteps path := by
  rw [plainSteps, Path.toList_join relative, Path.filter_segments_slashed (by decide),
    List.map_append]
  rfl

theorem plainSteps_ne_nil (relative : Path.IsRelative path) : plainSteps path ≠ [] := by
  have some := mt String.toList_eq_nil_iff.mp relative.ne_empty
  obtain ⟨c, rest, chars⟩ := List.exists_cons_of_ne_nil some
  have plain : c ≠ '/' := by
    rintro rfl
    have absolute := relative.relative
    rw [chars] at absolute
    cases absolute
  rw [plainSteps, chars, Path.segments, splitAt, if_neg (by simpa using plain)]
  split <;> simp

theorem pathSteps_join (relative : Path.IsRelative path) (base : String) :
    pathSteps (Path.join base path) = plainSteps base ++ pathSteps path := by
  have last : (Path.join base path).toList.getLast? = path.toList.getLast? := by
    rw [Path.toList_join relative]
    exact List.getLast?_append_of_ne_nil _ (mt String.toList_eq_nil_iff.mp relative.ne_empty)
  have some := plainSteps_ne_nil relative
  rw [pathSteps_eq, pathSteps_eq, last, plainSteps_join relative]
  split
  · rename_i slash
    rw [if_pos ⟨slash.1, some⟩, List.append_assoc]
  · rename_i slash
    rw [if_neg fun h => slash ⟨h.1, by simp [some]⟩]

theorem join_of_isAbsolute (absolute : Path.isAbsolute path.toList = true) (cwd : String) :
    Path.join cwd path = path := by
  rw [Path.join, Path.joinChars, if_pos absolute, String.ofList_toList]

theorem pathSteps_join_join (relative : Path.IsRelative path) (cwd : String) (some : base ≠ "") :
    pathSteps (Path.join cwd (Path.join base path)) =
      plainSteps (Path.join cwd base) ++ pathSteps path := by
  cases absolute : Path.isAbsolute base.toList with
  | true =>
      have whole := (Path.isAbsolute_join relative.relative base).trans absolute
      rw [join_of_isAbsolute absolute, join_of_isAbsolute whole, pathSteps_join relative]
  | false =>
      have relative' : Path.IsRelative base := ⟨some, absolute⟩
      rw [pathSteps_join (relative'.join relative), pathSteps_join relative,
        plainSteps_join relative', List.append_assoc]

theorem plainSteps_name {name : String} (proper : Path.IsName name.toList) :
    plainSteps name = [name] := by
  rw [plainSteps, Path.segments_name proper.2, List.filter_cons_of_pos (by simpa using proper.1)]
  simp

theorem pathSteps_name {name : String} (proper : Path.IsName name.toList) :
    pathSteps name = [name] := by
  have last : name.toList.getLast? ≠ some '/' := fun slash =>
    proper.2 (List.mem_of_getLast? slash)
  rw [pathSteps_eq, if_neg fun both => last both.1, plainSteps_name proper]

theorem follow_plainSteps (found : t.follow .reach links start (pathSteps path) =
    .ok (.found place (.directory entries))) :
    t.follow .reach links start (plainSteps path) = .ok (.found place (.directory entries)) := by
  rw [pathSteps_eq] at found
  split at found
  · have goes := follow_append .reach (List.cons_ne_nil slashStep []) (nomatch ·.1) t links
      start (plainSteps path)
    generalize before : t.follow .reach links start (plainSteps path) = first at goes ⊢
    generalize t.follow .reach links start (plainSteps path ++ [slashStep]) = whole at goes found
    cases goes with
    | error e => cases found
    | vacant parent name => cases found
    | found here node fewer =>
        have there := at?_of_follow before
        cases node with
        | directory inner =>
            rw [follow_stays there (.inr rfl), follow_nil there] at found
            exact found
        | _ =>
            rw [follow_notADirectory there nofun] at found
            cases found
  · exact found

/-! ## What a path in two parts names -/

/-- What steps lead to, if they lead to something. -/
def reached : Except OsError Target → Except OsError (Place × FileTree)
  | .error e => .error e
  | .ok (.vacant _ _) => .error .notFound
  | .ok (.found place node) => .ok (place, node)

theorem stat_eq_reached (sound : pathFault? path = none) :
    t.stat cwd path = reached (t.follow .reach maxLinks [] (pathSteps (Path.join cwd path))) :=
  stat_eq sound rfl

theorem stat_of_pathFault? {e : OsError} (fault : pathFault? path = some e) :
    t.stat cwd path = .error e := by
  simp only [stat, look, locate, fault]

theorem follow_of_stat {node : FileTree} (found : t.stat cwd path = .ok (place, node)) :
    t.follow .reach maxLinks [] (pathSteps (Path.join cwd path)) = .ok (.found place node) := by
  rw [stat_eq_reached (pathFault?_of_stat found)] at found
  generalize t.follow .reach maxLinks [] (pathSteps (Path.join cwd path)) = target at found
  unfold reached at found
  split at found <;> cases found
  rfl

theorem isStep_of_stat {node : FileTree} (found : t.stat cwd path = .ok (place, node)) :
    ∀ name ∈ place, IsStep name :=
  isStep_of_follow (List.forall_mem_nil _) (fun _ => slash_not_mem_of_mem_pathSteps)
    (follow_of_stat found)

theorem pathFault?_eq_none_iff : pathFault? path = none ↔
    path ≠ "" ∧ '\x00' ∉ path.toList ∧ path.utf8ByteSize ≤ maxPathLength := by
  unfold pathFault?
  rw [String.contains_char_eq]
  split
  · simp_all
  · split
    · simp_all
    · split <;> simp_all

/-- Further steps go on from the directory that a path leads to, with the links that are left. -/
theorem locate_join (purpose : Purpose)
    (directory : t.stat cwd base = .ok (place, .directory entries))
    (relative : Path.IsRelative path) (sound : pathFault? (Path.join base path) = none)
    (allowed : ¬(purpose = .write ∧ (pathSteps path).getLast? = some slashStep)) :
    ∃ left ≤ maxLinks, t.locate purpose cwd (Path.join base path) =
      t.follow purpose left place (pathSteps path) := by
  have some := (pathFault?_eq_none_iff.mp (pathFault?_of_stat directory)).1
  have further : pathSteps path ≠ [] := by
    rw [pathSteps_eq]
    split <;> simp [plainSteps_ne_nil relative]
  have goes := follow_append purpose further allowed t maxLinks []
    (plainSteps (Path.join cwd base))
  rw [follow_plainSteps (follow_of_stat directory)] at goes
  simp only [locate, sound]
  rw [pathSteps_join_join relative cwd some]
  generalize t.follow purpose maxLinks [] _ = whole at goes ⊢
  cases goes with
  | found _ _ fewer => exact ⟨_, fewer, rfl⟩

theorem stat_join (directory : t.stat cwd base = .ok (place, .directory entries))
    (relative : Path.IsRelative path) (sound : pathFault? (Path.join base path) = none) :
    ∃ left ≤ maxLinks, t.stat cwd (Path.join base path) =
      reached (t.follow .reach left place (pathSteps path)) := by
  obtain ⟨left, fewer, located⟩ := locate_join .reach directory relative sound (nomatch ·.1)
  refine ⟨left, fewer, ?_⟩
  rw [← located]
  rfl

theorem locate_vacant (directory : t.stat cwd base = .ok (place, .directory entries))
    {name : String} (proper : IsStep name) (free : entries.lookup name = none)
    (sound : pathFault? (Path.join base name) = none) :
    t.locate .write cwd (Path.join base name) = .ok (.vacant place name) := by
  have steps : pathSteps name = [name] := pathSteps_name proper.entry.isName
  have lookup : IsLookup .write name [] := proper.isLookup (nomatch ·.2)
  obtain ⟨left, _, located⟩ := locate_join .write directory
    (Path.isRelative_name proper.entry.isName) sound fun ⟨_, last⟩ => by
      rw [steps, List.getLast?_singleton] at last
      exact lookup.moves (.inr (Option.some.inj last))
  rw [located, steps, follow_lookup (at?_of_look directory) lookup,
    if_neg (Nat.not_lt.mpr proper.short), free]
  exact if_pos rfl

/-- An entry of the directory that a path leads to, unless it is a link. -/
theorem stat_entry (directory : t.stat cwd base = .ok (place, .directory entries)) {name : String}
    (proper : IsStep name) {node : FileTree} (found : entries.lookup name = some node)
    (plain : ∀ target, node ≠ .link target) (sound : pathFault? (Path.join base name) = none) :
    t.stat cwd (Path.join base name) = .ok (place ++ [name], node) := by
  have there : t.at? place = some (.directory entries) := at?_of_look directory
  have last : t.at? (place ++ [name]) = some node := by rw [← lookup_eq_at? there, found]
  have lookup : IsLookup .reach name [] := proper.isLookup (nomatch ·.1)
  obtain ⟨left, _, followed⟩ :=
    stat_join directory (Path.isRelative_name proper.entry.isName) sound
  rw [followed, pathSteps_name proper.entry.isName, follow_lookup there lookup,
    if_neg (Nat.not_lt.mpr proper.short), found]
  cases node with
  | link target => exact absurd rfl (plain target)
  | _ => exact congrArg reached (follow_nil last)

theorem stat_vacant (directory : t.stat cwd base = .ok (place, .directory entries)) {name : String}
    (proper : IsStep name) (free : entries.lookup name = none)
    (sound : pathFault? (Path.join base name) = none) :
    t.stat cwd (Path.join base name) = .error .notFound := by
  have lookup : IsLookup .reach name [] := proper.isLookup (nomatch ·.1)
  obtain ⟨left, _, followed⟩ :=
    stat_join directory (Path.isRelative_name proper.entry.isName) sound
  rw [followed, pathSteps_name proper.entry.isName, follow_lookup (at?_of_look directory) lookup,
    if_neg (Nat.not_lt.mpr proper.short), free]
  rfl

theorem toList_placePath (place : Place) :
    (placePath place).toList = '/' :: Path.joinSlash (place.map String.toList) := by
  have joined : ("/".intercalate place).toList = Path.joinSlash (place.map String.toList) := by
    induction place with
    | nil => rfl
    | cons name place ih =>
        cases place with
        | nil => rw [String.intercalate_singleton]; rfl
        | cons next place =>
            rw [String.intercalate_cons_cons, String.toList_append, String.toList_append, ih]
            simp [Path.joinSlash]
  rw [placePath, String.toList_append, joined]
  rfl

theorem plainSteps_placePath (proper : ∀ name ∈ place, IsStep name) :
    plainSteps (placePath place) = place := by
  rw [plainSteps, toList_placePath]
  cases place with
  | nil => decide
  | cons name place =>
      have parts : Path.segments (Path.joinSlash ((name :: place).map String.toList)) =
          (name :: place).map String.toList :=
        Path.segments_joinSlash (by simp)
          (List.forall_mem_map.mpr fun name member => (proper name member).entry.isName.2)
      have kept : ∀ segment ∈ (name :: place).map String.toList, decide (segment ≠ []) = true :=
        List.forall_mem_map.mpr fun name among => decide_eq_true (proper name among).entry.isName.1
      rw [← List.nil_append ('/' :: _), Path.segments_slash, parts, List.filter_append,
        List.filter_eq_self.mpr kept, List.map_append, List.map_map]
      simp [Path.segments, splitAt]

theorem stat_placePath (proper : ∀ name ∈ place, IsStep name)
    (there : t.at? place = some (.directory entries)) (relative : Path.IsRelative path)
    (sound : pathFault? path = none) :
    t.stat (placePath place) path = reached (t.follow .reach maxLinks place (pathSteps path)) := by
  rw [stat_eq_reached sound, pathSteps_join relative, plainSteps_placePath proper,
    follow_place proper there, List.nil_append]

/-! ## Limits on paths -/

/-- Whether an error tells that a path is beyond a limit: it has too many bytes, or there are too
many links on its way. -/
def IsLimit (path : String) (e : OsError) : Prop :=
  e = .nameTooLong ∧ maxPathLength < path.utf8ByteSize ∨ e = .tooManyLinks

theorem pathFault?_of_long (some : path ≠ "") (free : '\x00' ∉ path.toList)
    (long : maxPathLength < path.utf8ByteSize) : pathFault? path = .some .nameTooLong := by
  rw [pathFault?, String.contains_char_eq, if_neg (by simpa using some),
    if_neg (by simpa using free), if_pos long]

theorem pathFault?_join (sound : pathFault? base = none) (relative : Path.IsRelative path)
    (sound' : pathFault? path = none) :
    pathFault? (Path.join base path) = none ∨
      ∃ e, pathFault? (Path.join base path) = some e ∧ IsLimit (Path.join base path) e := by
  obtain ⟨_, clear, _⟩ := pathFault?_eq_none_iff.mp sound
  obtain ⟨some, clear', _⟩ := pathFault?_eq_none_iff.mp sound'
  have named : Path.join base path ≠ "" := fun none => by
    have chars := congrArg String.toList none
    rw [Path.toList_join relative] at chars
    exact some (String.toList_inj.mp (List.append_eq_nil_iff.mp chars).2)
  have free : '\x00' ∉ (Path.join base path).toList := by
    rw [Path.toList_join relative, List.mem_append]
    rintro (inside | inside)
    · unfold Path.slashed at inside
      split at inside
      · cases inside
      · split at inside
        · exact clear inside
        · simp_all
    · exact clear' inside
  by_cases short : (Path.join base path).utf8ByteSize ≤ maxPathLength
  · exact .inl (pathFault?_eq_none_iff.mpr ⟨named, free, short⟩)
  · have long := Nat.lt_of_not_le short
    exact .inr ⟨.nameTooLong, pathFault?_of_long named free long, .inl ⟨rfl, long⟩⟩

theorem pathFault?_of_join (some : base ≠ "") (relative : Path.IsRelative path)
    (sound : pathFault? (Path.join base path) = none) : pathFault? base = none := by
  obtain ⟨rest, whole⟩ : ∃ rest : String, Path.join base path = base ++ rest := by
    obtain ⟨chars, eq⟩ := Path.prefix_slashed base.toList
    refine ⟨String.ofList (chars ++ path.toList), String.toList_inj.mp ?_⟩
    rw [Path.toList_join relative, String.toList_append, String.toList_ofList, ← eq,
      List.append_assoc]
  rw [whole, pathFault?_eq_none_iff, String.toList_append, String.utf8ByteSize_append] at sound
  obtain ⟨_, clear, short⟩ := sound
  exact pathFault?_eq_none_iff.mpr ⟨some, fun inside => clear (List.mem_append_left _ inside),
    (Nat.le_add_right _ _).trans short⟩

/-! ## Paths that come to the limits -/

/-- A link to the directory it is in leads on from there, as often as links are followed. -/
theorem follow_turns (there : t.at? place = some (.directory entries))
    (turn : entries.lookup "l" = some (.link ".")) {n left : Nat} (enough : links = n + left)
    (rest : List String) :
    t.follow .reach links place (List.replicate n "l" ++ rest) =
      t.follow .reach left place rest := by
  subst enough
  induction n with
  | zero => rw [Nat.zero_add, List.replicate_zero, List.nil_append]
  | succ n ih =>
      have lookup (rest : List String) : IsLookup .reach "l" rest := ⟨by decide, by decide, nofun⟩
      have steps : pathSteps "." = ["."] := by decide
      have relative : isAbsolute "." = false := by decide
      have target : ".".isEmpty = false := by decide
      rw [Nat.succ_add, List.replicate_succ, List.cons_append, follow_lookup there (lookup _),
        if_neg (by decide), turn]
      simp only [reduceCtorEq, and_false, ↓reduceIte, steps, relative, target, Bool.false_eq_true,
        List.singleton_append]
      rw [follow_stays there (.inl rfl), ih]

theorem utf8ByteSize_slashes (n : Nat) :
    (String.ofList (List.replicate n '/')).utf8ByteSize = n := by
  induction n with
  | zero => rfl
  | succ n ih =>
      have split : String.ofList (List.replicate (n + 1) '/') =
          "/" ++ String.ofList (List.replicate n '/') :=
        String.toList_inj.mp (by simp [List.replicate_succ])
      rw [split, String.utf8ByteSize_append, ih]
      exact Nat.add_comm 1 n

theorem plainSteps_slashes (before after : String) (n : Nat) :
    plainSteps (before ++ String.ofList (List.replicate (n + 1) '/') ++ after) =
      plainSteps before ++ plainSteps after := by
  have behind : (Path.segments (List.replicate n '/' ++ after.toList)).filter (· ≠ []) =
      (Path.segments after.toList).filter (· ≠ []) := by
    induction n with
    | zero => rfl
    | succ n ih =>
        rw [List.replicate_succ, List.cons_append, ← List.nil_append ('/' :: _),
          Path.segments_slash, List.filter_append, ih]
        rfl
  rw [plainSteps, String.toList_append, String.toList_append, String.toList_ofList,
    List.append_assoc, List.replicate_succ, List.cons_append, Path.segments_slash,
    List.filter_append, behind, List.map_append]
  rfl

/-- The path of a directory with slashes at its end. -/
def slashed (n : Nat) : String := "/w" ++ String.ofList (List.replicate (n + 1) '/')

section Slashed

variable (n : Nat)

theorem toList_slashed : (slashed n).toList = '/' :: 'w' :: List.replicate (n + 1) '/' := by
  simp only [slashed, String.toList_append, String.toList_ofList]
  rfl

theorem getLast?_slashed : (slashed n).toList.getLast? = some '/' := by
  rw [toList_slashed, List.replicate_succ', ← List.cons_append, ← List.cons_append,
    List.getLast?_concat]

theorem utf8ByteSize_slashed : (slashed n).utf8ByteSize = n + 3 := by
  rw [slashed, String.utf8ByteSize_append, utf8ByteSize_slashes, Nat.add_comm]
  rfl

theorem pathFault?_slashed_append {name : String} (free : '\x00' ∉ name.toList) :
    pathFault? (slashed n ++ name) =
      if maxPathLength < n + 3 + name.utf8ByteSize then some .nameTooLong else none := by
  have some : slashed n ++ name ≠ "" := fun none => by
    have chars := congrArg String.toList none
    rw [String.toList_append, toList_slashed] at chars
    cases chars
  have clear : '\x00' ∉ (slashed n ++ name).toList := by
    rw [String.toList_append, toList_slashed]
    simpa using free
  have size : (slashed n ++ name).utf8ByteSize = n + 3 + name.utf8ByteSize := by
    rw [String.utf8ByteSize_append, utf8ByteSize_slashed]
  split
  · rename_i long
    exact pathFault?_of_long some clear (size ▸ long)
  · rename_i short
    exact pathFault?_eq_none_iff.mpr ⟨some, clear, size ▸ Nat.le_of_not_lt short⟩

theorem join_slashed {name : String} (proper : Path.IsName name.toList) :
    Path.join (slashed n) name = slashed n ++ name := by
  refine String.toList_inj.mp ?_
  rw [Path.toList_join (Path.isRelative_name proper), String.toList_append, Path.slashed,
    getLast?_slashed]
  rfl

theorem stat_slashed (there : t.at? ["w"] = some (.directory entries)) (cwd : String)
    (short : n + 3 ≤ maxPathLength) :
    t.stat cwd (slashed n) = .ok (["w"], .directory entries) := by
  have sound : pathFault? (slashed n) = none := by
    rw [← String.append_empty (s := slashed n), pathFault?_slashed_append n (by decide)]
    exact if_neg (Nat.not_lt.mpr short)
  have absolute : Path.isAbsolute (slashed n).toList = true := by
    rw [toList_slashed]
    rfl
  have steps : pathSteps (slashed n) = ["w"] ++ [slashStep] := by
    have plain : plainSteps (slashed n) = ["w"] := by
      have split := plainSteps_slashes "/w" "" n
      rw [String.append_empty] at split
      exact split.trans rfl
    rw [pathSteps_eq, plain, getLast?_slashed, if_pos ⟨rfl, List.cons_ne_nil _ _⟩]
  have proper : ∀ name ∈ ["w"], IsStep name :=
    List.forall_mem_singleton.mpr ⟨by decide, by decide⟩
  rw [stat_eq_reached sound, join_of_isAbsolute absolute, steps, follow_place proper there,
    List.nil_append, follow_stays there (.inr rfl), follow_nil there]
  rfl

end Slashed

/-! ## A directory's own path in front -/

/-- A directory's own path in front of a relative one leads to the same, unless that is beyond a
limit. -/
theorem stat_spelled_out (absolute : Path.isAbsolute base.toList = true)
    (directory : t.stat "/" base = .ok (place, .directory entries))
    (relative : Path.IsRelative path) (sound : pathFault? path = none) :
    t.stat (placePath place) (Path.join base path) = t.stat (placePath place) path ∨
      ∃ e, t.stat (placePath place) (Path.join base path) = .error e ∧
        IsLimit (Path.join base path) e := by
  have directory' : t.stat (placePath place) base = .ok (place, .directory entries) := by
    have sound := pathFault?_of_stat directory
    rw [stat_eq_reached sound, join_of_isAbsolute absolute] at directory ⊢
    exact directory
  have there : t.at? place = some (.directory entries) := at?_of_look directory
  rcases pathFault?_join (pathFault?_of_stat directory) relative sound with
    sound' | ⟨e, fault, limit⟩
  · obtain ⟨left, fewer, found⟩ := stat_join directory' relative sound'
    rw [stat_placePath (isStep_of_stat directory) there relative sound, found]
    rcases follow_fewer fewer with same | many
    · exact .inl (congrArg reached same)
    · exact .inr ⟨.tooManyLinks, congrArg reached many, .inr rfl⟩
  · exact .inr ⟨e, stat_of_pathFault? fault, limit⟩

end FileTree

end MessageCatalog
