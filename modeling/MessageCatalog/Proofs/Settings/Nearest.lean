import MessageCatalog.Proofs.Path.Ancestors
import MessageCatalog.Proofs.Settings.Init

/-! # The nearest settings

The search for settings goes up from a directory, and ends at the first file with settings, behind
the first root of a repository, or at the root directory. What it finds is looked for under a path,
so that an entry of the right name does not count if it is a link that leads nowhere, or if there is
no room for the name behind the path of its directory.
-/

namespace MessageCatalog

namespace FileTree

/-- Whether the directory that a path leads to has an entry of a name. -/
def HasEntry (t : FileTree) (cwd directory name : String) (node : FileTree) : Prop :=
  ∃ place entries, t.stat cwd directory = .ok (place, .directory entries) ∧
    entries.lookup name = some node

/-- Whether something is found under a name behind the path of a directory. -/
def Holds (t : FileTree) (cwd directory name : String) : Prop :=
  t.pathExists cwd (Path.join directory name) = true

variable {t : FileTree} {cwd directory name : String}

theorem holds_iff : t.Holds cwd directory name ↔
    ∃ place node, t.stat cwd (Path.join directory name) = .ok (place, node) := by
  rw [Holds, pathExists]
  cases t.stat cwd (Path.join directory name) with
  | error e => simp [Except.isOk, Except.toBool]
  | ok found => exact iff_of_true rfl ⟨found.1, found.2, rfl⟩

theorem follow_pathSteps {path : String} {links : Nat} {start place : Place}
    {entries : List (String × FileTree)}
    (found : t.follow .reach links start (plainSteps path) = .ok (.found place (.directory entries))) :
    t.follow .reach links start (pathSteps path) = .ok (.found place (.directory entries)) := by
  rw [pathSteps_eq]
  split
  · have goes := follow_append .reach (List.cons_ne_nil slashStep []) (nomatch ·.1) t links
      start (plainSteps path)
    have there := at?_of_follow found
    rw [found] at goes
    generalize t.follow .reach links start (plainSteps path ++ [slashStep]) = whole at goes ⊢
    cases goes with
    | found => rw [follow_stays there (.inr rfl), follow_nil there]
  · exact found

/-- What is found under a name is, or is led to by, an entry of the directory. -/
theorem Holds.hasEntry (some : directory ≠ "") (proper : IsStep name)
    (holds : t.Holds cwd directory name) : ∃ node, t.HasEntry cwd directory name node := by
  obtain ⟨place, node, found⟩ := holds_iff.mp holds
  have relative := Path.isRelative_name proper.entry.isName
  have sound := pathFault?_of_join some relative (pathFault?_of_stat found)
  have followed := follow_of_stat found
  rw [pathSteps_join_join relative cwd some, pathSteps_name proper.entry.isName] at followed
  have goes := follow_append .reach (List.cons_ne_nil name []) (nomatch ·.1) t maxLinks []
    (plainSteps (Path.join cwd directory))
  generalize before : t.follow .reach maxLinks [] (plainSteps (Path.join cwd directory)) = first
    at goes
  rw [followed] at goes
  generalize last : (Except.ok (Target.found place node) : Except OsError Target) = whole at goes
  cases goes with
  | error e => cases last
  | vacant parent name => cases last
  | @found left here inner fewer =>
      have there := at?_of_follow before
      cases inner with
      | directory entries =>
          have lookup : IsLookup .reach name [] := proper.isLookup (nomatch ·.1)
          rw [follow_lookup there lookup, if_neg (Nat.not_lt.mpr proper.short)] at last
          cases entry : entries.lookup name with
          | none =>
              rw [entry] at last
              cases last
          | some node =>
              refine ⟨node, here, entries, ?_, entry⟩
              rw [stat_eq_reached sound, follow_pathSteps before]
              rfl
      | _ =>
          rw [follow_notADirectory there nofun] at last
          cases last

/-- An entry is found under its name, unless it is a link or its path is no path. -/
theorem HasEntry.holds {node : FileTree} (has : t.HasEntry cwd directory name node)
    (proper : IsStep name) (plain : ∀ target, node ≠ .link target)
    (sound : pathFault? (Path.join directory name) = none) : t.Holds cwd directory name := by
  obtain ⟨place, entries, found, entry⟩ := has
  exact holds_iff.mpr ⟨_, _, stat_entry found proper entry plain sound⟩

section Directory

variable {place : Place} {entries : List (String × FileTree)}
  (found : t.stat cwd directory = .ok (place, .directory entries)) (proper : IsStep name)
include found proper

theorem not_holds_of_vacant (some : directory ≠ "") (free : entries.lookup name = none) :
    ¬t.Holds cwd directory name := by
  intro holds
  obtain ⟨node, place', entries', found', entry⟩ := holds.hasEntry some proper
  cases found.symm.trans found'
  cases free.symm.trans entry

theorem not_holds_of_link {target : String} (link : entries.lookup name = some (.link target))
    (proper' : IsStep target) (free : entries.lookup target = none)
    (sound : pathFault? (Path.join directory name) = none) : ¬t.Holds cwd directory name := by
  have there : t.at? place = some (.directory entries) := at?_of_look found
  have lookup : IsLookup .reach name [] := proper.isLookup (nomatch ·.1)
  have lookup' : IsLookup .reach target [] := proper'.isLookup (nomatch ·.1)
  have relative := Path.isRelative_name proper'.entry.isName
  have nonempty : target.isEmpty = false :=
    Bool.eq_false_iff.mpr fun none => relative.ne_empty (String.isEmpty_iff.mp none)
  obtain ⟨left, _, followed⟩ := stat_join found (Path.isRelative_name proper.entry.isName) sound
  rw [pathSteps_name proper.entry.isName, follow_lookup there lookup,
    if_neg (Nat.not_lt.mpr proper.short), link] at followed
  intro holds
  obtain ⟨place', node, reached⟩ := holds_iff.mp holds
  rw [followed] at reached
  cases left with
  | zero => cases reached
  | succ left =>
      simp only [reduceCtorEq, and_false, ↓reduceIte, nonempty, isAbsolute, relative.relative,
        List.append_nil, pathSteps_name proper'.entry.isName, follow_lookup there lookup',
        if_neg (Nat.not_lt.mpr proper'.short), free, Bool.false_eq_true] at reached
      cases reached

end Directory

end FileTree

namespace Settings

open FileTree (Holds HasEntry IsStep pathFault? slashed stat_slashed)

variable {t : FileTree} {cwd start path : String} {directories : List String}

/-! ## The search -/

/-- Whether a path is that of the settings in the first of some directories that holds any, and no
directory before that one is the root of a repository. -/
def IsNearest (t : FileTree) (cwd : String) (directories : List String) (path : String) : Prop :=
  ∃ nearer directory further, directories = nearer ++ directory :: further ∧
    path = Path.join directory fileName ∧ t.Holds cwd directory fileName ∧
    ∀ before ∈ nearer, ¬t.Holds cwd before fileName ∧ ¬t.Holds cwd before repositoryMark

theorem not_isNearest_nil : ¬IsNearest t cwd [] path := by
  rintro ⟨nearer, directory, further, split, _⟩
  cases nearer <;> cases split

theorem isNearest_cons {directory : String} : IsNearest t cwd (directory :: directories) path ↔
    t.Holds cwd directory fileName ∧ path = Path.join directory fileName ∨
      ¬t.Holds cwd directory fileName ∧ ¬t.Holds cwd directory repositoryMark ∧
        IsNearest t cwd directories path := by
  constructor
  · rintro ⟨nearer, found, further, split, same, holds, none⟩
    cases nearer with
    | nil =>
        cases split
        exact .inl ⟨holds, same⟩
    | cons first nearer =>
        cases split
        obtain ⟨here, later⟩ := List.forall_mem_cons.mp none
        exact .inr ⟨here.1, here.2, nearer, found, further, rfl, same, holds, later⟩
  · rintro (⟨holds, same⟩ | ⟨unset, inside, nearer, found, further, rfl, same, holds, none⟩)
    · exact ⟨[], directory, directories, rfl, same, holds, List.forall_mem_nil _⟩
    · exact ⟨directory :: nearer, found, further, rfl, same, holds,
        List.forall_mem_cons.mpr ⟨⟨unset, inside⟩, none⟩⟩

theorem findFile_eq_some_iff :
    findFile t cwd start = some path ↔ IsNearest t cwd (Path.ancestors start) path := by
  fun_induction findFile t cwd start with
  | case1 start candidate there =>
      obtain ⟨above, split⟩ := Path.exists_ancestors start
      have holds : t.Holds cwd start fileName := there
      simp only [split, isNearest_cons, holds, not_true_eq_false, false_and, or_false, true_and,
        Option.some_inj]
      exact eq_comm
  | case2 start candidate missing there =>
      obtain ⟨above, split⟩ := Path.exists_ancestors start
      have unset : ¬t.Holds cwd start fileName := missing
      have inside : t.Holds cwd start repositoryMark := there
      simp only [split, isNearest_cons, unset, inside, not_true_eq_false, false_and, and_false,
        or_false, reduceCtorEq]
  | case3 start candidate missing absent parent above ih =>
      have unset : ¬t.Holds cwd start fileName := missing
      have outside : ¬t.Holds cwd start repositoryMark := absent
      simp only [Path.ancestors_of_parent? above, isNearest_cons, unset, outside, ih,
        not_false_eq_true, false_and, false_or, true_and]
  | case4 start candidate missing absent top =>
      have unset : ¬t.Holds cwd start fileName := missing
      simp only [Path.ancestors_of_parent?_none top, isNearest_cons, unset, not_isNearest_nil,
        false_and, and_false, or_false, reduceCtorEq]

/-! ## What is loaded -/

/-- Whether a path leads to a file with the text of these settings. -/
def Contains (t : FileTree) (cwd path : String) (settings : Settings) : Prop :=
  ∃ text, t.bytesOf cwd path = .ok (Utf8.bytes text) ∧ parse text = .ok settings

/-- Why the settings that are found under a path cannot be loaded. -/
inductive FailsAt (t : FileTree) (cwd path : String) : LoadFailure → Prop where
  | unreadable (cause : Cause) : FailsAt t cwd path (.unreadable path cause)
  | unparsable (e : Json.Error) : FailsAt t cwd path (.unparsable path e)
  | unusable {settings : Settings} {fault : SettingsFault} : Contains t cwd path settings →
    settings.fault? = some fault → FailsAt t cwd path (.unusable fault)

/-- Settings without a fault can be used wherever locations are relative to. -/
theorem fault?_eq_none_iff {settings : Settings} : settings.fault? = none ↔
    ∀ base, ∃ rules, settings.rules base = .ok rules ∧ rules.base = base := by
  simp only [fault?, rules, bind, Except.bind, pure, Except.pure]
  cases Matcher.make settings.functionName settings.pattern settings.captureIndex with
  | error e => simp
  | ok matcher =>
      cases NameFilter.make settings.includes settings.ignores settings.ignoreDirs with
      | error e => simp
      | ok filter => simp

theorem bytesOf_of_decode {content : List UInt8} {cs : List Char}
    (read : t.bytesOf cwd path = .ok content) (decoded : Utf8.decode content = .ok cs) :
    t.bytesOf cwd path = .ok (Utf8.bytes (String.ofList cs)) := by
  rw [read, Utf8.bytes, String.toList_ofList, Utf8.encode_of_decode decoded]

/-- The settings that are loaded are those in the file, and have no fault. -/
theorem loadFile_eq_ok_iff {settings : Settings} : loadFile t cwd path = .ok settings ↔
    Contains t cwd path settings ∧ settings.fault? = none := by
  constructor
  · intro loaded
    simp only [loadFile] at loaded
    split at loaded
    · cases loaded
    · rename_i content read
      split at loaded
      · cases loaded
      · rename_i cs decoded
        split at loaded
        · cases loaded
        · rename_i found parsed
          split at loaded
          · cases loaded
          · rename_i valid
            cases loaded
            exact ⟨⟨_, bytesOf_of_decode read decoded, parsed⟩, valid⟩
  · rintro ⟨⟨text, content, parsed⟩, valid⟩
    exact loadFile_eq_ok content parsed valid

theorem failsAt_of_loadFile {e : LoadFailure} (failed : loadFile t cwd path = .error e) :
    FailsAt t cwd path e := by
  simp only [loadFile] at failed
  split at failed
  · cases failed
    exact .unreadable _
  · rename_i content read
    split at failed
    · cases failed
      exact .unreadable _
    · rename_i cs decoded
      split at failed
      · cases failed
        exact .unparsable _
      · rename_i settings parsed
        split at failed
        · rename_i fault faulty
          cases failed
          exact .unusable ⟨_, bytesOf_of_decode read decoded, parsed⟩ faulty
        · cases failed

theorem load_of_findFile_none (none : findFile t cwd start = none) :
    load t cwd start = .ok ⟨default, false⟩ := by
  simp only [load, none]

theorem load_eq_ok_iff (found : findFile t cwd start = some path) {loaded : Loaded} :
    load t cwd start = .ok loaded ↔
      loaded.fromFile = true ∧ Contains t cwd path loaded.settings ∧
        loaded.settings.fault? = none := by
  rw [← loadFile_eq_ok_iff]
  simp only [load, found]
  cases loadFile t cwd path with
  | error e => simp
  | ok settings =>
      obtain ⟨_, fromFile⟩ := loaded
      cases fromFile <;> simp

theorem failsAt_of_load (found : findFile t cwd start = some path) {e : LoadFailure}
    (failed : load t cwd start = .error e) : FailsAt t cwd path e := by
  simp only [load, found] at failed
  split at failed
  · rename_i e' failed'
    cases failed
    exact failsAt_of_loadFile failed'
  · cases failed

theorem isStep_markers : ∀ name ∈ [fileName, repositoryMark], IsStep name :=
  List.forall_mem_cons.mpr
    ⟨isStep_fileName, List.forall_mem_singleton.mpr ⟨by decide, by decide⟩⟩

/-- The settings for a directory are those in the first directory that holds any, from that one to
the root, unless a root of a repository comes before. Something is held under a name if there is an
entry of that name, but for a link that leads nowhere and a path beyond a limit. Only where no
settings are found, the default ones are loaded; where some are found, nothing else is loaded, and
what is loaded can be used. -/
theorem finds_nearest (absolute : Path.isAbsolute start.toList = true) (t : FileTree)
    (cwd : String) :
    (Path.ancestors start).map (fun directory => Path.components directory.toList) =
        (Path.inner start.toList).inits.reverse.map (Path.Component.root :: ·) ∧
    (∀ directory ∈ Path.ancestors start, ∀ name ∈ [fileName, repositoryMark],
      (t.Holds cwd directory name → ∃ node, t.HasEntry cwd directory name node) ∧
      ∀ node, t.HasEntry cwd directory name node →
        pathFault? (Path.join directory name) = none → (∀ target, node ≠ .link target) →
        t.Holds cwd directory name) ∧
    (∀ path, findFile t cwd start = some path ↔ IsNearest t cwd (Path.ancestors start) path) ∧
    (load t cwd start = .ok ⟨default, false⟩ ↔ findFile t cwd start = none) ∧
    ∀ path, findFile t cwd start = some path →
      (∀ loaded, load t cwd start = .ok loaded ↔
        loaded.fromFile = true ∧ Contains t cwd path loaded.settings ∧
          ∀ base, ∃ rules, loaded.settings.rules base = .ok rules ∧ rules.base = base) ∧
      ∀ e, load t cwd start = .error e → FailsAt t cwd path e := by
  refine ⟨Path.components_ancestors absolute, fun directory among name marker => ?_,
    fun path => findFile_eq_some_iff, ⟨fun loaded => ?_, load_of_findFile_none⟩,
    fun path found => ⟨fun loaded => ?_, fun e => failsAt_of_load found⟩⟩
  · have proper := isStep_markers name marker
    have some : directory ≠ "" := by
      rintro rfl
      cases Path.isAbsolute_of_mem_ancestors absolute among
    exact ⟨(·.hasEntry some proper), fun node has sound plain => has.holds proper plain sound⟩
  · cases found : findFile t cwd start with
    | none => rfl
    | some path => cases ((load_eq_ok_iff found).mp loaded).1
  · rw [load_eq_ok_iff found, fault?_eq_none_iff]

/-! ## A directory below one with settings -/

/-- The root of a repository with settings, and a directory in it. -/
def parentEntries (content : List UInt8) (entries : List (String × FileTree)) :
    List (String × FileTree) :=
  [(".git", .file []), (fileName, .file content), ("a", .directory entries)]

def nestedTree (content : List UInt8) (entries : List (String × FileTree)) : FileTree :=
  .directory [("w", .directory (parentEntries content entries))]

section Nested

variable (content : List UInt8) (entries : List (String × FileTree))

theorem stat_parent : (nestedTree content entries).stat "/" "/w" =
    .ok (["w"], .directory (parentEntries content entries)) := by
  rw [FileTree.stat_eq (by cbv) (by decide : _ = ["w"])]
  cbv

theorem stat_nested : (nestedTree content entries).stat "/" "/w/a" =
    .ok (["w", "a"], .directory entries) := by
  rw [FileTree.stat_eq (by cbv) (by decide : _ = ["w", "a"])]
  cbv

theorem stat_settings : (nestedTree content entries).stat "/" (Path.join "/w" fileName) =
    .ok (["w", fileName], .file content) :=
  FileTree.stat_entry (stat_parent content entries) isStep_fileName rfl nofun
    (FileTree.pathFault?_eq_none_iff.mpr (by decide))

theorem ancestors_nested : Path.ancestors "/w/a" = ["/w/a", "/w", "/"] := by
  have above : Path.parent? "/w/a" = some "/w" := by cbv
  have above' : Path.parent? "/w" = some "/" := by cbv
  have top : Path.parent? "/" = none := by cbv
  rw [Path.ancestors_of_parent? above, Path.ancestors_of_parent? above',
    Path.ancestors_of_parent?_none top]

theorem isNearest_nested (none : ∀ name ∈ [fileName, repositoryMark],
    ¬(nestedTree content entries).Holds "/" "/w/a" name) :
    IsNearest (nestedTree content entries) "/" (Path.ancestors "/w/a")
      (Path.join "/w" fileName) := by
  rw [ancestors_nested]
  refine ⟨["/w/a"], "/w", ["/"], rfl, rfl,
    FileTree.holds_iff.mpr ⟨_, _, stat_settings content entries⟩,
    List.forall_mem_singleton.mpr ⟨?_, ?_⟩⟩
  · exact none fileName List.mem_cons_self
  · exact none repositoryMark (List.mem_cons_of_mem _ List.mem_cons_self)

theorem not_holds_nested {name : String} (marker : name ∈ [fileName, repositoryMark]) :
    ∀ name' ∈ [fileName, repositoryMark],
      ¬(nestedTree content [(name, .link "missing")]).Holds "/" "/w/a" name' := by
  intro name' marker'
  have directory := stat_nested content [(name, .link "missing")]
  have vacant {other : String} (differs : other ≠ name) :
      [(name, FileTree.link "missing")].lookup other = none := by
    rw [List.lookup_cons, beq_false_of_ne differs]
    rfl
  by_cases same : name' = name
  · subst same
    have sound : ∀ name ∈ [fileName, repositoryMark], pathFault? (Path.join "/w/a" name) = none := by
      simp only [FileTree.pathFault?_eq_none_iff]
      decide
    have differs : ∀ name ∈ [fileName, repositoryMark], "missing" ≠ name := by decide
    exact FileTree.not_holds_of_link directory (isStep_markers _ marker) List.lookup_cons_self
      ⟨by decide, by decide⟩ (vacant (differs _ marker)) (sound _ marker)
  · exact FileTree.not_holds_of_vacant directory (isStep_markers _ marker') (by decide)
      (vacant same)

end Nested

/-- Settings that are found above a directory without any, and loaded. The mark of a repository
beside them does not hide them. -/
theorem finds_nearest_parent :
    let t := nestedTree (Utf8.bytes defaultText) []
    Path.isAbsolute "/w/a".toList = true ∧
      t.HasEntry "/" "/w" repositoryMark (.file []) ∧
      findFile t "/" "/w/a" = some (Path.join "/w" fileName) ∧
      load t "/" "/w/a" = .ok ⟨default, true⟩ := by
  intro t
  have absolute : Path.isAbsolute "/w/a".toList = true := rfl
  have nearest : IsNearest t "/" (Path.ancestors "/w/a") (Path.join "/w" fileName) :=
    isNearest_nested _ [] fun name marker =>
      FileTree.not_holds_of_vacant (stat_nested _ []) (isStep_markers name marker) (by decide) rfl
  obtain ⟨_, _, finds, _, loads⟩ := finds_nearest absolute t "/"
  have found := (finds _).mpr nearest
  have bytes : t.bytesOf "/" (Path.join "/w" fileName) = .ok (Utf8.bytes defaultText) := by
    rw [FileTree.bytesOf, stat_settings]
  refine ⟨absolute, ⟨_, _, stat_parent _ [], rfl⟩, found, ((loads _ found).1 _).mpr ?_⟩
  exact ⟨rfl, ⟨_, bytes, parse_defaultText⟩, fault?_eq_none_iff.mp fault?_default⟩

/-- Entries that the search passes over. A link that leads nowhere neither holds settings nor marks
the root of a repository, and there is no room for the name of settings behind a path that is almost
too long. -/
theorem entries_passed_over :
    (∀ name ∈ [fileName, repositoryMark],
      let t := nestedTree (Utf8.bytes defaultText) [(name, .link "missing")]
      t.HasEntry "/" "/w/a" name (.link "missing") ∧
        findFile t "/" "/w/a" = some (Path.join "/w" fileName)) ∧
    let t := nestedTree (Utf8.bytes defaultText) []
    t.HasEntry "/" (slashed 4077) fileName (.file (Utf8.bytes defaultText)) ∧
      findFile t "/" (slashed 4077) = none := by
  refine ⟨fun name marker => ⟨⟨_, _, stat_nested _ _, List.lookup_cons_self⟩, ?_⟩, ?_⟩
  · exact findFile_eq_some_iff.mpr (isNearest_nested _ _ (not_holds_nested _ marker))
  · have there : (nestedTree (Utf8.bytes defaultText) []).at? ["w"] =
        some (.directory (parentEntries (Utf8.bytes defaultText) [])) := rfl
    exact ⟨⟨_, _, stat_slashed 4077 there "/" (by decide), rfl⟩,
      findFile_slashed 4077 (by decide) there rfl "/" (by decide)⟩

end Settings

end MessageCatalog
