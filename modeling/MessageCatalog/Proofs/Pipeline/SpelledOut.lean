import MessageCatalog.Proofs.Listing.SpelledOut
import MessageCatalog.Proofs.Pipeline.Outcome
import MessageCatalog.Proofs.Source

/-! # Roots that are spelled out

The catalog shows files by their paths relative to the base directory, so a root gives the same
catalog whether it is spelled from the working directory or from the root directory on. Only the
limits on paths tell the spellings apart.
-/

namespace MessageCatalog

open FileTree

namespace Pipeline

open Schedule (FileWork)

variable {t : FileTree} {cwd path : String} {rules : Rules}

/-- A file that is read to its end gives the same groups under the path that is spelled out. -/
theorem fileWork_spelledOut (station : t.Stationed rules.base cwd)
    (relative : Path.IsRelative path) (read : (fileWork rules t cwd path).failure = none) :
    fileWork rules t cwd (Path.join rules.base path) =
        ⟨Path.join rules.base path, (fileWork rules t cwd path).groups, none⟩ ∨
      ∃ e, fileWork rules t cwd (Path.join rules.base path) =
        ⟨Path.join rules.base path, [], some e⟩ ∧ e.IsLimit := by
  have shown : rules.displayPath (Path.join rules.base path) = rules.displayPath path :=
    Path.relative_join station.absolute relative.relative
  have drained (content : List UInt8)
      (read : (Source.ofBytes rules path content).drain.2 = none) :
      (Source.ofBytes rules (Path.join rules.base path) content).drain =
        (Source.ofBytes rules path content).drain := by
    have whole : (Source.ofBytes rules path content).drain =
      ((Source.ofBytes rules path content).drain.1, none) := by rw [← read]
    exact (Source.drain_of_shown (s := Source.ofBytes rules path content) shown whole).trans
      whole.symm
  cases leads : t.stat cwd path with
  | error e =>
      simp only [fileWork, Traversal.file, FileTree.bytesOf, leads] at read
      cases read
  | ok found =>
      rcases station.stat relative leads with same | ⟨e, beyond, limit⟩
      · left
        simp only [fileWork, Traversal.file, FileTree.bytesOf, leads, same] at read ⊢
        obtain ⟨place, node⟩ := found
        cases node with
        | directory entries => cases read
        | _ =>
            dsimp only at read ⊢
            rw [drained _ read, read]
      · right
        simp only [fileWork, Traversal.file, FileTree.bytesOf, beyond]
        exact ⟨_, rfl, limit⟩

/-- How a root relates to the same root spelled out, unless it fails itself. -/
inductive RootWork.SpelledOut (work work' : RootWork) : Prop where
  | failed (failure : work.failures ≠ [])
  | same (groups : work'.groups = work.groups) (files : work'.files = work.files)
    (read : work'.failures = [])
  | limit (failure : work'.failures ≠ []) (limits : ∀ e ∈ work'.failures, e.IsLimit)

section Files

variable {files : List String}

/-- The files of a directory under their paths spelled out. -/
def spelledOut (rules : Rules) (t : FileTree) (cwd : String) (files : List String) :
    List FileWork :=
  (files.map (Path.join rules.base)).map (fileWork rules t cwd)

theorem isLimit_of_mem_spelledOut (station : t.Stationed rules.base cwd)
    (relative : ∀ file ∈ files, Path.IsRelative file)
    (read : ∀ file ∈ files, (fileWork rules t cwd file).failure = none) :
    ∀ e ∈ (spelledOut rules t cwd files).filterMap FileWork.failure, e.IsLimit := by
  intro e member
  obtain ⟨work, inside, failed⟩ := List.mem_filterMap.mp member
  rw [spelledOut, List.map_map] at inside
  obtain ⟨file, among, rfl⟩ := List.mem_map.mp inside
  rw [Function.comp_apply] at failed
  rcases fileWork_spelledOut station (relative file among) (read file among) with
    same | ⟨e', cut, limit⟩
  · rw [same] at failed
    cases failed
  · rw [cut] at failed
    cases failed
    exact limit

theorem groups_spelledOut (station : t.Stationed rules.base cwd)
    (relative : ∀ file ∈ files, Path.IsRelative file)
    (read : ∀ file ∈ files, (fileWork rules t cwd file).failure = none)
    (read' : (spelledOut rules t cwd files).filterMap FileWork.failure = []) :
    (spelledOut rules t cwd files).flatMap FileWork.groups =
      (files.map (fileWork rules t cwd)).flatMap FileWork.groups := by
  rw [spelledOut, List.map_map, List.flatMap_map, List.flatMap_map]
  refine List.flatMap_congr fun file among => ?_
  rw [Function.comp_apply]
  rcases fileWork_spelledOut station (relative file among) (read file among) with same | ⟨e, cut, _⟩
  · rw [same]
  · rw [List.filterMap_eq_nil_iff] at read'
    have failed := read' _ (List.mem_map_of_mem (List.mem_map_of_mem among))
    rw [cut] at failed
    cases failed

end Files

theorem spelledOut_directory (station : t.Stationed rules.base cwd) {listing listing' : Listing}
    (listed : listing.SpelledOut rules.base listing') :
    RootWork.SpelledOut (.directory (listing.files.map (fileWork rules t cwd)) listing.failure)
      (.directory (listing'.files.map (fileWork rules t cwd)) listing'.failure) := by
  by_cases readAll : (listing.files.map (fileWork rules t cwd)).filterMap FileWork.failure = []
  · have read : ∀ file ∈ listing.files, (fileWork rules t cwd file).failure = none := by
      rw [List.filterMap_eq_nil_iff] at readAll
      exact List.forall_mem_map.mp readAll
    cases listed with
    | failed failure =>
        refine .failed fun failures => failure ?_
        exact Option.toList_eq_nil_iff.mp (List.append_eq_nil_iff.mp failures).1
    | @whole files relative =>
        have limits := isLimit_of_mem_spelledOut station relative read
        by_cases read' : (spelledOut rules t cwd files).filterMap FileWork.failure = []
        · exact .same (groups_spelledOut station relative read read') (by simp [RootWork.files])
            read'
        · exact .limit read' limits
    | @cut files kept e first relative limit =>
        have limits := isLimit_of_mem_spelledOut station relative
          fun file member => read file (first.subset member)
        exact .limit (by simp [RootWork.failures]) (List.forall_mem_cons.mpr ⟨limit, limits⟩)
  · exact .failed fun failures => readAll (List.append_eq_nil_iff.mp failures).2

/-- What there is to find at a root that is spelled out. -/
theorem spelledOut_ofRoot (names : t.WellNamed) (station : t.Stationed rules.base cwd)
    (relative : Path.IsRelative path) :
    RootWork.SpelledOut (RootWork.ofRoot rules t cwd path)
      (RootWork.ofRoot rules t cwd (Path.join rules.base path)) := by
  cases leads : t.stat cwd path with
  | error e =>
      refine .failed ?_
      simp only [RootWork.ofRoot, leads]
      simp [RootWork.failures]
  | ok found =>
      rcases station.stat relative leads with same | ⟨e, beyond, limit⟩
      · obtain ⟨place, node⟩ := found
        cases node with
        | file content =>
            simp only [RootWork.ofRoot, leads, same]
            by_cases read : (fileWork rules t cwd path).failure = none
            · rcases fileWork_spelledOut station relative read with whole | ⟨e, cut, limit⟩
              · rw [whole]
                exact .same rfl rfl rfl
              · rw [cut]
                exact .limit (by simp [RootWork.failures]) (List.forall_mem_singleton.mpr limit)
            · exact .failed fun failures => read (Option.toList_eq_nil_iff.mp failures)
        | directory entries =>
            have listed : (Listing.ofRoot rules.filter t cwd path).SpelledOut rules.base _ :=
              Listing.spelledOut_ofRoot names station relative leads same
            simp only [RootWork.ofRoot, leads, same]
            exact spelledOut_directory station listed
        | _ =>
            simp only [RootWork.ofRoot, leads, same]
            exact .same rfl rfl rfl
      · simp only [RootWork.ofRoot, beyond]
        exact .limit (by simp [RootWork.failures]) (List.forall_mem_singleton.mpr limit)

theorem RootWork.texts_map_congr (find find' : String → RootWork) {roots : List String}
    (same : ∀ root ∈ roots, (find' root).groups = (find root).groups ∧
      (find' root).files = (find root).files) :
    texts (roots.map find') = texts (roots.map find) ∧
      summary (roots.map find') = summary (roots.map find) := by
  constructor
  · induction roots with
    | nil => rfl
    | cons root roots ih =>
        obtain ⟨first, later⟩ := List.forall_mem_cons.mp same
        rw [List.map_cons, List.map_cons, texts, texts, ih later, text, text, first.1]
  · simp only [summary, List.map_map, List.length_map, Summary.mk.injEq, true_and]
    constructor
    · exact congrArg List.sum (List.map_congr_left fun root among => (same root among).2)
    · refine congrArg List.sum (List.map_congr_left fun root among => ?_)
      simp only [Function.comp_apply, entries, (same root among).1]

end Pipeline

namespace Extraction

open Pipeline

variable {rules : Rules} {t : FileTree} {cwd root : String}

theorem toText_missing {e : OsError} (missing : t.stat cwd root = .error e) :
    toText rules t cwd [root] = .error (.stat root (.os e)) := by
  have due := due_toText rules t cwd [root]
  have work : RootWork.ofRoot rules t cwd root = .missing (.stat root (.os e)) := by
    simp only [RootWork.ofRoot, missing]
  rw [List.map_singleton, work] at due
  generalize toText rules t cwd [root] = outcome at due
  cases due with
  | ok read => cases read _ List.mem_cons_self
  | @error done found later e' order _ failed =>
      cases done with
      | nil =>
          cases order
          rw [List.mem_singleton.mp failed]
      | cons first done =>
          have length := congrArg List.length order
          simp at length

theorem toText_empty {place : Place} (empty : t.stat cwd root = .ok (place, .file [])) :
    toText rules t cwd [root] = .ok (Catalog.header, ⟨1, 1, 0⟩) := by
  have due := due_toText rules t cwd [root]
  have nothing : (Source.ofBytes rules root []).drain = ([], none) := by
    rw [Source.drain, Source.next]
    rfl
  have work : RootWork.ofRoot rules t cwd root = .file ⟨root, [], none⟩ := by
    simp only [RootWork.ofRoot, fileWork, Traversal.file, FileTree.bytesOf, empty, nothing]
  rw [List.map_singleton, work] at due
  rw [due.eq_ok (List.forall_mem_singleton.mpr rfl)]
  rfl

/-- The spelling of roots does not change the catalog, for every tree and all rules: what can be
extracted from relative roots in the base directory is extracted from the roots spelled out from the
root directory on, too, with the same text and the same counts, unless a limit on paths is exceeded.
Then the extraction fails at a path of too many bytes or with too many links on its way. Seen from
the base, a relative path and the path spelled out are the same anyway. -/
theorem roots_spelled_out {t : FileTree} (names : t.WellNamed) (rules : Rules) {place : Place}
    {entries : List (String × FileTree)} (absolute : FileTree.isAbsolute rules.base = true)
    (directory : t.stat "/" rules.base = .ok (place, .directory entries)) :
    (∀ base path : String, FileTree.isAbsolute base = true → FileTree.isAbsolute path = false →
      Path.relative base (Path.join base path) = Path.relative base path) ∧
    ∀ (roots : List String) (text : String) (summary : Summary),
      (∀ root ∈ roots, FileTree.isAbsolute root = false) →
      toText rules t (FileTree.placePath place) roots = .ok (text, summary) →
      toText rules t (FileTree.placePath place) (roots.map (Path.join rules.base)) =
          .ok (text, summary) ∨
        ∃ e, toText rules t (FileTree.placePath place) (roots.map (Path.join rules.base)) =
          .error e ∧ e.IsLimit := by
  have station : t.Stationed rules.base (FileTree.placePath place) :=
    ⟨absolute, place, entries, directory, rfl⟩
  refine ⟨fun base path => Path.relative_join, fun roots text summary relative extracted => ?_⟩
  generalize FileTree.placePath place = cwd at *
  have due := due_toText rules t cwd roots
  have due' := due_toText rules t cwd (roots.map (Path.join rules.base))
  rw [extracted] at due
  obtain ⟨read, rfl, rfl⟩ := Due.ok_iff.mp due
  have related : ∀ root ∈ roots, (RootWork.ofRoot rules t cwd root).SpelledOut
      (RootWork.ofRoot rules t cwd (Path.join rules.base root)) := by
    intro root among
    refine spelledOut_ofRoot names station ⟨?_, relative root among⟩
    rintro rfl
    cases read _ (List.mem_map_of_mem among)
  by_cases read' : ∀ root ∈ (roots.map (Path.join rules.base)).map (RootWork.ofRoot rules t cwd),
      root.failures = []
  · left
    rw [due'.eq_ok read', List.map_map]
    obtain ⟨texts, counts⟩ := RootWork.texts_map_congr (RootWork.ofRoot rules t cwd)
      (RootWork.ofRoot rules t cwd ∘ Path.join rules.base) fun root (among : root ∈ roots) => by
        cases related root among with
        | failed failure => exact absurd (read _ (List.mem_map_of_mem among)) failure
        | same groups files => exact ⟨groups, files⟩
        | limit failure =>
            exact absurd (read' _ (List.mem_map_of_mem (List.mem_map_of_mem among))) failure
    rw [texts, counts]
  · right
    cases outcome : toText rules t cwd (roots.map (Path.join rules.base)) with
    | ok found =>
        rw [outcome] at due'
        exact absurd (Due.ok_iff.mp due').1 read'
    | error e =>
        rw [outcome] at due'
        cases due' with
        | @error done work later _ order before failed =>
            have among : work ∈ done ++ work :: later := List.mem_append_right _ List.mem_cons_self
            rw [← order, List.map_map] at among
            obtain ⟨root, inside, rfl⟩ := List.mem_map.mp among
            refine ⟨e, rfl, ?_⟩
            cases related root inside with
            | failed failure => exact absurd (read _ (List.mem_map_of_mem inside)) failure
            | same _ _ none =>
                rw [Function.comp_apply, none] at failed
                cases failed
            | limit _ limits => exact limits e failed

/-! ## A tree in which paths come to the limits -/

/-- A directory with a file and a link back to the directory. -/
def turnEntries : List (String × FileTree) := [("a.js", .file []), ("l", .link ".")]

def turnTree : FileTree := .directory [("work", .directory turnEntries)]

theorem isStep_work : ∀ name ∈ ["work"], IsStep name :=
  List.forall_mem_singleton.mpr ⟨by decide, by decide⟩

theorem stat_work {path : String} {steps : List String} (relative : Path.IsRelative path)
    (sound : pathFault? path = none) (parts : pathSteps path = steps) :
    turnTree.stat "/work" path = reached (turnTree.follow .reach maxLinks ["work"] steps) := by
  have there : turnTree.at? ["work"] = some (.directory turnEntries) := rfl
  rw [← parts, ← stat_placePath isStep_work there relative sound]
  rfl

/-- A path of 4090 bytes to the file, most of them slashes. -/
def slashPath : String := "." ++ String.ofList (List.replicate 4085 '/') ++ "a.js"

theorem toList_slashPath : slashPath.toList = '.' :: (List.replicate 4085 '/' ++ "a.js".toList) := by
  simp only [slashPath, String.toList_append, String.toList_ofList, List.append_assoc]
  rfl

theorem isRelative_slashPath : Path.IsRelative slashPath := by
  have chars := toList_slashPath
  refine ⟨fun none => ?_, ?_⟩
  · rw [none] at chars
    cases chars
  · rw [chars]
    rfl

theorem utf8ByteSize_slashPath : slashPath.utf8ByteSize = 4090 := by
  rw [slashPath, String.utf8ByteSize_append, String.utf8ByteSize_append, utf8ByteSize_slashes]
  rfl

theorem pathSteps_slashPath : pathSteps slashPath = [".", "a.js"] := by
  have last : slashPath.toList.getLast? = some 's' := by
    rw [toList_slashPath, ← List.cons_append, List.getLast?_append_of_ne_nil _ (by decide)]
    rfl
  have plain : plainSteps slashPath = plainSteps "." ++ plainSteps "a.js" :=
    plainSteps_slashes "." "a.js" 4084
  rw [pathSteps_eq, last, plain]
  rfl

theorem pathFault?_slashPath : pathFault? slashPath = none := by
  refine pathFault?_eq_none_iff.mpr ⟨isRelative_slashPath.ne_empty, ?_, ?_⟩
  · rw [toList_slashPath, List.mem_cons, List.mem_append]
    rintro (first | slash | last)
    · cases first
    · cases List.eq_of_mem_replicate slash
    · revert last
      decide
  · rw [utf8ByteSize_slashPath]
    decide

/-- A path that leads through the link thirty times. -/
def turnBase : String := "/work/l/l/l/l/l/l/l/l/l/l/l/l/l/l/l/l/l/l/l/l/l/l/l/l/l/l/l/l/l/l"

/-- A path to the file that leads through the link twenty times. -/
def turnRoot : String := "l/l/l/l/l/l/l/l/l/l/l/l/l/l/l/l/l/l/l/l/a.js"

theorem stat_turnBase : turnTree.stat "/" turnBase = .ok (["work"], .directory turnEntries) := by
  have sound : pathFault? turnBase = none := pathFault?_eq_none_iff.mpr (by decide +kernel)
  have steps : pathSteps (Path.join "/" turnBase) = ["work"] ++ (List.replicate 30 "l" ++ []) := by
    decide +kernel
  have there : turnTree.at? ["work"] = some (.directory turnEntries) := rfl
  have turns : turnTree.follow .reach maxLinks ["work"] (List.replicate 30 "l" ++ []) =
      turnTree.follow .reach 10 ["work"] [] := follow_turns there rfl (by decide) []
  rw [stat_eq_reached sound, steps, follow_place isStep_work there, List.nil_append, turns,
    follow_nil there]
  rfl

theorem stat_slashPath : turnTree.stat "/work" slashPath = .ok (["work", "a.js"], .file []) := by
  rw [stat_work isRelative_slashPath pathFault?_slashPath pathSteps_slashPath]
  cbv

theorem stat_join_slashPath :
    turnTree.stat "/work" (Path.join "/work" slashPath) = .error .nameTooLong := by
  have slash : Path.slashed "/work".toList = "/work/".toList := by decide
  have joined : Path.join "/work" slashPath = "/work/" ++ slashPath := by
    refine String.toList_inj.mp ?_
    rw [Path.toList_join isRelative_slashPath, slash, String.toList_append]
  have free : '\x00' ∉ ("/work/" ++ slashPath).toList := by
    rw [String.toList_append, List.mem_append, not_or]
    exact ⟨by decide, (pathFault?_eq_none_iff.mp pathFault?_slashPath).2.1⟩
  have size : ("/work/" ++ slashPath).utf8ByteSize = 4096 := by
    have six : "/work/".utf8ByteSize = 6 := by decide
    rw [String.utf8ByteSize_append, utf8ByteSize_slashPath, six]
  have long : maxPathLength < ("/work/" ++ slashPath).utf8ByteSize := by
    rw [size]
    decide
  have some : "/work/" ++ slashPath ≠ "" := fun none => by
    rw [none, String.utf8ByteSize_empty] at size
    exact absurd size (by decide)
  rw [joined]
  exact stat_of_pathFault? (pathFault?_of_long some free long)

theorem stat_turnRoot : turnTree.stat "/work" turnRoot = .ok (["work", "a.js"], .file []) := by
  have there : turnTree.at? ["work"] = some (.directory turnEntries) := rfl
  have sound : pathFault? turnRoot = none := pathFault?_eq_none_iff.mpr (by decide +kernel)
  have relative : Path.IsRelative turnRoot := ⟨by decide, by decide⟩
  have steps : pathSteps turnRoot = List.replicate 20 "l" ++ ["a.js"] := by decide +kernel
  have turns : turnTree.follow .reach maxLinks ["work"] (List.replicate 20 "l" ++ ["a.js"]) =
      turnTree.follow .reach 20 ["work"] ["a.js"] := follow_turns there rfl (by decide) _
  rw [stat_work relative sound steps, turns]
  cbv

theorem stat_join_turnRoot :
    turnTree.stat "/work" (Path.join turnBase turnRoot) = .error .tooManyLinks := by
  have there : turnTree.at? ["work"] = some (.directory turnEntries) := rfl
  have sound : pathFault? (Path.join turnBase turnRoot) = none :=
    pathFault?_eq_none_iff.mpr (by decide +kernel)
  have steps : pathSteps (Path.join "/work" (Path.join turnBase turnRoot)) =
      ["work"] ++ (List.replicate 40 "l" ++ ("l" :: (List.replicate 9 "l" ++ ["a.js"]))) := by
    decide +kernel
  have turns (rest : List String) : turnTree.follow .reach maxLinks ["work"]
      (List.replicate 40 "l" ++ rest) = turnTree.follow .reach 0 ["work"] rest :=
    follow_turns there rfl (by decide) rest
  rw [stat_eq_reached sound, steps, follow_place isStep_work there, List.nil_append, turns]
  cbv

theorem roots_spelled_out_through_parent :
    turnTree.WellNamed ∧ FileTree.isAbsolute "/work/" = true ∧
      turnTree.stat "/" "/work/" = .ok (["work"], .directory turnEntries) ∧
      (∀ root ∈ ["../work/a.js"], FileTree.isAbsolute root = false) ∧
      toText (.default "/work/") turnTree "/work" ["../work/a.js"] =
        .ok (Catalog.header, ⟨1, 1, 0⟩) ∧
      (toText (.default "/work/") turnTree "/work" [Path.join "/work/" "../work/a.js"] =
          .ok (Catalog.header, ⟨1, 1, 0⟩) ∨
        ∃ e, toText (.default "/work/") turnTree "/work" [Path.join "/work/" "../work/a.js"] =
          .error e ∧ e.IsLimit) := by
  have names : turnTree.WellNamed := by
    have inner : (FileTree.directory turnEntries).WellNamed := by
      refine .directory (by decide) (by decide) (List.forall_mem_cons.mpr ⟨.file [], ?_⟩)
      exact List.forall_mem_singleton.mpr (.link ".")
    exact .directory (by decide) (List.forall_mem_singleton.mpr (by decide))
      (List.forall_mem_singleton.mpr inner)
  have directory : turnTree.stat "/" "/work/" = .ok (["work"], .directory turnEntries) := by
    rw [stat_eq (by cbv) (by decide : _ = ["work", ""])]
    cbv
  have file : turnTree.stat "/work" "../work/a.js" = .ok (["work", "a.js"], .file []) := by
    rw [stat_eq (by cbv) (by decide : _ = ["work", "..", "work", "a.js"])]
    cbv
  have extracted : toText (.default "/work/") turnTree "/work" ["../work/a.js"] =
      .ok (Catalog.header, ⟨1, 1, 0⟩) := toText_empty file
  exact ⟨names, by decide, directory, by decide, extracted,
    (roots_spelled_out names (.default "/work/") (by decide) directory).2 ["../work/a.js"] _ _
      (by decide) extracted⟩

theorem roots_beyond_limits :
    turnTree.stat "/" "/work" = .ok (["work"], .directory turnEntries) ∧
      toText (.default "/work") turnTree "/work" [slashPath] = .ok (Catalog.header, ⟨1, 1, 0⟩) ∧
      toText (.default "/work") turnTree "/work" [Path.join "/work" slashPath] =
        .error (.stat (Path.join "/work" slashPath) (.os .nameTooLong)) ∧
      turnTree.stat "/" turnBase = .ok (["work"], .directory turnEntries) ∧
      toText (.default turnBase) turnTree "/work" [turnRoot] = .ok (Catalog.header, ⟨1, 1, 0⟩) ∧
      toText (.default turnBase) turnTree "/work" [Path.join turnBase turnRoot] =
        .error (.stat (Path.join turnBase turnRoot) (.os .tooManyLinks)) := by
  have directory : turnTree.stat "/" "/work" = .ok (["work"], .directory turnEntries) := by
    rw [stat_eq (by cbv) (by decide : _ = ["work"])]
    cbv
  exact ⟨directory, toText_empty stat_slashPath, toText_missing stat_join_slashPath,
    stat_turnBase, toText_empty stat_turnRoot, toText_missing stat_join_turnRoot⟩

end Extraction

end MessageCatalog
