import MessageCatalog.Proofs.CommandLine.Alike
import MessageCatalog.Proofs.Listing.Parts
import MessageCatalog.Proofs.Pipeline.Outcome
import MessageCatalog.Proofs.Source

/-! # A file with the default settings

Making a file with the default settings changes nothing but that it is there: the settings loaded
from it are the default ones, and the file is ignored by every walk. Only a link that led nowhere
before may lead to the new file, or fail in another way.
-/

namespace MessageCatalog

open FileTree (Filled Gains IsStep OpensAlike join_slashed maxPathLength pathFault?
  pathFault?_eq_none_iff pathFault?_slashed_append slashed stat_slashed)

namespace Settings

variable {t t' : FileTree} {cwd dir : String} {place : Place}

/-- Whether `dir` names the directory at a place, no settings hold for it, and a file with settings
can be made in it. -/
structure Unset (t : FileTree) (cwd dir : String) (place : Place) : Prop where
  vacant : ∃ entries, t.stat cwd dir = .ok (place, .directory entries) ∧
    entries.lookup fileName = none
  short : pathFault? (Path.join dir fileName) = none
  unset : findFile t cwd dir = none

theorem isStep_fileName : IsStep fileName := ⟨by decide, by decide⟩

theorem pathExists_of_findFile (unset : findFile t cwd dir = none) :
    t.pathExists cwd (Path.join dir fileName) = false := by
  rw [findFile] at unset
  split at unset
  · cases unset
  · rename_i missing
    exact Bool.not_eq_true _ ▸ missing

/-! ## Making the file -/

theorem init_of_pathExists (there : t.pathExists cwd (Path.join dir fileName) = true) :
    init t cwd dir = .ok none := if_pos there

/-- A tree with a file for the default settings in the directory at a place. -/
def withDefault (t : FileTree) (place : Place) : FileTree :=
  t.put (place ++ [fileName]) (.file (Utf8.bytes defaultText))

theorem Unset.gains (unset : Unset t cwd dir place) :
    Gains place fileName (Utf8.bytes defaultText) t (withDefault t place) := by
  obtain ⟨entries, directory, free⟩ := unset.vacant
  exact .put (FileTree.at?_of_look directory) free _

theorem Unset.filled (unset : Unset t cwd dir place) :
    Filled (place ++ [fileName]) (Utf8.bytes defaultText) t (withDefault t place) :=
  .of_gains unset.gains

theorem Unset.stepNamed (unset : Unset t cwd dir place) (names : t.StepNamed) :
    (withDefault t place).StepNamed := by
  obtain ⟨entries, directory, _⟩ := unset.vacant
  exact names.put (FileTree.at?_of_look directory) isStep_fileName (.file _)

/-- A file to write to is opened as before, unless its path leads through the new file. -/
theorem Unset.opensAlike (unset : Unset t cwd dir place) (names : t.StepNamed) (wd path : String) :
    OpensAlike (place ++ [fileName]) (Utf8.bytes defaultText) (t.createFile wd path)
      ((withDefault t place).createFile wd path) := by
  obtain ⟨entries, directory, free⟩ := unset.vacant
  exact FileTree.opensAlike names (FileTree.at?_of_look directory) free isStep_fileName _ wd path

/-- Where no settings hold, a file with the default ones is made. -/
theorem Unset.init (unset : Unset t cwd dir place) :
    Settings.init t cwd dir = .ok (some (withDefault t place, place ++ [fileName])) := by
  obtain ⟨entries, directory, free⟩ := unset.vacant
  have created := FileTree.createFile_vacant directory isStep_fileName free unset.short
  have filled := (Gains.put (FileTree.at?_of_look directory) free []).append
  simp only [Settings.init, pathExists_of_findFile unset.unset, Bool.false_eq_true, ↓reduceIte,
    created, filled]
  rfl

theorem Unset.stat (unset : Unset t cwd dir place) :
    (withDefault t place).stat cwd (Path.join dir fileName) =
      .ok (place ++ [fileName], .file (Utf8.bytes defaultText)) := by
  obtain ⟨entries, directory, _⟩ := unset.vacant
  obtain ⟨entries', directory'⟩ := unset.filled.stat_directory directory
  have there' : (withDefault t place).at? place = some (.directory entries') :=
    FileTree.at?_of_look directory'
  have found := (FileTree.lookup_eq_at? there' fileName).trans unset.gains.made
  exact FileTree.stat_entry directory' isStep_fileName found nofun unset.short

/-! ## The settings in the file -/

theorem eq_ok_of_toOption {ε α : Type} {outcome : Except ε α} {a : α}
    (h : outcome.toOption = some a) : outcome = .ok a := by
  cases outcome with
  | ok _ => exact congrArg Except.ok (Option.some.inj h)
  | error _ => cases h

theorem parse_ofList (cs : List Char) :
    parse (String.ofList cs) = (readDocument.run ⟨cs, ⟨1, 0⟩⟩).map Prod.fst := by
  rw [parse, Json.Input.ofString, String.toList_ofList]

theorem parse_defaultText : parse defaultText = .ok default := by
  -- The characters are read as they are printed, not out of the bytes of a string.
  rw [defaultText, print, Json.printObject, parse_ofList]
  exact eq_ok_of_toOption (by decide +kernel)

theorem fault?_default : default.fault? = none := by cbv

theorem loadFile_eq_ok {path text : String} {settings : Settings}
    (bytes : t.bytesOf cwd path = .ok (Utf8.bytes text)) (parsed : parse text = .ok settings)
    (valid : settings.fault? = none) : loadFile t cwd path = .ok settings := by
  simp only [loadFile, bytes, Utf8.decode_bytes, String.ofList_toList, parsed, valid]

theorem Unset.load (unset : Unset t cwd dir place) :
    Settings.load (withDefault t place) cwd dir = .ok ⟨default, true⟩ := by
  have found := unset.stat
  have there : (withDefault t place).pathExists cwd (Path.join dir fileName) = true := by
    rw [FileTree.pathExists, found]
    rfl
  have nearest : findFile (withDefault t place) cwd dir = some (Path.join dir fileName) := by
    rw [findFile]
    exact if_pos there
  have bytes : (withDefault t place).bytesOf cwd (Path.join dir fileName) =
      .ok (Utf8.bytes defaultText) := by rw [FileTree.bytesOf, found]
  have loaded := loadFile_eq_ok bytes parse_defaultText fault?_default
  simp only [Settings.load, nearest, loaded]

theorem Unset.load_before (unset : Unset t cwd dir place) :
    Settings.load t cwd dir = .ok ⟨default, false⟩ := by
  simp only [Settings.load, unset.unset]

end Settings

/-! ## Extracting with the file -/

theorem NameFilter.make_default :
    make [] defaultIgnores defaultIgnoreDirs = .ok NameFilter.default := by cbv

theorem NameFilter.ignores_fileName : NameFilter.default.Ignores Settings.fileName :=
  ⟨by cbv, by cbv⟩

namespace CommandLine

variable {c : ExtractCommand} {t t' : FileTree} {cwd : String} {rules : Rules}

/-- Whether a command leaves it to the settings which files are looked at. -/
structure ExtractCommand.Unfiltered (c : ExtractCommand) : Prop where
  includes : c.includes = []
  ignores : c.ignores = []
  ignoreDirs : c.ignoreDirs = []

theorem ExtractCommand.Unfiltered.filter (unfiltered : c.Unfiltered) {base : String}
    (compiled : (c.override Settings.default).rules base = .ok rules) :
    rules.filter = NameFilter.default := by
  have made : NameFilter.make (c.override .default).includes (c.override .default).ignores
      (c.override .default).ignoreDirs = .ok NameFilter.default := by
    simp only [ExtractCommand.override, unfiltered.includes, unfiltered.ignores,
      unfiltered.ignoreDirs, List.isEmpty_nil, ↓reduceIte]
    exact NameFilter.make_default
  simp only [Settings.rules, bind, Except.bind, made] at compiled
  split at compiled
  · cases compiled
  · cases compiled
    rfl

end CommandLine

namespace Settings

open CommandLine (EndsAlike ExtractCommand Surroundings extract)
open Walk (RootsAlike Spot)

/-- The entries of a directory that is the root of a repository. -/
def repository (node : FileTree) : List (String × FileTree) :=
  [(".git", .file []), ("a.js", node)]

def repositoryTree (node : FileTree) : FileTree := .directory [("w", .directory (repository node))]

theorem isStep_repository : ∀ name ∈ ["w", ".git", "a.js"], IsStep name :=
  List.forall_mem_cons.mpr ⟨⟨by decide, by decide⟩, List.forall_mem_cons.mpr
    ⟨⟨by decide, by decide⟩, List.forall_mem_singleton.mpr ⟨by decide, by decide⟩⟩⟩

theorem stepNamed_repositoryTree {node : FileTree} (names : node.StepNamed) :
    (repositoryTree node).StepNamed := by
  have distinct : [".git", "a.js"].Nodup := by decide
  have inner : (FileTree.directory (repository node)).StepNamed :=
    .directory distinct
      (List.forall_mem_cons.mpr ⟨isStep_repository _ (by simp),
        List.forall_mem_singleton.mpr (isStep_repository _ (by simp))⟩)
      (List.forall_mem_cons.mpr ⟨.file [], List.forall_mem_singleton.mpr names⟩)
  exact .directory (List.nodup_singleton "w")
    (List.forall_mem_singleton.mpr (isStep_repository _ (by simp)))
    (List.forall_mem_singleton.mpr inner)

theorem unset_repositoryTree (node : FileTree) : Unset (repositoryTree node) "/w" "/w" ["w"] := by
  have directory : (repositoryTree node).stat "/w" "/w" =
      .ok (["w"], .directory (repository node)) := by
    rw [FileTree.stat_eq (by cbv) (by decide : _ = ["w"])]
    cbv
  have short : pathFault? (Path.join "/w" fileName) = none :=
    pathFault?_eq_none_iff.mpr (by decide)
  have missing := FileTree.stat_vacant directory isStep_fileName (by rfl) short
  have mark := FileTree.stat_entry directory (isStep_repository ".git" (by simp)) rfl (by simp)
    (pathFault?_eq_none_iff.mpr (by decide))
  refine ⟨⟨_, directory, rfl⟩, short, ?_⟩
  rw [findFile]
  simp only [FileTree.pathExists, missing, repositoryMark, mark, Except.isOk, Except.toBool,
    Bool.false_eq_true, ↓reduceIte]

theorem at?_put_repository {node file : FileTree} {name : String}
    (free : (repository node).lookup name = none) :
    ((repositoryTree node).put ["w", name] file).at? ["w"] =
      some (.directory (repository node ++ [(name, file)])) := by
  have git : ".git" ≠ name := by
    rintro rfl
    cases free
  have script : "a.js" ≠ name := by
    rintro rfl
    cases free
  have whole : (repositoryTree node).put ["w", name] file =
      .directory [("w", .directory (repository node ++ [(name, file)]))] := by
    simp [FileTree.put, repositoryTree, repository, FileTree.setEntry, git, script]
  rw [whole]
  rfl

def repositorySet (node : FileTree) : List (String × FileTree) :=
  repository node ++ [(fileName, .file (Utf8.bytes defaultText))]

theorem at?_repositorySet (node : FileTree) :
    (withDefault (repositoryTree node) ["w"]).at? ["w"] =
      some (.directory (repositorySet node)) := at?_put_repository rfl

theorem rules_default (base : String) :
    ({ paths := ["."] : ExtractCommand }.override default).rules base = .ok (.default base) := by
  cbv

section There

variable {t : FileTree} {entries : List (String × FileTree)}
  (there : t.at? ["w"] = some (.directory entries))
include there

theorem stat_here : t.stat "/w" "." = .ok (["w"], .directory entries) := by
  have place : "/w" = FileTree.placePath ["w"] := rfl
  have steps : FileTree.pathSteps "." = ["."] := rfl
  rw [place, FileTree.stat_placePath (fun name among => isStep_repository name (by simp_all)) there
    ⟨by decide, by decide⟩ (pathFault?_eq_none_iff.mpr (by decide)), steps,
    FileTree.follow_stays there (.inl rfl), FileTree.follow_nil there]
  rfl

theorem stat_linked (link : entries.lookup "a.js" = some (.link fileName)) :
    t.stat "/w" "./a.js" = FileTree.reached (t.follow .reach 39 ["w"] [fileName]) := by
  have place : "/w" = FileTree.placePath ["w"] := rfl
  have steps : FileTree.pathSteps "./a.js" = [".", "a.js"] := rfl
  have target : FileTree.pathSteps fileName = [fileName] :=
    FileTree.pathSteps_name isStep_fileName.entry.isName
  have lookup : FileTree.IsLookup .reach "a.js" [] :=
    (isStep_repository "a.js" (by simp)).isLookup (nomatch ·.1)
  have named : fileName.isEmpty = false := rfl
  have relative : FileTree.isAbsolute fileName = false := rfl
  rw [place, FileTree.stat_placePath (fun name among => isStep_repository name (by simp_all)) there
    ⟨by decide, by decide⟩ (pathFault?_eq_none_iff.mpr (by decide)), steps,
    FileTree.follow_stays there (.inl rfl), FileTree.follow_lookup there lookup,
    if_neg (by decide), link]
  simp only [FileTree.maxLinks, reduceCtorEq, and_false, ↓reduceIte, named, relative, target,
    Bool.false_eq_true, List.append_nil]

end There

theorem rootsAlike_here {t t' : FileTree} {cwd : String} {filter : NameFilter}
    {entries : List (String × FileTree)}
    (directory : t.stat cwd "." = .ok (["w"], .directory entries))
    (files : ∀ e ∈ entries, e.2 = .file []) : RootsAlike t t' cwd filter ["."] := by
  have plain : (FileTree.directory entries).Linkless :=
    .directory fun e member => files e member ▸ .file []
  refine List.forall_mem_singleton.mpr ⟨["w"], entries, directory, ?_⟩
  exact Spot.LinkFree.failsAlike (Spot.linkFree_of_linkless plain)

section Linked

def linkedTree : FileTree := repositoryTree (.link fileName)

theorem stat_link_before : linkedTree.stat "/w" "./a.js" = .error .notFound := by
  have there : linkedTree.at? ["w"] = some (.directory (repository (.link fileName))) := rfl
  have lookup : FileTree.IsLookup .reach fileName [] := isStep_fileName.isLookup (nomatch ·.1)
  rw [stat_linked there rfl, FileTree.follow_lookup there lookup,
    if_neg (Nat.not_lt.mpr isStep_fileName.short)]
  rfl

theorem stat_link_after : (withDefault linkedTree ["w"]).stat "/w" "./a.js" =
    .ok (["w", fileName], .file (Utf8.bytes defaultText)) := by
  have there := at?_repositorySet (.link fileName)
  have lookup : FileTree.IsLookup .reach fileName [] := isStep_fileName.isLookup (nomatch ·.1)
  have found : (repositorySet (.link fileName)).lookup fileName =
      some (.file (Utf8.bytes defaultText)) := by rfl
  have last := (FileTree.lookup_eq_at? there fileName).symm.trans found
  rw [linkedTree, stat_linked there rfl, FileTree.follow_lookup there lookup,
    if_neg (Nat.not_lt.mpr isStep_fileName.short), found]
  exact congrArg FileTree.reached (FileTree.follow_nil last)

theorem acceptsFile_git : NameFilter.default.acceptsFile ".git" = false := by cbv

theorem listing_before : Listing.ofRoot .default linkedTree "/w" "." =
    .failed "./a.js" (.entry "./a.js" .notFound) := by
  have there : linkedTree.at? ["w"] = some (.directory (repository (.link fileName))) := rfl
  have order : Spot.inOrder (repository (.link fileName)) = repository (.link fileName) := by cbv
  have path : Path.join "." "a.js" = "./a.js" := rfl
  rw [Listing.ofRoot_directory (stat_here there), Spot.sights_eq, order]
  simp [repository, Listing.ofEntries_cons, Spot.sight_eq, Spot.entry, Spot.root, Listing.ofEntry,
    acceptsFile_git, path, stat_link_before, Listing.append, Listing.empty, Listing.failed]

theorem listing_after :
    Listing.ofRoot .default (withDefault linkedTree ["w"]) "/w" "." = .file "./a.js" := by
  have there := at?_repositorySet (.link fileName)
  have order (content : List UInt8) :
      Spot.inOrder (repository (.link fileName) ++ [(fileName, .file content)]) =
        [(".git", .file []), (fileName, .file content), ("a.js", .link fileName)] := by
    have first : Sight.nameLe ".git" "a.js" = true := rfl
    have second : Sight.nameLe ".git" fileName = true := rfl
    have third : Sight.nameLe "a.js" fileName = false := rfl
    simp [Spot.inOrder, repository, List.mergeSort, List.MergeSort.Internal.splitInTwo, first,
      second, third]
  have ignored := NameFilter.ignores_fileName.1
  have shown : NameFilter.default.acceptsFile "a.js" = true := by cbv
  have path : Path.join "." "a.js" = "./a.js" := rfl
  have after := stat_link_after
  rw [linkedTree] at after ⊢
  rw [Listing.ofRoot_directory (stat_here there), Spot.sights_eq, repositorySet, order]
  simp [Listing.ofEntries_cons, Spot.sight_eq, Spot.entry, Spot.root, Listing.ofEntry,
    acceptsFile_git, ignored, shown, path, after, Listing.append, Listing.empty, Listing.ofEntries,
    Listing.file]

theorem fails_before : (Extraction.toText (.default "/w") linkedTree "/w" ["."]).isOk = false := by
  have due := Pipeline.due_toText (.default "/w") linkedTree "/w" ["."]
  have work : Pipeline.RootWork.ofRoot (.default "/w") linkedTree "/w" "." =
      .directory [] (some (.listing "./a.js" (.entry "./a.js" .notFound))) := by
    have there : linkedTree.at? ["w"] = some (.directory (repository (.link fileName))) := rfl
    simp only [Pipeline.RootWork.ofRoot, stat_here there, Rules.default, listing_before]
    rfl
  rw [List.map_singleton, work] at due
  generalize Extraction.toText (.default "/w") linkedTree "/w" ["."] = outcome at due ⊢
  cases due with
  | ok read => cases read _ List.mem_cons_self
  | error => rfl

theorem succeeds_after :
    (Extraction.toText (.default "/w") (withDefault linkedTree ["w"]) "/w" ["."]).isOk = true := by
  have due := Pipeline.due_toText (.default "/w") (withDefault linkedTree ["w"]) "/w" ["."]
  have drained :
      (Source.ofBytes (.default "/w") "./a.js" (Utf8.bytes defaultText)).drain.2 = none :=
    Source.drain_ofBytes _ _ _
  have work : Pipeline.RootWork.ofRoot (.default "/w") (withDefault linkedTree ["w"]) "/w" "." =
      .directory
        [Pipeline.fileWork (.default "/w") (withDefault linkedTree ["w"]) "/w" "./a.js"] none := by
    have there := at?_repositorySet (.link fileName)
    rw [← linkedTree] at there
    simp only [Pipeline.RootWork.ofRoot, stat_here there, Rules.default, listing_after]
    rfl
  rw [List.map_singleton, work] at due
  rw [due.eq_ok (List.forall_mem_singleton.mpr ?_)]
  · rfl
  · simp [Pipeline.RootWork.failures, Pipeline.fileWork, Traversal.file, FileTree.bytesOf,
      stat_link_after, drained]

end Linked

/-! ### A file to write to, below the new file -/

def belowFile : String := Path.join "." (fileName ++ "/x")

theorem locate_belowFile {t : FileTree} {entries : List (String × FileTree)}
    (there : t.at? ["w"] = some (.directory entries)) :
    ∃ left, t.locate .write "/w" belowFile = t.follow .write left ["w"] [fileName, "x"] := by
  have steps : FileTree.pathSteps (fileName ++ "/x") = [fileName, "x"] := rfl
  have relative : Path.IsRelative (fileName ++ "/x") := ⟨by decide, rfl⟩
  have sound : pathFault? (Path.join "." (fileName ++ "/x")) = none :=
    pathFault?_eq_none_iff.mpr (by decide)
  obtain ⟨left, _, located⟩ := FileTree.locate_join .write (stat_here there) relative sound
    (by rw [steps]; decide)
  exact ⟨left, by rw [belowFile, located, steps]⟩

theorem createFile_before :
    linkedTree.createFile "/w" belowFile = .error .notFound := by
  have there : linkedTree.at? ["w"] = some (.directory (repository (.link fileName))) := rfl
  have lookup : FileTree.IsLookup .write fileName ["x"] := isStep_fileName.isLookup (by decide)
  have free : (repository (.link fileName)).lookup fileName = none := by rfl
  obtain ⟨left, located⟩ := locate_belowFile there
  rw [FileTree.follow_lookup there lookup, if_neg (Nat.not_lt.mpr isStep_fileName.short), free]
    at located
  simp only [FileTree.createFile, located, reduceCtorEq, ↓reduceIte]

theorem createFile_after :
    (withDefault linkedTree ["w"]).createFile "/w" belowFile = .error .notADirectory := by
  have there := at?_repositorySet (.link fileName)
  have lookup : FileTree.IsLookup .write fileName ["x"] := isStep_fileName.isLookup (by decide)
  have found : (repositorySet (.link fileName)).lookup fileName =
      some (.file (Utf8.bytes defaultText)) := by rfl
  have last := (FileTree.lookup_eq_at? there fileName).symm.trans found
  rw [← linkedTree] at there last
  obtain ⟨left, located⟩ := locate_belowFile there
  rw [FileTree.follow_lookup there lookup, if_neg (Nat.not_lt.mpr isStep_fileName.short), found]
    at located
  simp only [FileTree.follow_file last] at located
  simp only [FileTree.createFile, located]

/-! ### A path without room for the name of the file -/

section Slashed

variable (n : Nat) (node : FileTree)

section Long

variable (long : maxPathLength < n + 22)
include long

theorem pathFault?_slashed_fileName :
    pathFault? (Path.join (slashed n) fileName) = some .nameTooLong := by
  have free : '\x00' ∉ fileName.toList := by decide
  have size : fileName.utf8ByteSize = 19 := rfl
  rw [join_slashed n isStep_fileName.entry.isName, pathFault?_slashed_append n free, size]
  exact if_pos long

theorem stat_slashed_fileName (t : FileTree) (cwd : String) :
    t.stat cwd (Path.join (slashed n) fileName) = .error .nameTooLong :=
  FileTree.stat_of_pathFault? (pathFault?_slashed_fileName n long)

/-- There is no room in the path for the name of settings, but for the mark of a repository. -/
theorem findFile_slashed {t : FileTree} {entries : List (String × FileTree)}
    (there : t.at? ["w"] = some (.directory entries))
    (marked : entries.lookup ".git" = some (.file [])) (cwd : String)
    (short : n + 7 ≤ maxPathLength) : findFile t cwd (slashed n) = none := by
  have isStep := isStep_repository ".git" (by simp)
  have sound : pathFault? (Path.join (slashed n) ".git") = none := by
    rw [join_slashed n isStep.entry.isName, pathFault?_slashed_append n (by decide)]
    exact if_neg (Nat.not_lt.mpr short)
  have directory := stat_slashed n there cwd ((Nat.le_add_right _ 4).trans short)
  have mark := FileTree.stat_entry directory isStep marked nofun sound
  rw [findFile]
  simp only [FileTree.pathExists, stat_slashed_fileName n long, repositoryMark, mark, Except.isOk,
    Except.toBool, Bool.false_eq_true, ↓reduceIte]

theorem init_slashed (cwd : String) : Settings.init (repositoryTree node) cwd (slashed n) =
    .error ⟨Path.join (slashed n) fileName, .nameTooLong⟩ := by
  simp only [Settings.init, FileTree.pathExists, stat_slashed_fileName n long, Except.isOk,
    Except.toBool, Bool.false_eq_true, ↓reduceIte, FileTree.createFile, FileTree.locate,
    pathFault?_slashed_fileName n long]

end Long

end Slashed

end Settings

end MessageCatalog
