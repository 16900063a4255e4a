import MessageCatalog.Proofs.FileTree.Join
import MessageCatalog.Proofs.Listing.Parts

/-! # Listings of roots that are spelled out

A relative root can be spelled out from the working directory on. The listing then holds the same
files, spelled out likewise, unless the longer paths are beyond a limit: then it breaks off there.
-/

namespace MessageCatalog

open FileTree (IsLimit)

/-- Whether a failure tells that a path is beyond a limit. -/
def Failure.IsLimit : Failure → Prop
  | .stat path (.os e) => FileTree.IsLimit path e
  | .read path (.os e) => FileTree.IsLimit path e
  | .listing _ (.entry path e) => FileTree.IsLimit path e
  | _ => False

/-- Whether `base` names the working directory from the root on. -/
structure FileTree.Stationed (t : FileTree) (base cwd : String) : Prop where
  absolute : Path.isAbsolute base.toList = true
  directory : ∃ place entries, t.stat "/" base = .ok (place, .directory entries) ∧
    cwd = placePath place

namespace FileTree.Stationed

variable {t : FileTree} {base cwd path : String}

theorem stat (station : t.Stationed base cwd) (relative : Path.IsRelative path)
    {found : Place × FileTree} (leads : t.stat cwd path = .ok found) :
    t.stat cwd (Path.join base path) = .ok found ∨
      ∃ e, t.stat cwd (Path.join base path) = .error e ∧ IsLimit (Path.join base path) e := by
  obtain ⟨place, entries, directory, rfl⟩ := station.directory
  rw [← leads]
  exact stat_spelled_out station.absolute directory relative (pathFault?_of_stat leads)

theorem pathFault? (station : t.Stationed base cwd) (relative : Path.IsRelative path)
    (sound : FileTree.pathFault? path = none) :
    FileTree.pathFault? (Path.join base path) = none ∨
      ∃ e, FileTree.pathFault? (Path.join base path) = some e ∧ IsLimit (Path.join base path) e := by
  obtain ⟨place, entries, directory, _⟩ := station.directory
  exact pathFault?_join (pathFault?_of_stat directory) relative sound

end FileTree.Stationed

namespace Walk.Spot

/-- Two spots that are the same but for the path, which is spelled out from a directory on. -/
structure SpelledOut (base : String) (s s' : Spot) : Prop where
  path : s'.path = Path.join base s.path
  relative : Path.IsRelative s.path
  place : s'.place = s.place
  node : s'.node = s.node
  inside : s'.inside.map Ancestor.place = s.inside.map Ancestor.place

theorem SpelledOut.entry {base : String} {s s' : Spot} (alike : SpelledOut base s s')
    (place : Place) {e : String × FileTree} (proper : Path.IsName e.1.toList) :
    SpelledOut base (s.entry place e) (s'.entry place e) where
  path := by
    rw [Spot.entry, Spot.entry, alike.path]
    exact Path.join_join alike.relative (Path.isRelative_name proper) base
  relative := alike.relative.join (Path.isRelative_name proper)
  place := rfl
  node := rfl
  inside := congrArg (place :: ·) alike.inside

theorem SpelledOut.find? {base : String} {s s' : Spot} (alike : SpelledOut base s s')
    {place : Place} (outside : s.inside.find? (·.place = place) = none) :
    s'.inside.find? (·.place = place) = none := by
  have places (ancestors : List Ancestor) : ancestors.find? (·.place = place) = none ↔
      place ∉ ancestors.map Ancestor.place := by
    simp only [List.find?_eq_none, decide_eq_true_eq, List.mem_map, not_exists, not_and]
  rw [places] at outside ⊢
  rwa [alike.inside]

end Walk.Spot

namespace Listing

open Walk (Spot)

/-- How a listing relates to that of the root spelled out, unless it fails itself: the latter has
the same files spelled out, or the first of them up to a limit. -/
inductive SpelledOut (base : String) : Listing → Listing → Prop where
  | failed {listing listing' : Listing} (failure : listing.failure ≠ none) :
    SpelledOut base listing listing'
  | whole {files : List String} (relative : ∀ file ∈ files, Path.IsRelative file) :
    SpelledOut base ⟨files, none⟩ ⟨files.map (Path.join base), none⟩
  | cut {files kept : List String} {e : Failure} (first : kept <+: files)
    (relative : ∀ file ∈ kept, Path.IsRelative file) (limit : e.IsLimit) :
    SpelledOut base ⟨files, none⟩ ⟨kept.map (Path.join base), some e⟩

variable {base : String}

theorem SpelledOut.empty : SpelledOut base Listing.empty Listing.empty :=
  .whole (List.forall_mem_nil _)

theorem SpelledOut.limit (listing : Listing) {path : String} {e : OsError}
    (limit : IsLimit path e) : SpelledOut base listing (Listing.failed path (.entry path e)) := by
  obtain ⟨files, failure⟩ := listing
  cases failure with
  | some _ => exact .failed nofun
  | none =>
      have limit : Failure.IsLimit (.listing path (.entry path e)) := limit
      have cut : SpelledOut base ⟨files, .none⟩ ⟨[].map (Path.join base), some _⟩ :=
        .cut List.nil_prefix (List.forall_mem_nil _) limit
      exact cut

theorem SpelledOut.append {first first' later later' : Listing}
    (head : SpelledOut base first first') (rest : SpelledOut base later later') :
    SpelledOut base (first.append later) (first'.append later') := by
  cases head with
  | failed failure =>
      refine .failed ?_
      unfold Listing.append
      split
      · exact nofun
      · rename_i none
        exact absurd none failure
  | whole relative =>
      cases rest with
      | failed failure => exact .failed failure
      | whole relative' =>
          have all : SpelledOut base _ _ := .whole (List.forall_mem_append.mpr ⟨relative, relative'⟩)
          rwa [List.map_append] at all
      | cut before relative' limit =>
          have all : SpelledOut base _ _ := .cut ((List.prefix_append_right_inj _).mpr before)
            (List.forall_mem_append.mpr ⟨relative, relative'⟩) limit
          rwa [List.map_append] at all
  | cut before relative limit =>
      obtain ⟨files, failure⟩ := later
      cases failure with
      | some e => exact .failed nofun
      | none => exact .cut (before.trans (List.prefix_append _ _)) relative limit

section Entry

variable {filter : NameFilter} {name path path' : String}

theorem spelledOut_file (relative : Path.IsRelative path) (same : path' = Path.join base path) :
    SpelledOut base (ofEntry filter name path .file) (ofEntry filter name path' .file) := by
  subst same
  rw [ofEntry, ofEntry]
  split
  · exact .whole (List.forall_mem_singleton.mpr relative)
  · exact .empty

theorem spelledOut_directory {children children' : List (String × Sight)}
    (inner : SpelledOut base (ofEntries filter path children) (ofEntries filter path' children')) :
    SpelledOut base (ofEntry filter name path (.directory children))
      (ofEntry filter name path' (.directory children')) := by
  rw [ofEntry, ofEntry]
  split
  · exact inner
  · exact .empty

theorem spelledOut_unopened {e : OsError} {sight : Sight}
    (closed : filter.acceptsDir name ≠ true → ofEntry filter name path' sight = .empty) :
    SpelledOut base (ofEntry filter name path (.unopened e)) (ofEntry filter name path' sight) := by
  rw [ofEntry]
  split
  · exact .failed (by simp [Listing.failed])
  · rename_i rejected
    rw [closed rejected]
    exact .empty

/-- What is beyond a limit ends the listing, or would not have been entered anyway. -/
theorem spelledOut_limit {children : List (String × Sight)} {e : OsError} (limit : IsLimit path' e) :
    SpelledOut base (ofEntry filter name path (.directory children))
      (ofEntry filter name path' (.unopened e)) := by
  rw [ofEntry, ofEntry]
  split
  · exact .limit _ limit
  · exact .empty

end Entry

section Walk

variable {t : FileTree} {cwd : String} {filter : NameFilter} {s s' : Spot}

/-- What a walk adds to the listing at a spot whose path is spelled out, given what is added by a
directory that the spot leads to. -/
theorem spelledOut_ofEntry (station : t.Stationed base cwd) (stands : s.Stands t)
    (alike : s.SpelledOut base s') (name : String)
    (inner : ∀ place entries, t.at? place = some (.directory entries) →
      s.sight t cwd = .directory (s.sights t cwd place entries) →
      SpelledOut base (ofEntries filter s.path (s.sights t cwd place entries))
        (ofEntries filter s'.path (s'.sights t cwd place entries))) :
    SpelledOut base (ofEntry filter name s.path (s.sight t cwd))
      (ofEntry filter name s'.path (s'.sight t cwd)) := by
  rw [Spot.sight_eq t cwd s', alike.node, alike.place]
  rw [Spot.sight_eq t cwd s] at inner ⊢
  cases node : s.node with
  | file content => exact spelledOut_file alike.relative alike.path
  | special => exact .empty
  | full => exact .empty
  | directory entries =>
      rw [node] at inner
      have there : t.at? s.place = some (.directory entries) := by rw [← node]; exact stands
      dsimp only at inner ⊢
      cases fault : FileTree.pathFault? s.path with
      | some e =>
          refine spelledOut_unopened fun rejected => ?_
          split <;> exact if_neg rejected
      | none =>
          rw [fault] at inner
          have opened := inner s.place entries there rfl
          rcases station.pathFault? alike.relative fault with clear | ⟨e, beyond, limit⟩
          · rw [alike.path, clear, ← alike.path]
            exact spelledOut_directory opened
          · rw [alike.path, beyond]
            exact spelledOut_limit limit
  | link target =>
      rw [node] at inner
      dsimp only at inner ⊢
      cases leads : t.stat cwd s.path with
      | error e => exact .failed (by simp [ofEntry, Listing.failed])
      | ok found =>
          rw [leads] at inner
          rcases station.stat alike.relative leads with same | ⟨e, beyond, limit⟩
          · obtain ⟨place, node⟩ := found
            rw [alike.path, same, ← alike.path]
            cases node with
            | directory entries =>
                dsimp only at inner ⊢
                cases inside : s.inside.find? (·.place = place) with
                | some ancestor => exact .failed (by simp [ofEntry, Listing.failed])
                | none =>
                    rw [inside] at inner
                    rw [alike.find? inside]
                    exact spelledOut_directory (inner place entries (FileTree.at?_of_look leads) rfl)
            | file content => exact spelledOut_file alike.relative alike.path
            | _ => exact .empty
          · rw [alike.path, beyond]
            exact .limit _ limit

theorem spelledOut_ofEntries (names : t.WellNamed) (station : t.Stationed base cwd)
    {s s' : Spot} (alike : s.SpelledOut base s') {place : Place} {entries : List (String × FileTree)}
    (there : t.at? place = some (.directory entries)) :
    SpelledOut base (ofEntries filter s.path (s.sights t cwd place entries))
      (ofEntries filter s'.path (s'.sights t cwd place entries)) := by
  -- Links may lead upwards in the tree, so the recursion is on what is seen, not on the tree.
  rw [Spot.sights_eq, Spot.sights_eq]
  refine related_ofEntries .empty .append fun e member => ?_
  have inside := Spot.mem_inOrder.mp member
  refine spelledOut_ofEntry station (Spot.Stands.entry names there inside)
    (alike.entry place (names.proper there e inside)) e.1 fun place' entries' there' sees => ?_
  have smaller : sizeOf ((s.entry place e).sights t cwd place' entries') <
      sizeOf (s.sights t cwd place entries) := by
    have part := List.sizeOf_lt_of_mem (Spot.mem_sights.mpr ⟨e, inside, rfl, sees⟩)
    simp only [Prod.mk.sizeOf_spec, Sight.directory.sizeOf_spec] at part
    omega
  exact spelledOut_ofEntries names station (alike.entry place (names.proper there e inside)) there'
termination_by sizeOf (s.sights t cwd place entries)

theorem spelledOut_ofRoot (names : t.WellNamed) (station : t.Stationed base cwd) {root : String}
    (relative : Path.IsRelative root) {place : Place} {entries : List (String × FileTree)}
    (directory : t.stat cwd root = .ok (place, .directory entries))
    (directory' : t.stat cwd (Path.join base root) = .ok (place, .directory entries)) :
    SpelledOut base (ofRoot filter t cwd root) (ofRoot filter t cwd (Path.join base root)) := by
  rw [ofRoot_directory directory, ofRoot_directory directory']
  have alike : (Spot.root root place entries).SpelledOut base
      (Spot.root (Path.join base root) place entries) := ⟨rfl, relative, rfl, rfl, rfl⟩
  exact spelledOut_ofEntries names station alike (FileTree.at?_of_look directory)

end Walk

end Listing

end MessageCatalog
