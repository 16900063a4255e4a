import MessageCatalog.Proofs.Listing.Below
import MessageCatalog.Proofs.Path.Relative
import MessageCatalog.Proofs.Schedule.Delivery
import MessageCatalog.Proofs.Traversal

/-! # Where messages are shown

A group is shown at the path of its file, relative to the base, and at its line. The files of a
listing are shown at different paths, and the groups of a file come one after the other; so no two
groups of a traversal are shown at one place.
-/

namespace MessageCatalog

/-- How the places where groups are shown follow each other: file by file and line by line. -/
structure Located (groups : List MessageGroup) : Prop where
  /-- No place is shown twice. -/
  once : (groups.map MessageGroup.location).Nodup
  /-- What comes between two groups of a path is of that path, too. -/
  together : ∀ first between last, [first, between, last].Sublist groups →
    first.location.path = last.location.path → between.location.path = first.location.path
  rising : groups.Pairwise fun a b =>
    a.location.path = b.location.path → a.location.line < b.location.line
  counted : ∀ g ∈ groups, 1 ≤ g.location.line
  messages : ∀ g ∈ groups, g.texts ≠ []

namespace Located

variable {groups others : List MessageGroup}

theorem nil : Located [] := by
  refine ⟨.nil, fun first between last inside => ?_, .nil, nofun, nofun⟩
  cases inside

theorem sublist (h : Located groups) (inside : others.Sublist groups) : Located others :=
  ⟨h.once.sublist (inside.map _), fun _ _ _ three => h.together _ _ _ (three.trans inside),
    h.rising.sublist inside, fun g member => h.counted g (inside.subset member),
    fun g member => h.messages g (inside.subset member)⟩

/-- Groups of one path whose lines rise. -/
theorem of_path {path : String} (same : ∀ g ∈ groups, g.location.path = path)
    (rising : groups.Pairwise fun a b => a.location.line < b.location.line)
    (counted : ∀ g ∈ groups, 1 ≤ g.location.line) (messages : ∀ g ∈ groups, g.texts ≠ []) :
    Located groups := by
  refine ⟨List.pairwise_map.mpr (rising.imp fun less equal => ?_), ?_,
    rising.imp ?_, counted, messages⟩
  · rw [equal] at less
    exact Nat.lt_irrefl _ less
  · intro first between last three _
    rw [same between (three.subset (by simp)), same first (three.subset (by simp))]
  · exact fun less _ => less

theorem append (h : Located groups) (h' : Located others)
    (apart : ∀ a ∈ groups, ∀ b ∈ others, a.location.path ≠ b.location.path) :
    Located (groups ++ others) := by
  refine ⟨?_, ?_, List.pairwise_append.mpr ⟨h.rising, h'.rising, fun a member b member' same =>
    absurd same (apart a member b member')⟩, List.forall_mem_append.mpr ⟨h.counted, h'.counted⟩,
    List.forall_mem_append.mpr ⟨h.messages, h'.messages⟩⟩
  · rw [List.map_append]
    refine List.nodup_append.mpr ⟨h.once, h'.once, ?_⟩
    simp only [List.forall_mem_map]
    exact fun a member b member' same =>
      apart a member b member' (congrArg Location.path same)
  · intro first between last three same
    obtain ⟨before, behind, split, inside, inside'⟩ := List.sublist_append_iff.mp three
    cases before with
    | nil => exact h'.together first between last (split ▸ inside') same
    | cons a before =>
        rw [List.cons_append] at split
        obtain ⟨rfl, later⟩ := List.cons.inj split
        -- The first is of one side, and so is the last, as they are of one path.
        rcases List.eq_nil_or_concat behind with rfl | ⟨start, b, rfl⟩
        · rw [List.append_nil] at later
          exact h.together first between last (later ▸ inside) same
        · rw [List.concat_eq_append, ← List.append_assoc] at later
          obtain rfl : last = b := by simpa using congrArg List.getLast? later
          exact absurd same
            (apart first (inside.subset (by simp)) last (inside'.subset (by simp)))

theorem flatMap {α : Type} {items : List α} {groups : α → List MessageGroup} {path : α → String}
    (each : ∀ item ∈ items, Located (groups item))
    (same : ∀ item ∈ items, ∀ g ∈ groups item, g.location.path = path item)
    (distinct : (items.map path).Nodup) : Located (items.flatMap groups) := by
  induction items with
  | nil => exact nil
  | cons item items ih =>
      obtain ⟨first, later⟩ := List.forall_mem_cons.mp each
      obtain ⟨here, there⟩ := List.forall_mem_cons.mp same
      obtain ⟨new, distinct⟩ := List.nodup_cons.mp distinct
      refine append first (ih later there distinct) fun a member b member' equal => new ?_
      obtain ⟨other, inside, of_other⟩ := List.mem_flatMap.mp member'
      rw [← here a member, equal, there other inside b of_other]
      exact List.mem_map_of_mem inside

end Located

theorem Traversal.located_file (rules : Rules) (t : FileTree) (cwd path : String) :
    Located (Traversal.file rules t cwd path).1 :=
  .of_path (fun g member => (fromLine_of_mem_file g member).path) pairwise_file
    (fun g member => (fromLine_of_mem_file g member).line)
    (fun g member => (fromLine_of_mem_file g member).messages)

/-- The files of a listing are shown at different paths, wherever the base is. -/
theorem Listing.nodup_displayPath {t : FileTree} (names : t.PlainNamed) {cwd root : String}
    {place : Place} {entries : List (String × FileTree)}
    (directory : t.stat cwd root = .ok (place, .directory entries)) (rules : Rules) :
    ((ofRoot rules.filter t cwd root).files.map rules.displayPath).Nodup := by
  have stands : (Walk.Spot.root root place entries).Stands t := FileTree.at?_of_look directory
  have shape : Exact root _ _ (ofRoot rules.filter t cwd root) :=
    exact_ofRoot names.toWellNamed directory
  obtain ⟨found, order, files, accepted⟩ := shape.exists_found
  rw [files, List.map_map]
  refine (List.nodup_map_iff_inj_on order.nodup).mpr fun a inside b inside' same => ?_
  obtain ⟨dirs, name, _, rfl, leads, _⟩ := accepted a inside
  obtain ⟨dirs', name', _, rfl, leads', _⟩ := accepted b inside'
  exact Path.relative_below_injective (by simp) (by simp)
    (leads.forall_names names.toWellNamed names.plain stands)
    (leads'.forall_names names.toWellNamed names.plain stands) same

namespace Schedule

/-- Under every schedule of the traversal of a directory, at any time and so also when it has
returned: no two of the groups that were handed over are shown at the same place, those of a path
come one right after the other with rising lines, which are counted from one, and every group has a
message. The base may be anywhere, also inside the root. -/
theorem handed_located {t : FileTree} (names : t.PlainNamed) {cwd root : String} {place : Place}
    {entries : List (String × FileTree)}
    (directory : t.stat cwd root = .ok (place, .directory entries)) (rules : Rules) {l : Limits}
    (openFiles : 0 < l.openFiles) (queuedFiles : 0 < l.queuedFiles) {s : State}
    (reached : Reachable l (State.ofRoot rules t cwd root) s) : Located s.handed := by
  have h := reached.invariant openFiles queuedFiles
  have handed := h.handed_prefix
  rw [List.flatMap_map] at handed
  refine Located.sublist ?_ handed.sublist
  exact .flatMap (fun path _ => Traversal.located_file rules t cwd path)
    (fun path _ g member => (Traversal.fromLine_of_mem_file g member).path)
    (Listing.nodup_displayPath names directory rules)

/-- The entries of a directory with two files of one name, one of them further below. -/
def nestedEntries : List (String × FileTree) :=
  [("a.js", .file (Utf8.bytes "_('x')\n\n_('y')")),
    ("b", .directory [("a.js", .file (Utf8.bytes "_('z')"))])]

/-- The base is inside the root, which is spelled with a step up. -/
theorem handed_located_inside :
    let t : FileTree := .directory [("w", .directory nestedEntries)]
    let rules : Rules := .default "/w/../w/b"
    let s := (State.ofRoot rules t "/" "/w/../w").run .standard 60
    t.PlainNamed ∧ t.stat "/" "/w/../w" = .ok (["w"], .directory nestedEntries) ∧
      0 < Limits.standard.openFiles ∧ 0 < Limits.standard.queuedFiles ∧
      Reachable .standard (State.ofRoot rules t "/" "/w/../w") s ∧ s.result = some (.ok 2) ∧
      s.handed.map MessageGroup.location = [⟨"../a.js", 1⟩, ⟨"../a.js", 3⟩, ⟨"a.js", 1⟩] ∧
      Located s.handed := by
  intro t rules s
  have names : t.PlainNamed := by
    refine .directory (by decide) (by decide) ?_
    rw [List.forall_mem_singleton]
    refine .directory (by decide) (by decide) (List.forall_mem_cons.mpr ⟨.file _, ?_⟩)
    rw [List.forall_mem_singleton]
    refine .directory (by decide) (by decide) ?_
    rw [List.forall_mem_singleton]
    exact .file _
  have directory : t.stat "/" "/w/../w" = .ok (["w"], .directory nestedEntries) := by
    rw [FileTree.stat_eq (by cbv) (by decide : _ = ["w", "..", "w"])]
    cbv
  have files : Listing.ofRoot rules.filter t "/" "/w/../w" =
      ⟨["/w/../w/a.js", "/w/../w/b/a.js"], none⟩ := by
    rw [Listing.ofRoot_directory directory]
    cbv
  have first : t.stat "/" "/w/../w/a.js" =
      .ok (["w", "a.js"], .file (Utf8.bytes "_('x')\n\n_('y')")) := by
    rw [FileTree.stat_eq (by cbv) (by decide : _ = ["w", "..", "w", "a.js"])]
    cbv
  have second : t.stat "/" "/w/../w/b/a.js" =
      .ok (["w", "b", "a.js"], .file (Utf8.bytes "_('z')")) := by
    rw [FileTree.stat_eq (by cbv) (by decide : _ = ["w", "..", "w", "b", "a.js"])]
    cbv
  have drained : (Source.ofBytes rules "/w/../w/a.js" (Utf8.bytes "_('x')\n\n_('y')")).drain =
      ([⟨⟨"../a.js", 1⟩, ["\"x\""]⟩, ⟨⟨"../a.js", 3⟩, ["\"y\""]⟩], none) := by decide +kernel
  have drained' : (Source.ofBytes rules "/w/../w/b/a.js" (Utf8.bytes "_('z')")).drain =
      ([⟨⟨"a.js", 1⟩, ["\"z\""]⟩], none) := by decide +kernel
  have start : State.ofRoot rules t "/" "/w/../w" = State.initial
      [⟨"/w/../w/a.js", [⟨⟨"../a.js", 1⟩, ["\"x\""]⟩, ⟨⟨"../a.js", 3⟩, ["\"y\""]⟩], none⟩,
        ⟨"/w/../w/b/a.js", [⟨⟨"a.js", 1⟩, ["\"z\""]⟩], none⟩] none := by
    simp only [State.ofRoot, files, Traversal.file, FileTree.bytesOf, List.map_cons, List.map_nil,
      first, second, drained, drained']
  have reached : Reachable .standard (State.ofRoot rules t "/" "/w/../w") s := .run 60 .refl
  have ended : s.result = some (.ok 2) ∧
      s.handed.map MessageGroup.location = [⟨"../a.js", 1⟩, ⟨"../a.js", 3⟩, ⟨"a.js", 1⟩] := by
    simp only [s, start]
    decide +kernel
  exact ⟨names, directory, by decide, by decide, reached, ended.1, ended.2,
    handed_located names directory rules (by decide) (by decide) reached⟩

end Schedule

end MessageCatalog
