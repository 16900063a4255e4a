import Mathlib
import MessageCatalog.FileTree.Locate
import MessageCatalog.Proofs.Path

/-! # Trees whose names are sound

In a tree with sound names an entry of a directory is found by its name. What a path leads to is
found in every tree by following all links but one at the end, and then that one.
-/

namespace MessageCatalog.FileTree

/-- Names in the directories of a tree are distinct, and each is one component of a path. -/
structure WellNamed (t : FileTree) : Prop where
  distinct : ∀ {place entries}, t.at? place = some (.directory entries) →
    (entries.map Prod.fst).Nodup
  proper : ∀ {place entries}, t.at? place = some (.directory entries) →
    ∀ e ∈ entries, Path.IsName e.1.toList

theorem WellNamed.file (content : List UInt8) : (FileTree.file content).WellNamed := by
  constructor <;> intro place entries there <;> cases place <;> cases there

theorem WellNamed.link (target : String) : (FileTree.link target).WellNamed := by
  constructor <;> intro place entries there <;> cases place <;> cases there

theorem exists_entry_of_at? {entries inner : List (String × FileTree)} {name : String}
    {place : Place} (there : (directory entries).at? (name :: place) = some (.directory inner)) :
    ∃ e ∈ entries, e.2.at? place = some (.directory inner) := by
  rw [at?] at there
  split at there
  · rename_i node found
    exact ⟨(name, node), mem_of_lookup found, there⟩
  · cases there

theorem WellNamed.directory {entries : List (String × FileTree)}
    (distinct : (entries.map Prod.fst).Nodup) (proper : ∀ e ∈ entries, Path.IsName e.1.toList)
    (below : ∀ e ∈ entries, e.2.WellNamed) : (FileTree.directory entries).WellNamed := by
  constructor
  · intro place inner there
    cases place with
    | nil =>
        cases there
        exact distinct
    | cons name place =>
        obtain ⟨e, member, there⟩ := exists_entry_of_at? there
        exact (below e member).distinct there
  · intro place inner there
    cases place with
    | nil =>
        cases there
        exact proper
    | cons name place =>
        obtain ⟨e, member, there⟩ := exists_entry_of_at? there
        exact (below e member).proper there

/-- Names in the directories of a tree are sound, and none of them leads to the directory itself or
to the one that holds it. -/
structure PlainNamed (t : FileTree) : Prop extends t.WellNamed where
  plain : ∀ {place entries}, t.at? place = some (.directory entries) →
    ∀ e ∈ entries, Path.IsEntryName e.1.toList

theorem PlainNamed.file (content : List UInt8) : (FileTree.file content).PlainNamed :=
  ⟨.file content, fun {place} _ there => by cases place <;> cases there⟩

theorem PlainNamed.directory {entries : List (String × FileTree)}
    (distinct : (entries.map Prod.fst).Nodup)
    (plain : ∀ e ∈ entries, Path.IsEntryName e.1.toList)
    (below : ∀ e ∈ entries, e.2.PlainNamed) : (FileTree.directory entries).PlainNamed := by
  refine ⟨.directory distinct (fun e member => (plain e member).isName)
    fun e member => (below e member).toWellNamed, fun {place} inner there => ?_⟩
  cases place with
  | nil =>
      cases there
      exact plain
  | cons name place =>
      obtain ⟨e, member, there⟩ := exists_entry_of_at? there
      exact (below e member).plain there

theorem lookup_of_mem {entries : List (String × FileTree)} (distinct : (entries.map Prod.fst).Nodup)
    {e : String × FileTree} (member : e ∈ entries) : entries.lookup e.1 = some e.2 := by
  obtain ⟨before, after, rfl⟩ := List.append_of_mem member
  refine List.lookup_eq_some_iff.mpr ⟨before, after, rfl, fun other earlier => ?_⟩
  rw [List.map_append, List.map_cons] at distinct
  have apart := List.disjoint_of_nodup_append distinct
  exact bne_iff_ne.mpr fun same =>
    apart (List.mem_map_of_mem earlier) (same ▸ List.mem_cons_self)

/-- Where steps lead to something, they lead to it or to a link if a link at the end is not
followed. -/
theorem follow_entry {t : FileTree} {links : Nat} {start place : Place} {steps : List String}
    {node : FileTree} (h : t.follow .reach links start steps = .ok (.found place node)) :
    t.follow .entry links start steps = .ok (.found place node) ∨
      ∃ here target, t.follow .entry links start steps = .ok (.found here (.link target)) := by
  -- Both ways of following differ in the case of a link at the end alone.
  fun_induction follow t .reach links start steps with
  | case1 => cases h
  | case2 links start node' there =>
      left
      rw [follow.eq_def]
      simp only [there]
      exact h
  | case3 links start entries step rest there stays ih =>
      rw [follow.eq_def]
      simp only [there, stays, ↓reduceIte]
      exact ih h
  | case4 links start entries rest there other ih =>
      rw [follow.eq_def]
      simp only [there, other, ↓reduceIte]
      exact ih h
  | case5 => cases h
  | case6 => cases h
  | case7 => cases h
  | case8 => cases h
  | case9 => simp_all
  | case10 => cases h
  | case11 => cases h
  | case12 start entries step rest there other up _ short target found _ links _ start' ih =>
      rw [follow.eq_def]
      simp only [there, other, up, short, found, reduceCtorEq, decide_false, Bool.false_and,
        Bool.false_eq_true, ↓reduceIte]
      split
      · exact .inr ⟨_, _, rfl⟩
      · exact ih h
  | case13 links start entries step rest there other up _ short val _ found ih =>
      rw [follow.eq_def]
      simp only [there, other, up, short, found, reduceCtorEq, decide_false, Bool.false_and,
        Bool.false_eq_true, ↓reduceIte]
      exact ih h
  | case14 => cases h

theorem pathFault?_of_stat {t : FileTree} {cwd path : String} {found : Place × FileTree}
    (h : t.stat cwd path = .ok found) : pathFault? path = none := by
  simp only [stat, look, locate] at h
  split at h
  · cases h
  · cases h
  · rename_i located
    split at located
    · cases located
    · rename_i sound
      exact sound

theorem stat_eq {t : FileTree} {cwd path : String} {steps : List String}
    (sound : pathFault? path = none) (parts : pathSteps (Path.join cwd path) = steps) :
    t.stat cwd path =
      match t.follow .reach maxLinks [] steps with
      | .error e => .error e
      | .ok (.vacant _ _) => .error .notFound
      | .ok (.found place node) => .ok (place, node) := by
  have located : t.locate .reach cwd path = t.follow .reach maxLinks [] steps := by
    simp only [locate, sound, parts]
  rw [← located]
  rfl

/-- A path that leads to something names it, or a link. -/
theorem linkStat_of_stat {t : FileTree} {cwd path : String} {place : Place} {node : FileTree}
    (h : t.stat cwd path = .ok (place, node)) :
    t.linkStat cwd path = .ok (place, node) ∨
      ∃ here target, t.linkStat cwd path = .ok (here, .link target) := by
  have sound := pathFault?_of_stat h
  simp only [stat, linkStat, look, locate, sound] at h ⊢
  split at h
  · cases h
  · cases h
  · rename_i followed
    cases h
    rcases follow_entry followed with same | ⟨here, target, link⟩
    · exact .inl (by rw [same])
    · exact .inr ⟨here, target, by rw [link]⟩

end MessageCatalog.FileTree
