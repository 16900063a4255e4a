import MessageCatalog.Proofs.FileTree
import MessageCatalog.Proofs.Walk.Spot

/-! # Where names lead

What a walk sees below a spot is what names lead to, but for what is behind an obstacle. In a tree
whose names are sound, a walk comes to everything in the order of the names.
-/

namespace MessageCatalog.Walk.Spot

variable {t : FileTree} {cwd : String} {filter : NameFilter}

/-- Whether a spot is where it claims to be. -/
def Stands (t : FileTree) (s : Spot) : Prop := t.at? s.place = some s.node

theorem Stands.at?_of_opens {s : Spot} (stands : s.Stands t) {place : Place}
    {entries : List (String × FileTree)}
    (opens : s.followed t cwd = .ok (place, .directory entries)) :
    t.at? place = some (.directory entries) := by
  obtain ⟨path, at_, node, inside⟩ := s
  cases node with
  | link target => exact FileTree.at?_of_look opens
  | directory found =>
      cases opens
      exact stands
  | file content => cases opens
  | special => cases opens
  | full => cases opens

theorem Stands.entry (names : t.WellNamed) {s : Spot} {place : Place}
    {entries : List (String × FileTree)} (there : t.at? place = some (.directory entries))
    {e : String × FileTree} (member : e ∈ entries) : (s.entry place e).Stands t := by
  rw [Stands, Spot.entry, FileTree.at?_append_name, there]
  exact FileTree.lookup_of_mem (names.distinct there) member

theorem mem_sights {s : Spot} {place : Place} {entries : List (String × FileTree)} {name : String}
    {sight : Sight} : (name, sight) ∈ s.sights t cwd place entries ↔
      ∃ e ∈ entries, e.1 = name ∧ (s.entry place e).sight t cwd = sight := by
  simp only [sights, Sight.sortEntries, List.mem_mergeSort, List.mem_map, Prod.mk.injEq]

theorem nameLe_iff {a b : String} : Sight.nameLe a b = true ↔ Utf8.bytes a ≤ Utf8.bytes b := by
  rw [Sight.nameLe, Bool.not_eq_true', ← Bool.not_eq_true, List.lex_eq_true_iff_lt, List.not_lt]

theorem pairwise_sights {s : Spot} {place : Place} {entries : List (String × FileTree)}
    (distinct : (entries.map Prod.fst).Nodup) :
    (s.sights t cwd place entries).Pairwise fun a b => Utf8.bytes a.1 < Utf8.bytes b.1 := by
  have sorted : (s.sights t cwd place entries).Pairwise fun a b => Sight.nameLe a.1 b.1 = true := by
    refine List.pairwise_mergeSort (fun a b c first second => ?_) (fun a b => ?_) _
    · exact nameLe_iff.mpr (Std.le_trans (nameLe_iff.mp first) (nameLe_iff.mp second))
    · rw [Bool.or_eq_true, nameLe_iff, nameLe_iff]
      exact Std.le_total
  have names : ((s.sights t cwd place entries).map Prod.fst).Nodup := by
    have perm := (List.mergeSort_perm (entries.map fun e =>
      (e.1, (s.entry place e).sight t cwd)) fun a b => Sight.nameLe a.1 b.1).map Prod.fst
    rw [List.map_map] at perm
    exact perm.nodup_iff.mpr distinct
  have apart := List.pairwise_map.mp names
  refine (sorted.and apart).imp fun ⟨le, ne⟩ => ?_
  refine List.not_le.mp fun ge => ne (Utf8.bytes_injective ?_)
  exact Std.le_antisymm (nameLe_iff.mp le) ge

theorem exists_opens {s : Spot} {children : List (String × Sight)}
    (sees : s.sight t cwd = .directory children) :
    ∃ place entries, s.followed t cwd = .ok (place, .directory entries) ∧
      children = s.sights t cwd place entries := by
  have seen := seen_sight t cwd s
  rw [sees] at seen
  cases seen with
  | directory opens => exact ⟨_, _, opens, rfl⟩

theorem ordered_sight (names : t.WellNamed) {s : Spot} (stands : s.Stands t)
    (children : List (String × Sight)) (sees : s.sight t cwd = .directory children) :
    Sight.Ordered children := by
  obtain ⟨place, entries, opens, same⟩ := exists_opens sees
  have there := stands.at?_of_opens opens
  -- Links may lead upwards in the tree, so the recursion is on what is seen, not on the tree.
  refine ⟨same ▸ pairwise_sights (names.distinct there), fun name inner member => ?_⟩
  have smaller := List.sizeOf_lt_of_mem member
  rw [same] at member
  obtain ⟨e, inside, rfl, seesInner⟩ := mem_sights.mp member
  exact ordered_sight names (Stands.entry names there inside) inner seesInner
termination_by sizeOf children
decreasing_by
  simp only [Prod.mk.sizeOf_spec, Sight.directory.sizeOf_spec] at smaller
  omega

theorem Leads.path_eq {s found : Spot} {dirs : List String} {name : String}
    (leads : Leads t cwd filter s dirs name found) :
    found.path = Path.below s.path (dirs ++ [name]) := by
  induction leads with
  | here => rfl
  | inside opens member accepted leads ih => exact ih

theorem Leads.opens {s found : Spot} {dirs : List String} {name : String}
    (leads : Leads t cwd filter s dirs name found) :
    ∃ place entries, s.followed t cwd = .ok (place, .directory entries) := by
  cases leads with
  | here opens => exact ⟨_, _, opens⟩
  | inside opens => exact ⟨_, _, opens⟩

theorem exists_leads {children : List (String × Sight)} {dirs : List String} {name : String}
    {sight : Sight} (leads : Sight.Leads filter children dirs name sight) {s : Spot}
    (sees : s.sight t cwd = .directory children) :
    ∃ found, Leads t cwd filter s dirs name found ∧ found.sight t cwd = sight := by
  induction leads generalizing s with
  | here member =>
      obtain ⟨place, entries, opens, rfl⟩ := exists_opens sees
      obtain ⟨e, inside, rfl, same⟩ := mem_sights.mp member
      exact ⟨s.entry place e, .here opens inside, same⟩
  | inside member accepted leads ih =>
      obtain ⟨place, entries, opens, rfl⟩ := exists_opens sees
      obtain ⟨e, inside, rfl, same⟩ := mem_sights.mp member
      obtain ⟨found, there, sightFound⟩ := ih same
      exact ⟨found, .inside opens inside accepted there, sightFound⟩

/-- A walk enters an accepted directory, unless something blocks the way there. -/
theorem enters_or_blocks {s : Spot} {place : Place} {entries : List (String × FileTree)}
    (opens : s.followed t cwd = .ok (place, .directory entries)) {name : String}
    (accepted : filter.acceptsDir name = true) :
    s.sight t cwd = .directory (s.sights t cwd place entries) ∨
      ∃ cause, s.Blocks t cwd filter name cause := by
  have seen := seen_sight t cwd s
  generalize s.sight t cwd = sight at seen
  cases seen with
  | file isFile =>
      obtain ⟨_, _, leads⟩ := isFile
      cases opens.symm.trans leads
  | special leads noFile noDirectory =>
      cases opens.symm.trans leads
      exact absurd rfl (noDirectory entries)
  | directory opens' =>
      cases opens.symm.trans opens'
      exact .inl rfl
  | unopened directory fault => exact .inr ⟨_, .unopened directory accepted fault⟩
  | unresolved link fails => cases (opens.symm.trans (followed_link link)).trans fails
  | loop link leads inside => exact .inr ⟨_, .loop link leads inside⟩

/-- A walk sees what names lead to, unless there is an obstacle on the way. -/
theorem leads_or_obstacle {s found : Spot} {dirs : List String} {name : String}
    (leads : Leads t cwd filter s dirs name found) {children : List (String × Sight)}
    (sees : s.sight t cwd = .directory children) :
    Sight.Leads filter children dirs name (found.sight t cwd) ∨
      ∃ before cause, Sight.IsObstacle filter s.path children before cause ∧
        Before before (dirs ++ [name]) := by
  induction leads generalizing children with
  | @here s place entries e opens member =>
      obtain ⟨_, _, opens', rfl⟩ := exists_opens sees
      cases opens.symm.trans opens'
      exact .inl (.here (mem_sights.mpr ⟨e, member, rfl, rfl⟩))
  | @inside s place entries e dirs name found opens member accepted leads ih =>
      obtain ⟨_, _, opens', rfl⟩ := exists_opens sees
      cases opens.symm.trans opens'
      have here : (e.1, (s.entry place e).sight t cwd) ∈ s.sights t cwd place entries :=
        mem_sights.mpr ⟨e, member, rfl, rfl⟩
      -- What blocks the way at the entry itself comes before everything below it.
      obtain ⟨place', inner, opensEntry⟩ := leads.opens
      rcases enters_or_blocks opensEntry accepted with entered | ⟨cause, blocks⟩
      · rw [entered] at here
        rcases ih entered with there | ⟨before, cause, obstacle, earlier⟩
        · exact .inl (.inside here accepted there)
        · obtain ⟨outer, last, sight, rfl, there, blocks⟩ := obstacle
          refine .inr ⟨e.1 :: (outer ++ [last]), cause, ?_,
            Before.cons_iff.mpr (.inr ⟨rfl, earlier⟩)⟩
          exact ⟨e.1 :: outer, last, sight, rfl, .inside here accepted there, blocks⟩
      · refine .inr ⟨[e.1], cause, ?_, Before.append [e.1] (by simp)⟩
        exact ⟨[], e.1, _, rfl, .here here, blocks_sight.mpr blocks⟩

end MessageCatalog.Walk.Spot
