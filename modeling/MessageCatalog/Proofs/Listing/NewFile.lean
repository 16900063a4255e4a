import MessageCatalog.Proofs.FileTree.Filled
import MessageCatalog.Proofs.Listing.Ignored
import MessageCatalog.Traversal

/-! # Listings of trees with one more file

A new file whose name is ignored has no influence on a listing, wherever in the tree it is made, as
long as links that lead nowhere lead nowhere still. The files of the listing have the bytes that
they had, and so a traversal gives what it gave.
-/

namespace MessageCatalog

open FileTree (Filled SameKind SameAt StepNamed lookup_eq_at?)

namespace Walk.Spot

variable {t t' u u' : FileTree} {cwd : String} {filter : NameFilter} {s s' : Spot}
  {new out parent place : Place} {name : String} {content : List UInt8}
  {entries entries' : List (String × FileTree)}

/-- Two spots at the same place, before and after a change of the tree. -/
structure Beside (t t' : FileTree) (s s' : Spot) : Prop where
  path : s.path = s'.path
  place : s.place = s'.place
  inside : s.inside = s'.inside
  stands : s.Stands t
  stands' : s'.Stands t'

/-- Whether links that a walk comes to and that lead nowhere fail in the same way in another
tree. -/
def FailsAlike (t t' : FileTree) (cwd : String) (filter : NameFilter) (s : Spot) : Prop :=
  ∀ dirs name found target e, Leads t cwd filter s dirs name found →
    Listing.ComesTo (s.IsObstacle t cwd filter) (dirs ++ [name]) → found.node = .link target →
    t.stat cwd found.path = .error e → t'.stat cwd found.path = .error e

theorem LinkFree.failsAlike (free : s.LinkFree t cwd filter) : s.FailsAlike t t' cwd filter :=
  fun dirs name found target _ leads _ link => absurd link (free dirs name found target leads)

theorem Beside.symm (beside : Beside t t' s s') : Beside t' t s' s :=
  ⟨beside.path.symm, beside.place.symm, beside.inside.symm, beside.stands', beside.stands⟩

theorem Beside.kind (filled : Filled new content t t') (beside : Beside t t' s s')
    (apart : s.place ≠ new) : SameKind s.node s'.node := by
  obtain ⟨node, there, kind⟩ := filled.at?_of_some apart beside.stands
  rw [beside.place, beside.stands'] at there
  cases there
  exact kind

theorem Stands.ne (stands : s.Stands t) (free : t.at? new = none) : s.place ≠ new := by
  rintro rfl
  cases free.symm.trans stands

theorem followed_file (file : s.node = .file content) :
    s.followed t cwd = .ok (s.place, .file content) := by
  simp only [followed, file]

theorem Beside.opens_of (beside : Beside t t' s s') (kind : SameKind s.node s'.node)
    (links : ∀ {entries}, t.stat cwd s.path = .ok (place, .directory entries) →
      ∃ entries', t'.stat cwd s.path = .ok (place, .directory entries'))
    (opens : s.followed t cwd = .ok (place, .directory entries)) :
    ∃ entries', s'.followed t' cwd = .ok (place, .directory entries') := by
  obtain ⟨path, here, node, inside⟩ := s
  obtain ⟨_, _, node', _⟩ := s'
  obtain ⟨rfl, rfl, rfl, _, _⟩ := beside
  cases kind with
  | directory entries entries' =>
      cases opens
      exact ⟨entries', rfl⟩
  | refl =>
      cases node with
      | link target => exact links opens
      | directory entries => exact ⟨_, opens⟩
      | _ => cases opens

theorem Beside.opens (filled : Filled new content t t') (beside : Beside t t' s s')
    (opens : s.followed t cwd = .ok (place, .directory entries)) :
    ∃ entries', s'.followed t' cwd = .ok (place, .directory entries') := by
  have apart : s.place ≠ new := by
    rintro rfl
    obtain ⟨old, file⟩ := filled.before _ beside.stands
    cases (followed_file file).symm.trans opens
  exact beside.opens_of (beside.kind filled apart) filled.stat_directory opens

theorem Beside.exists_opens (filled : Filled new content t t') (beside : Beside t t' s s')
    (opens' : s'.followed t' cwd = .ok (place, .directory entries')) :
    ∃ entries, s.followed t cwd = .ok (place, .directory entries) := by
  have apart : s.place ≠ new := by
    rintro rfl
    have stands' : t'.at? s'.place = some s'.node := beside.stands'
    rw [← beside.place, filled.made] at stands'
    cases (followed_file (Option.some.inj stands').symm).symm.trans opens'
  exact beside.symm.opens_of (beside.kind filled apart).symm filled.exists_stat_directory opens'

/-- Spots at the same place lead to the same, unless a link led nowhere before. -/
theorem Beside.followed (filled : Filled new content t t') (free : t.at? new = none)
    (beside : Beside t t' s s')
    (fails : ∀ target e, s.node = .link target → t.stat cwd s.path = .error e →
      t'.stat cwd s.path = .error e) :
    SameAt (s.followed t cwd) (s'.followed t' cwd) := by
  have kind := beside.kind filled (beside.stands.ne free)
  obtain ⟨path, place, node, inside⟩ := s
  obtain ⟨_, _, node', _⟩ := s'
  obtain ⟨rfl, rfl, rfl, _, _⟩ := beside
  cases kind with
  | directory entries entries' => exact .ok place (.directory entries entries')
  | refl =>
      cases node with
      | link target =>
          rw [followed_link rfl, followed_link rfl]
          cases leads : t.stat cwd path with
          | error e =>
              rw [fails target e rfl leads]
              exact .error e
          | ok found =>
              obtain ⟨node', leads', kind⟩ := filled.stat free leads
              rw [leads']
              exact .ok found.1 kind
      | _ => exact .ok place (.refl _)

theorem Blocks.same {last : String} {cause : Cause} (blocks : s.Blocks t cwd filter last cause)
    (path : s.path = s'.path) (inside : s.inside = s'.inside) (kind : SameKind s.node s'.node)
    (same : SameAt (s.followed t cwd) (s'.followed t' cwd)) :
    s'.Blocks t' cwd filter last cause := by
  cases blocks with
  | unresolved link fails =>
      have link' := (kind.eq (by rw [link]; exact nofun)).trans link
      rw [followed_link link, followed_link link', fails] at same
      rw [path]
      generalize leads : t'.stat cwd s'.path = found at same
      cases same
      exact .unresolved link' leads
  | loop link leads within =>
      have link' := (kind.eq (by rw [link]; exact nofun)).trans link
      rw [followed_link link, followed_link link', leads] at same
      obtain ⟨entries', leads'⟩ := same.exists_directory
      rw [path]
      exact .loop link' leads' (inside ▸ within)
  | unopened directory accepted fault =>
      rw [directory] at kind
      obtain ⟨entries', directory'⟩ := kind.exists_directory
      rw [path]
      exact .unopened directory' accepted (path ▸ fault)

/-! ## Where names lead in trees that differ in one file -/

section Entries

variable (filled : Filled new content t t') (beside : Beside t t' s s')
  (there : t.at? place = some (.directory entries))
  (there' : t'.at? place = some (.directory entries'))
include filled beside there there'

theorem Beside.entry (names : t.WellNamed) {e : String × FileTree} (member : e ∈ entries) :
    ∃ node, (e.1, node) ∈ entries' ∧
      Beside t t' (s.entry place e) (s'.entry place (e.1, node)) := by
  have stands : (s.entry place e).Stands t := Stands.entry names there member
  obtain ⟨node, found⟩ := filled.exists_at? stands
  have member' := FileTree.mem_of_lookup ((lookup_eq_at? there' e.1).trans found)
  refine ⟨node, member', ?_, rfl, ?_, stands, found⟩
  · simp only [Spot.entry, beside.path]
  · simp only [Spot.entry, beside.path, beside.inside]

theorem Beside.entry_or_new (names' : t'.WellNamed) {e : String × FileTree}
    (member : e ∈ entries') :
    (∃ node, (e.1, node) ∈ entries ∧
        Beside t t' (s.entry place (e.1, node)) (s'.entry place e)) ∨
      t.at? new = none ∧ place ++ [e.1] = new ∧ e.2 = .file content := by
  have stands' : (s'.entry place e).Stands t' := Stands.entry names' there' member
  have after : t'.at? (place ++ [e.1]) = some e.2 := stands'
  cases found : t.at? (place ++ [e.1]) with
  | some node =>
      have member := FileTree.mem_of_lookup ((lookup_eq_at? there e.1).trans found)
      refine .inl ⟨node, member, ?_, rfl, ?_, found, stands'⟩
      · simp only [Spot.entry, beside.path]
      · simp only [Spot.entry, beside.path, beside.inside]
  | none =>
      by_cases here : place ++ [e.1] = new
      · rw [here] at found after
        exact .inr ⟨found, here, Option.some.inj (after.symm.trans filled.made)⟩
      · cases (filled.at?_of_none here found).symm.trans after

end Entries

section Leads

variable (filled : Filled new content t t')
include filled

theorem Leads.exists_beside (names : t.WellNamed) {found : Spot} {dirs : List String}
    {last : String} (leads : Leads t cwd filter s dirs last found) (beside : Beside t t' s s') :
    ∃ found', Leads t' cwd filter s' dirs last found' ∧ Beside t t' found found' := by
  induction leads generalizing s' with
  | @here s place entries e opens member =>
      obtain ⟨entries', opens'⟩ := beside.opens filled opens
      obtain ⟨node, member', there⟩ := beside.entry filled (beside.stands.at?_of_opens opens)
        (beside.stands'.at?_of_opens opens') names member
      exact ⟨_, .here (e := (e.1, node)) opens' member', there⟩
  | @inside s place entries e dirs last found opens member accepted leads ih =>
      obtain ⟨entries', opens'⟩ := beside.opens filled opens
      obtain ⟨node, member', next⟩ := beside.entry filled (beside.stands.at?_of_opens opens)
        (beside.stands'.at?_of_opens opens') names member
      obtain ⟨found', leads', there⟩ := ih next
      exact ⟨found', .inside (e := (e.1, node)) opens' member' accepted leads', there⟩

/-- Names led where they lead, unless they lead to a new file. -/
theorem Leads.beside_or_new (names' : t'.WellNamed) {found' : Spot} {dirs : List String}
    {last : String} (leads' : Leads t' cwd filter s' dirs last found')
    (beside : Beside t t' s s') :
    (∃ found, Leads t cwd filter s dirs last found ∧ Beside t t' found found') ∨
      t.at? new = none ∧ new.getLast? = some last ∧ found'.node = .file content := by
  induction leads' generalizing s with
  | @here s' place entries' e opens' member' =>
      obtain ⟨entries, opens⟩ := beside.exists_opens filled opens'
      rcases beside.entry_or_new filled (beside.stands.at?_of_opens opens)
        (beside.stands'.at?_of_opens opens') names' member' with
        ⟨node, member, there⟩ | ⟨free, rfl, file⟩
      · exact .inl ⟨_, .here (e := (e.1, node)) opens member, there⟩
      · exact .inr ⟨free, List.getLast?_concat, file⟩
  | @inside s' place entries' e dirs last found' opens' member' accepted leads' ih =>
      obtain ⟨entries, opens⟩ := beside.exists_opens filled opens'
      rcases beside.entry_or_new filled (beside.stands.at?_of_opens opens)
        (beside.stands'.at?_of_opens opens') names' member' with ⟨node, member, next⟩ | ⟨_, _, file⟩
      · refine (ih next).imp_left fun ⟨found, leads, there⟩ => ?_
        exact ⟨found, .inside (e := (e.1, node)) opens member accepted leads, there⟩
      · -- Nothing is below a file.
        obtain ⟨_, _, opens⟩ := leads'.opens
        cases (followed_file (s := s'.entry place e) file).symm.trans opens

end Leads

/-- When a file takes other bytes, what blocked the way does so still. -/
theorem IsObstacle.refill {old bytes : List UInt8} (filled : Filled out bytes t u)
    (there : t.at? out = some (.file old)) (names : t.WellNamed) {r : Spot}
    (beside : Beside t u s r) {steps : List String} {cause : Cause}
    (obstacle : s.IsObstacle t cwd filter steps cause) :
    r.IsObstacle u cwd filter steps cause := by
  obtain ⟨dirs, last, found, rfl, leads, blocks⟩ := obstacle
  obtain ⟨after, leads', twin⟩ := leads.exists_beside filled names beside
  have apart : found.place ≠ out := by
    rintro rfl
    have file := Option.some.inj (twin.stands.symm.trans there)
    cases blocks with
    | unresolved link => cases file.symm.trans link
    | loop link => cases file.symm.trans link
    | unopened directory => cases file.symm.trans directory
  have kind := twin.kind filled apart
  refine ⟨dirs, last, after, rfl, leads', ?_⟩
  cases blocks with
  | unresolved link fails =>
      rw [twin.path] at fails ⊢
      exact .unresolved ((kind.eq (by rw [link]; exact nofun)).trans link)
        (filled.stat_error there fails)
  | loop link opens within =>
      rw [twin.path] at opens ⊢
      obtain ⟨_, opens'⟩ := filled.stat_directory opens
      exact .loop ((kind.eq (by rw [link]; exact nofun)).trans link) opens' (twin.inside ▸ within)
  | unopened directory accepted fault =>
      rw [directory] at kind
      obtain ⟨_, directory'⟩ := kind.exists_directory
      rw [twin.path] at fault ⊢
      exact .unopened directory' accepted fault

theorem FailsAlike.refill {old old' bytes bytes' : List UInt8} (left : Filled out bytes t u)
    (right : Filled out bytes' t' u') (there : t.at? out = some (.file old))
    (there' : t'.at? out = some (.file old')) (names : t.WellNamed) (names' : u.WellNamed)
    {r : Spot} (beside : Beside u t r s) (fails : s.FailsAlike t t' cwd filter) :
    r.FailsAlike u u' cwd filter := by
  have back : Filled out old u t := left.symm there
  intro dirs name found target e leads comes link failed
  obtain ⟨before, leads, twin⟩ := leads.exists_beside back names' beside
  have comes' : Listing.ComesTo (s.IsObstacle t cwd filter) (dirs ++ [name]) :=
    fun passed cause blocks => comes passed cause (blocks.refill left there names beside.symm)
  have apart : found.place ≠ out := by
    rintro rfl
    obtain ⟨_, file⟩ := back.before _ twin.stands
    cases file.symm.trans link
  have link' : before.node = .link target :=
    ((twin.kind back apart).eq (by rw [link]; exact nofun)).trans link
  rw [twin.path] at failed ⊢
  exact right.stat_error there' (fails dirs name before target e leads comes' link'
    (back.stat_error left.made failed))

section Listing

variable (filled : Filled (parent ++ [name]) content t t') (free : t.at? (parent ++ [name]) = none)
  (names : t.WellNamed) (names' : t'.WellNamed) (beside : Beside t t' s s')
  (below : FailsAlike t t' cwd filter s)
include filled free names names' beside below

theorem IsAccepted.iff_new (ignored : filter.Ignores name) {steps : List String}
    (comes : Listing.ComesTo (s.IsObstacle t cwd filter) steps) :
    s.IsAccepted t cwd filter steps ↔ s'.IsAccepted t' cwd filter steps := by
  constructor
  · rintro ⟨dirs, last, found, rfl, leads, ⟨place, content, isFile⟩, accepted⟩
    obtain ⟨found', leads', there⟩ := leads.exists_beside filled names beside
    have same := there.followed filled free fun target e =>
      below dirs last found target e leads comes
    rw [isFile] at same
    exact ⟨dirs, last, found', rfl, leads', ⟨place, content, same.file⟩, accepted⟩
  · rintro ⟨dirs, last, found', rfl, leads', ⟨place, content, isFile⟩, accepted⟩
    rcases leads'.beside_or_new filled names' beside with ⟨found, leads, there⟩ | ⟨_, here, _⟩
    · have same := there.followed filled free fun target e =>
        below dirs last found target e leads comes
      rw [isFile] at same
      exact ⟨dirs, last, found, rfl, leads, ⟨place, content, same.symm.file⟩, accepted⟩
    · rw [List.getLast?_concat] at here
      cases here
      exact absurd ignored (NameFilter.not_ignores_of_file accepted)

theorem IsObstacle.iff_new {steps : List String} {cause : Cause}
    (comes : Listing.ComesTo (s.IsObstacle t cwd filter) steps) :
    s.IsObstacle t cwd filter steps cause ↔ s'.IsObstacle t' cwd filter steps cause := by
  constructor
  · rintro ⟨dirs, last, found, rfl, leads, blocks⟩
    obtain ⟨found', leads', there⟩ := leads.exists_beside filled names beside
    have same := there.followed filled free fun target e =>
      below dirs last found target e leads comes
    have kind := there.kind filled (there.stands.ne free)
    exact ⟨dirs, last, found', rfl, leads', blocks.same there.path there.inside kind same⟩
  · rintro ⟨dirs, last, found', rfl, leads', blocks⟩
    rcases leads'.beside_or_new filled names' beside with ⟨found, leads, there⟩ | ⟨_, _, file⟩
    · have same := there.followed filled free fun target e =>
        below dirs last found target e leads comes
      have kind := there.kind filled (there.stands.ne free)
      exact ⟨dirs, last, found, rfl, leads,
        blocks.same there.path.symm there.inside.symm kind.symm same.symm⟩
    · cases blocks with
      | unresolved link => cases file.symm.trans link
      | loop link => cases file.symm.trans link
      | unopened directory => cases file.symm.trans directory

end Listing

/-! ## What the paths of spots lead to -/

/-- Whether the path of a spot, as far as it is one, leads to what the spot leads to. -/
structure Reached (t : FileTree) (cwd : String) (s : Spot) : Prop where
  ne_empty : s.path ≠ ""
  stat : FileTree.pathFault? s.path = none → t.stat cwd s.path = s.followed t cwd

theorem Reached.entry (reached : s.Reached t cwd)
    (opens : s.followed t cwd = .ok (place, .directory entries)) {e : String × FileTree}
    (found : entries.lookup e.1 = some e.2) (proper : FileTree.IsStep e.1) :
    (s.entry place e).Reached t cwd := by
  have relative := Path.isRelative_name proper.entry.isName
  have some : Path.join s.path e.1 ≠ "" := fun none => by
    have chars := Path.toList_join relative s.path
    rw [none] at chars
    exact relative.ne_empty (String.toList_inj.mp (List.append_eq_nil_iff.mp chars.symm).2)
  refine ⟨some, fun sound => ?_⟩
  by_cases link : ∃ target, e.2 = .link target
  · obtain ⟨target, link⟩ := link
    exact (followed_link link).symm
  · have plain : ∀ target, e.2 ≠ .link target := not_exists.mp link
    have before := FileTree.pathFault?_of_join reached.ne_empty relative sound
    have directory := (reached.stat before).trans opens
    refine (FileTree.stat_entry directory proper found plain sound).trans ?_
    obtain ⟨last, node⟩ := e
    cases node with
    | link target => exact absurd rfl (plain target)
    | _ => rfl

theorem Leads.reached (names : t.StepNamed) {found : Spot} {dirs : List String} {last : String}
    (leads : Leads t cwd filter s dirs last found) (stands : s.Stands t)
    (reached : s.Reached t cwd) : found.Reached t cwd := by
  induction leads with
  | here opens member =>
      have there := stands.at?_of_opens opens
      exact reached.entry opens (FileTree.lookup_of_mem (names.distinct there) member)
        (names.isStep there _ member)
  | inside opens member accepted leads ih =>
      have there := stands.at?_of_opens opens
      exact ih (Stands.entry names.toWellNamed there member)
        (reached.entry opens (FileTree.lookup_of_mem (names.distinct there) member)
          (names.isStep there _ member))

end Walk.Spot

namespace Walk

variable {t t' u u' : FileTree} {cwd : String} {filter : NameFilter} {roots : List String}
  {out : Place}

/-- Whether roots are directories, and links that the walks over them come to and that lead nowhere
fail in the same way in another tree. -/
def RootsAlike (t t' : FileTree) (cwd : String) (filter : NameFilter) (roots : List String) :
    Prop :=
  ∀ root ∈ roots, ∃ place entries, t.stat cwd root = .ok (place, .directory entries) ∧
    (Spot.root root place entries).FailsAlike t t' cwd filter

theorem RootsAlike.refill {old old' bytes bytes' : List UInt8} (left : Filled out bytes t u)
    (right : Filled out bytes' t' u') (there : t.at? out = some (.file old))
    (there' : t'.at? out = some (.file old')) (names : t.WellNamed) (names' : u.WellNamed)
    (alike : RootsAlike t t' cwd filter roots) : RootsAlike u u' cwd filter roots := by
  intro root among
  obtain ⟨place, entries, directory, fails⟩ := alike root among
  obtain ⟨entries', directory'⟩ := left.stat_directory directory
  have beside : Spot.Beside u t (Spot.root root place entries') (Spot.root root place entries) :=
    ⟨rfl, rfl, rfl, FileTree.at?_of_look directory', FileTree.at?_of_look directory⟩
  exact ⟨place, entries', directory', fails.refill left right there there' names names' beside⟩

end Walk

namespace Listing

open Walk (Spot)

variable {t t' : FileTree} {cwd root : String} {filter : NameFilter} {parent place : Place}
  {name : String} {content : List UInt8} {entries : List (String × FileTree)}

section

variable (filled : Filled (parent ++ [name]) content t t') (free : t.at? (parent ++ [name]) = none)
  (directory : t.stat cwd root = .ok (place, .directory entries))
include filled free directory

/-- The listing of a directory is the same with a new file that is ignored. -/
theorem ofRoot_new (names : t.WellNamed) (names' : t'.WellNamed) (ignored : filter.Ignores name)
    (below : (Spot.root root place entries).FailsAlike t t' cwd filter) :
    ofRoot filter t' cwd root = ofRoot filter t cwd root := by
  obtain ⟨entries', directory'⟩ := filled.stat_directory directory
  have beside : Spot.Beside t t' (Spot.root root place entries) (Spot.root root place entries') :=
    ⟨rfl, rfl, rfl, FileTree.at?_of_look directory, FileTree.at?_of_look directory'⟩
  have shape : Exact root _ _ (ofRoot filter t cwd root) := exact_ofRoot names directory
  have shape' : Exact root _ _ (ofRoot filter t' cwd root) := exact_ofRoot names' directory'
  refine (shape.eq_of_same shape' (fun steps comes _ => ?_) (fun steps cause comes _ => ?_)
    fun _ _ _ => Spot.IsObstacle.unique names beside.stands).symm
  · exact Spot.IsAccepted.iff_new filled free names names' beside below ignored comes
  · exact Spot.IsObstacle.iff_new filled free names names' beside below comes

theorem bytesOf_new (names : t.StepNamed) {file : String}
    (listed : file ∈ (ofRoot filter t cwd root).files) :
    t'.bytesOf cwd file = t.bytesOf cwd file := by
  have shape : Exact root _ _ (ofRoot filter t cwd root) :=
    exact_ofRoot names.toWellNamed directory
  obtain ⟨found, _, files, accepted⟩ := shape.exists_found
  rw [files] at listed
  obtain ⟨steps, inside, rfl⟩ := List.mem_map.mp listed
  obtain ⟨dirs, last, spot, rfl, leads, ⟨here, bytes, isFile⟩, _⟩ := accepted steps inside
  have stands : (Spot.root root place entries).Stands t := FileTree.at?_of_look directory
  have begin : (Spot.root root place entries).Reached t cwd :=
    ⟨(FileTree.pathFault?_eq_none_iff.mp (FileTree.pathFault?_of_stat directory)).1,
      fun _ => directory⟩
  have reached := leads.reached names stands begin
  have path : spot.path = Path.below root (dirs ++ [last]) := leads.path_eq
  rw [← path]
  cases fault : FileTree.pathFault? spot.path with
  | some e =>
      simp only [FileTree.bytesOf, FileTree.stat_of_pathFault? fault]
  | none =>
      have leads := (reached.stat fault).trans isFile
      obtain ⟨node, leads', kind⟩ := filled.stat free leads
      rw [kind.eq nofun] at leads'
      simp only [FileTree.bytesOf, leads, leads']

end

end Listing

namespace Traversal

variable {rules : Rules} {t t' : FileTree} {cwd : String} {paths : List String}

section

variable (same : ∀ path ∈ paths, t'.bytesOf cwd path = t.bytesOf cwd path)
include same

theorem files_congr : files rules t' cwd paths = files rules t cwd paths := by
  induction paths with
  | nil => rfl
  | cons path paths ih =>
      obtain ⟨first, later⟩ := List.forall_mem_cons.mp same
      rw [files, files, ih later, file, file, first]

theorem heard_congr : heard rules t' cwd paths = heard rules t cwd paths := by
  induction paths with
  | nil => rfl
  | cons path paths ih =>
      obtain ⟨first, later⟩ := List.forall_mem_cons.mp same
      rw [heard, heard, ih later, file, file, first]

end

/-- Directories are traversed as before with a new file that is ignored. -/
theorem ofRoot_new {parent : Place} {name : String} {content : List UInt8}
    (filled : Filled (parent ++ [name]) content t t') (free : t.at? (parent ++ [name]) = none)
    (names : t.StepNamed) (names' : t'.WellNamed) (ignored : rules.filter.Ignores name)
    (alike : Walk.RootsAlike t t' cwd rules.filter paths) :
    ∀ root ∈ paths, ofRoot rules t' cwd root = ofRoot rules t cwd root := by
  intro root among
  obtain ⟨place, entries, directory, below⟩ := alike root among
  obtain ⟨entries', directory'⟩ := filled.stat_directory directory
  have listing : Listing.ofRoot rules.filter t' cwd root = Listing.ofRoot rules.filter t cwd root :=
    Listing.ofRoot_new filled free directory names.toWellNamed names' ignored below
  have same : ∀ path ∈ (Listing.ofRoot rules.filter t cwd root).files,
      t'.bytesOf cwd path = t.bytesOf cwd path :=
    fun path => Listing.bytesOf_new filled free directory names
  simp only [ofRoot, directory, directory', Traversal.directory, listing, files_congr same,
    heard_congr same]

end Traversal

end MessageCatalog
