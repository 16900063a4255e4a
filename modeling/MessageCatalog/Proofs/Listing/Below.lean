import MessageCatalog.Proofs.FileTree.Join
import MessageCatalog.Proofs.Walk.Route

/-! # What a listing holds

The listing of a directory holds exactly the accepted files below it, in the order of their names.
If something blocks the way of the walk, the listing holds the files before the first obstacle and
then the failure that names it.
-/

namespace MessageCatalog

inductive FileTree.Linkless : FileTree → Prop where
  | file (content : List UInt8) : Linkless (.file content)
  | special : Linkless .special
  | full : Linkless .full
  | directory {entries : List (String × FileTree)} (inside : ∀ e ∈ entries, Linkless e.2) :
    Linkless (.directory entries)

namespace Walk.Spot

def root (path : String) (place : Place) (entries : List (String × FileTree)) : Spot :=
  ⟨path, place, .directory entries, []⟩

/-- Whether names lead from a spot to a file whose name is accepted. -/
def IsAccepted (t : FileTree) (cwd : String) (filter : NameFilter) (s : Spot)
    (names : List String) : Prop :=
  ∃ dirs name found, names = dirs ++ [name] ∧ s.Leads t cwd filter dirs name found ∧
    found.IsFile t cwd ∧ filter.acceptsFile name = true

/-- Whether names lead from a spot to where the way is blocked. -/
def IsObstacle (t : FileTree) (cwd : String) (filter : NameFilter) (s : Spot)
    (names : List String) (cause : Cause) : Prop :=
  ∃ dirs name found, names = dirs ++ [name] ∧ s.Leads t cwd filter dirs name found ∧
    found.Blocks t cwd filter name cause

variable {t : FileTree} {cwd : String} {filter : NameFilter}

theorem Leads.forall_names (names : t.WellNamed) {p : String → Prop}
    (every : ∀ {place entries}, t.at? place = some (.directory entries) → ∀ e ∈ entries, p e.1)
    {s found : Spot} (stands : s.Stands t) {dirs : List String} {name : String}
    (leads : Leads t cwd filter s dirs name found) : ∀ step ∈ dirs ++ [name], p step := by
  induction leads with
  | here opens member =>
      have there := stands.at?_of_opens opens
      simpa using every there _ member
  | inside opens member accepted leads ih =>
      have there := stands.at?_of_opens opens
      exact List.forall_mem_cons.mpr
        ⟨every there _ member, ih (Stands.entry names there member)⟩

theorem Leads.isName (names : t.WellNamed) {s found : Spot} (stands : s.Stands t)
    {dirs : List String} {name : String} (leads : Leads t cwd filter s dirs name found) :
    ∀ step ∈ dirs ++ [name], Path.IsName step.toList :=
  leads.forall_names names names.proper stands

theorem Leads.unique (names : t.WellNamed) {s found found' : Spot} {dirs : List String}
    {name : String} (stands : s.Stands t) (leads : Leads t cwd filter s dirs name found)
    (leads' : Leads t cwd filter s dirs name found') : found = found' := by
  induction leads with
  | @here s place entries e opens member =>
      have distinct := names.distinct (stands.at?_of_opens opens)
      generalize same : e.1 = name at leads'
      cases leads' with
      | @here _ _ _ e' opens' member' =>
          cases opens.symm.trans opens'
          obtain rfl := List.inj_on_of_nodup_map distinct member member' same
          rfl
  | @inside s place entries e dirs name found opens member accepted leads ih =>
      have there := stands.at?_of_opens opens
      generalize same : e.1 = step at leads'
      cases leads' with
      | @inside _ _ _ e' _ _ _ opens' member' _ further =>
          cases opens.symm.trans opens'
          obtain rfl := List.inj_on_of_nodup_map (names.distinct there) member member' same
          exact ih (Stands.entry names there member) further

theorem Blocks.unique {s : Spot} {name : String} {cause other : Cause}
    (blocks : s.Blocks t cwd filter name cause) (blocks' : s.Blocks t cwd filter name other) :
    cause = other := by
  cases blocks with
  | unresolved link fails =>
      cases blocks' with
      | unresolved _ fails' =>
          cases fails.symm.trans fails'
          rfl
      | loop _ leads => cases fails.symm.trans leads
      | unopened directory => cases link.symm.trans directory
  | loop link leads inside =>
      cases blocks' with
      | unresolved _ fails => cases leads.symm.trans fails
      | loop _ leads' inside' =>
          cases leads.symm.trans leads'
          cases inside.symm.trans inside'
          rfl
      | unopened directory => cases link.symm.trans directory
  | unopened directory accepted fault =>
      cases blocks' with
      | unresolved link => cases link.symm.trans directory
      | loop link => cases link.symm.trans directory
      | unopened _ _ fault' =>
          cases fault.symm.trans fault'
          rfl

theorem IsObstacle.unique (names : t.WellNamed) {s : Spot} (stands : s.Stands t)
    {steps : List String} {cause other : Cause} (obstacle : s.IsObstacle t cwd filter steps cause)
    (obstacle' : s.IsObstacle t cwd filter steps other) : cause = other := by
  obtain ⟨dirs, name, found, rfl, leads, blocks⟩ := obstacle
  obtain ⟨dirs', name', found', same, leads', blocks'⟩ := obstacle'
  obtain ⟨rfl, last⟩ := List.append_inj' same rfl
  cases last
  obtain rfl := leads.unique names stands leads'
  exact blocks.unique blocks'

/-- Whether there is no link below a spot, in directories that are accepted. -/
def LinkFree (t : FileTree) (cwd : String) (filter : NameFilter) (s : Spot) : Prop :=
  ∀ dirs name found target, Leads t cwd filter s dirs name found → found.node ≠ .link target

theorem Leads.linkless {s found : Spot} {dirs : List String} {name : String}
    (leads : Leads t cwd filter s dirs name found) (plain : s.node.Linkless) :
    found.node.Linkless := by
  have entry {s : Spot} {place : Place} {entries : List (String × FileTree)}
      {e : String × FileTree} (plain : s.node.Linkless)
      (opens : s.followed t cwd = .ok (place, .directory entries)) (member : e ∈ entries) :
      e.2.Linkless := by
    obtain ⟨path, here, node, inside⟩ := s
    cases plain with
    | directory inside =>
        cases opens
        exact inside _ member
    | _ => cases opens
  induction leads with
  | here opens member => exact entry plain opens member
  | inside opens member accepted leads ih => exact ih (entry plain opens member)

theorem linkFree_of_linkless {s : Spot} (plain : s.node.Linkless) : s.LinkFree t cwd filter := by
  intro dirs name found target leads link
  have below := leads.linkless plain
  rw [link] at below
  cases below

end Walk.Spot

namespace Listing

open Walk

variable {t : FileTree} {cwd : String} {filter : NameFilter}

/-- A walk enters the directory that it begins at, also by a link to it. -/
theorem sight_root {s : Spot} {place : Place} {entries : List (String × FileTree)}
    (opens : s.followed t cwd = .ok (place, .directory entries))
    (sound : FileTree.pathFault? s.path = none) (first : s.inside = []) :
    s.sight t cwd = .directory (s.sights t cwd place entries) := by
  have all : NameFilter.acceptsDir ⟨[], [], []⟩ "" = true := rfl
  refine (Spot.enters_or_blocks opens all).resolve_right fun ⟨cause, blocks⟩ => ?_
  cases blocks with
  | unresolved link fails => cases ((Spot.followed_link link).symm.trans opens).symm.trans fails
  | loop link leads inside =>
      rw [first] at inside
      cases inside
  | unopened directory accepted fault => cases sound.symm.trans fault

theorem ofRoot_directory {root : String} {place : Place} {entries : List (String × FileTree)}
    (directory : t.stat cwd root = .ok (place, .directory entries)) :
    ofRoot filter t cwd root =
      ofEntries filter root ((Spot.root root place entries).sights t cwd place entries) := by
  have sound := FileTree.pathFault?_of_stat directory
  -- The walk begins at a directory or at a link to one, and sees the same.
  rcases FileTree.linkStat_of_stat directory with found | ⟨here, target, link⟩
  · have sees : Walk.sight t cwd [] root place (.directory entries) =
        .directory ((Spot.root root place entries).sights t cwd place entries) :=
      sight_root (s := Spot.root root place entries) rfl sound rfl
    simp only [ofRoot, Walk.ofRoot, found, sees, ofSight]
  · have sees : Walk.sight t cwd [] root here (.link target) =
        .directory ((Spot.root root place entries).sights t cwd place entries) :=
      sight_root (s := ⟨root, here, .link target, []⟩) directory sound rfl
    simp only [ofRoot, Walk.ofRoot, link, sees, ofSight]

/-- The listing of a directory is exact for the accepted files and the obstacles below it. -/
theorem exact_ofRoot (names : t.WellNamed) {root : String} {place : Place}
    {entries : List (String × FileTree)}
    (directory : t.stat cwd root = .ok (place, .directory entries)) :
    Exact root ((Spot.root root place entries).IsAccepted t cwd filter)
      ((Spot.root root place entries).IsObstacle t cwd filter) (ofRoot filter t cwd root) := by
  have sound := FileTree.pathFault?_of_stat directory
  have stands : (Spot.root root place entries).Stands t := FileTree.at?_of_look directory
  have sees : (Spot.root root place entries).sight t cwd =
      .directory ((Spot.root root place entries).sights t cwd place entries) :=
    sight_root rfl sound rfl
  rw [ofRoot_directory directory]
  refine (exact_ofEntries root _ (Spot.ordered_sight names stands _ sees)).extend ?_ ?_ ?_ ?_
  · rintro _ ⟨dirs, name, rfl, leads, accepted⟩
    obtain ⟨found, there, sight⟩ := Spot.exists_leads leads sees
    exact ⟨dirs, name, found, rfl, there, Spot.sight_eq_file.mp sight, accepted⟩
  · rintro _ cause ⟨dirs, name, sight, rfl, leads, blocks⟩
    obtain ⟨found, there, rfl⟩ := Spot.exists_leads leads sees
    refine ⟨dirs, name, found, rfl, there, Spot.blocks_sight.mp ?_⟩
    rw [there.path_eq]
    exact blocks
  · rintro _ ⟨dirs, name, found, rfl, leads, isFile, accepted⟩
    refine (Spot.leads_or_obstacle leads sees).imp_left fun there => ?_
    rw [Spot.sight_eq_file.mpr isFile] at there
    exact ⟨dirs, name, rfl, there, accepted⟩
  · rintro _ cause ⟨dirs, name, found, rfl, leads, blocks⟩
    refine (Spot.leads_or_obstacle leads sees).imp_left fun there => ?_
    refine ⟨dirs, name, _, rfl, there, ?_⟩
    have path := leads.path_eq
    rw [← Spot.blocks_sight, path] at blocks
    exact blocks

/-- The listing of a directory gives the accepted files below it, each once and in the order of the
names that lead to them. If nothing blocks the way it gives all of them, and does not fail. Else it
gives those that come before the first obstacle, and fails with the path of that obstacle. The name
of the directory itself plays no part. -/
theorem lists_accepted_files (names : t.WellNamed) {root : String} {place : Place}
    {entries : List (String × FileTree)}
    (directory : t.stat cwd root = .ok (place, .directory entries)) (filter : NameFilter) :
    let start := Spot.root root place entries
    let listing := ofRoot filter t cwd root
    ∃ found : List (List String),
      found.Pairwise Before ∧ listing.files = found.map (Path.below root) ∧ listing.files.Nodup ∧
      ((∀ obstacle cause, ¬start.IsObstacle t cwd filter obstacle cause) →
        listing.failure = none ∧ ∀ file, file ∈ found ↔ start.IsAccepted t cwd filter file) ∧
      ((∃ obstacle cause, start.IsObstacle t cwd filter obstacle cause) →
        ∃ first cause, start.IsObstacle t cwd filter first cause ∧
          (∀ obstacle other, start.IsObstacle t cwd filter obstacle other →
            ¬Before obstacle first) ∧
          listing.failure = some (.listing (Path.below root first) cause) ∧
          ∀ file, file ∈ found ↔ start.IsAccepted t cwd filter file ∧ Before file first) := by
  intro start listing
  have stands : start.Stands t := FileTree.at?_of_look directory
  have once {found : List (List String)} (order : found.Pairwise Before)
      (accepted : ∀ file ∈ found, start.IsAccepted t cwd filter file) :
      (found.map (Path.below root)).Nodup := by
    refine (List.nodup_map_iff_inj_on order.nodup).mpr fun a inside b inside' same => ?_
    obtain ⟨dirs, name, _, rfl, leads, _⟩ := accepted a inside
    obtain ⟨dirs', name', _, rfl, leads', _⟩ := accepted b inside'
    exact Path.below_injective (by simp) (by simp) (leads.isName names stands)
      (leads'.isName names stands) same
  have shape : Exact root (start.IsAccepted t cwd filter) (start.IsObstacle t cwd filter) listing :=
    exact_ofRoot names directory
  generalize listing = listing at shape
  cases shape with
  | @whole found order free files =>
      refine ⟨found, order, rfl, once order fun file => (files file).mp, fun _ => ⟨rfl, files⟩, ?_⟩
      rintro ⟨obstacle, cause, blocks⟩
      exact absurd blocks (free obstacle cause)
  | @cut found first cause order here before files =>
      refine ⟨found, order, rfl, once order fun file inside => ((files file).mp inside).1, ?_, ?_⟩
      · intro free
        exact absurd here (free first cause)
      · intro _
        exact ⟨first, cause, here, before, rfl, files⟩

/-- The entries of a directory with a file, and with a directory that holds a file and more. -/
def nestedEntries (more : List (String × FileTree)) : List (String × FileTree) :=
  [("b.js", .file []), ("a", .directory (("c.js", .file []) :: more))]

theorem wellNamed_nested {name : String} (proper : Path.IsName name.toList)
    {more : List (String × FileTree)}
    (names : (FileTree.directory (("c.js", .file []) :: more)).WellNamed) :
    (FileTree.directory [(name, .directory (nestedEntries more))]).WellNamed := by
  have distinct : ["b.js", "a"].Nodup := by decide
  have first : Path.IsName "b.js".toList := by decide
  have second : Path.IsName "a".toList := by decide
  have proper' : ∀ e ∈ nestedEntries more, Path.IsName e.1.toList :=
    List.forall_mem_cons.mpr ⟨first, List.forall_mem_singleton.mpr second⟩
  have inner : (FileTree.directory (nestedEntries more)).WellNamed := by
    refine .directory distinct proper' (List.forall_mem_cons.mpr ⟨.file [], ?_⟩)
    rw [List.forall_mem_singleton]
    exact names
  refine .directory (List.nodup_singleton name) ?_ ?_
  · rw [List.forall_mem_singleton]
    exact proper
  · rw [List.forall_mem_singleton]
    exact inner

theorem wellNamed_file : (FileTree.directory [("c.js", .file [])]).WellNamed := by
  refine .directory (by decide) (by decide) ?_
  rw [List.forall_mem_singleton]
  exact .file []

theorem linkless_nested : (FileTree.directory (nestedEntries [])).Linkless := by
  refine .directory (List.forall_mem_cons.mpr ⟨.file [], ?_⟩)
  rw [List.forall_mem_singleton]
  refine .directory ?_
  rw [List.forall_mem_singleton]
  exact .file []

theorem path_of_leads_nested {path : String} {place : Place} {dirs : List String} {name : String}
    {found : Spot} {entries : List (String × FileTree)}
    (leads : (Spot.root path place (nestedEntries [])).Leads t cwd filter dirs name found)
    (directory : found.node = .directory entries) : found.path = Path.join path "a" := by
  cases leads with
  | here opens member =>
      cases opens
      rcases List.mem_cons.mp member with rfl | member
      · cases directory
      · cases List.mem_singleton.mp member
        rfl
  | inside opens member accepted leads =>
      cases opens
      rcases List.mem_cons.mp member with rfl | member
      · obtain ⟨_, _, opens⟩ := leads.opens
        cases opens
      · cases List.mem_singleton.mp member
        cases leads with
        | here opens member =>
            cases opens
            cases List.mem_singleton.mp member
            cases directory
        | inside opens member accepted leads =>
            cases opens
            cases List.mem_singleton.mp member
            obtain ⟨_, _, opens⟩ := leads.opens
            cases opens

theorem isAccepted_nested {path : String} {place : Place} :
    (Spot.root path place (nestedEntries [])).IsAccepted t cwd .default ["a", "c.js"] :=
  ⟨["a"], "c.js", _, rfl, .inside (e := ("a", _)) rfl (.tail _ (.head _)) (by cbv)
    (.here (e := ("c.js", _)) rfl (.head _)), ⟨_, _, rfl⟩, by cbv⟩

theorem isObstacle_back (back : t.stat "/" (Path.below "/.w" ["a", "up"]) =
      .ok ([".w"], .directory (nestedEntries [("up", .link "/.w")]))) :
    (Spot.root "/.w" [".w"] (nestedEntries [("up", .link "/.w")])).IsObstacle t "/" .default
      ["a", "up"] (.loop (Path.below "/.w" ["a", "up"]) "/.w") := by
  refine ⟨["a"], "up", _, rfl, .inside (e := ("a", _)) rfl (.tail _ (.head _)) (by cbv)
    (.here (e := ("up", _)) rfl (.tail _ (.head _))), ?_⟩
  exact @Spot.Blocks.loop t "/" .default "up" _ "/.w" [".w"] _ ⟨[".w"], "/.w"⟩ rfl back rfl

/-- A directory with nothing in the way, and one with a link back up to it. -/
theorem lists_accepted_files_nested :
    let free : FileTree := .directory [(".w", .directory (nestedEntries []))]
    let back : List (String × FileTree) := [("up", .link "/.w")]
    let looped : FileTree := .directory [(".w", .directory (nestedEntries back))]
    (free.WellNamed ∧ free.stat "/" "/.w" = .ok ([".w"], .directory (nestedEntries [])) ∧
      (ofRoot .default free "/" "/.w").failure = none ∧
      Path.below "/.w" ["a", "c.js"] ∈ (ofRoot .default free "/" "/.w").files) ∧
    looped.WellNamed ∧ looped.stat "/" "/.w" = .ok ([".w"], .directory (nestedEntries back)) ∧
    ∃ first cause, (ofRoot .default looped "/" "/.w").failure =
      some (.listing (Path.below "/.w" first) cause) := by
  intro free back looped
  have hidden : Path.IsName ".w".toList := by decide
  constructor
  · have sound : free.WellNamed := wellNamed_nested hidden wellNamed_file
    have start : free.stat "/" "/.w" = .ok ([".w"], .directory (nestedEntries [])) := by cbv
    have clear : ∀ obstacle cause, ¬(Spot.root "/.w" [".w"] (nestedEntries [])).IsObstacle free "/"
        .default obstacle cause := by
      rintro _ cause ⟨dirs, name, found, rfl, leads, blocks⟩
      have noLink : (Spot.root "/.w" [".w"] (nestedEntries [])).LinkFree free "/" .default :=
        Spot.linkFree_of_linkless linkless_nested
      cases blocks with
      | unresolved link => exact noLink dirs name found _ leads link
      | loop link => exact noLink dirs name found _ leads link
      | unopened directory _ fault =>
          have short : FileTree.pathFault? (Path.join "/.w" "a") = none :=
            FileTree.pathFault?_eq_none_iff.mpr (by decide)
          cases short.symm.trans (path_of_leads_nested leads directory ▸ fault)
    obtain ⟨found, _, files, _, whole, _⟩ := lists_accepted_files sound start .default
    obtain ⟨failure, accepted⟩ := whole clear
    refine ⟨sound, start, failure, ?_⟩
    rw [files]
    exact List.mem_map_of_mem ((accepted _).mpr isAccepted_nested)
  · have inner : (FileTree.directory (("c.js", .file []) :: back)).WellNamed := by
      refine .directory (by decide) (by decide) (List.forall_mem_cons.mpr ⟨.file [], ?_⟩)
      rw [List.forall_mem_singleton]
      exact .link "/.w"
    have sound : looped.WellNamed := wellNamed_nested hidden inner
    have start : looped.stat "/" "/.w" = .ok ([".w"], .directory (nestedEntries back)) := by cbv
    have again : looped.stat "/" (Path.below "/.w" ["a", "up"]) =
        .ok ([".w"], .directory (nestedEntries back)) := by
      rw [FileTree.stat_eq (by cbv) (by decide : _ = [".w", "a", "up"])]
      cbv
    obtain ⟨_, _, _, _, _, cut⟩ := lists_accepted_files sound start .default
    obtain ⟨first, cause, _, _, failure, _⟩ := cut ⟨_, _, isObstacle_back again⟩
    exact ⟨sound, start, first, cause, failure⟩

/-- A directory without a link below it whose listing fails all the same: the path of the directory
`a` has one byte more than it may have. -/
theorem lists_no_files_beyond_limit :
    let t : FileTree := .directory [("w", .directory (nestedEntries []))]
    let root := FileTree.slashed 4092
    let start := Spot.root root ["w"] (nestedEntries [])
    t.WellNamed ∧ t.Linkless ∧ t.stat "/" root = .ok (["w"], .directory (nestedEntries [])) ∧
      start.IsAccepted t "/" .default ["a", "c.js"] ∧
      ofRoot .default t "/" root =
        .failed (Path.join root "a") (.entry (Path.join root "a") .nameTooLong) := by
  intro t root start
  have sound : t.WellNamed := wellNamed_nested (by decide) wellNamed_file
  have directory : t.stat "/" root = .ok (["w"], .directory (nestedEntries [])) :=
    FileTree.stat_slashed 4092 rfl "/" (by decide)
  have long : FileTree.pathFault? (Path.join root "a") = some .nameTooLong := by
    rw [FileTree.join_slashed 4092 (by decide), FileTree.pathFault?_slashed_append 4092 (by decide)]
    decide
  have unopened : Walk.sight t "/" [⟨["w"], root⟩] (Path.join root "a") ["w", "a"]
      (.directory [("c.js", .file [])]) = .unopened .nameTooLong := by
    rw [Walk.sight, long]
  have sees : (Spot.root root ["w"] (nestedEntries [])).sights t "/" ["w"] (nestedEntries []) =
      [("a", .unopened .nameTooLong), ("b.js", .file)] := by
    have behind : Sight.nameLe "b.js" "a" = false := rfl
    simp [Spot.sights, Spot.entry, Spot.sight, Spot.root, nestedEntries, unopened,
      Sight.sortEntries, List.mergeSort, List.MergeSort.Internal.splitInTwo, behind, Walk.sight]
  have entered : NameFilter.default.acceptsDir "a" = true := by cbv
  have plain : t.Linkless := .directory (List.forall_mem_singleton.mpr linkless_nested)
  refine ⟨sound, plain, directory, isAccepted_nested, ?_⟩
  simp only [ofRoot_directory directory, sees, ofEntries, entered, ↓reduceIte]
  rfl

end Listing

end MessageCatalog
