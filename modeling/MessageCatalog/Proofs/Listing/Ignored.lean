import MessageCatalog.Proofs.FileTree.Agree
import MessageCatalog.Proofs.Listing.Below

/-! # What ignored entries do to a listing

An ignored entry has no influence on a listing, with one exception: a link that leads nowhere, or
back up to a directory the walk is inside of, ends the listing whatever its name is.
-/

namespace MessageCatalog

open FileTree (AgreeAt AgreeNode Agree)

namespace Walk.Spot

/-- Two spots that are the same but for what stands there, which differs in ignored entries. -/
structure Alike (filter : NameFilter) (s s' : Spot) : Prop where
  path : s.path = s'.path
  place : s.place = s'.place
  node : AgreeNode filter s.node s'.node
  inside : s.inside = s'.inside

variable {t t' : FileTree} {cwd : String} {filter : NameFilter} {s s' : Spot}

theorem Alike.symm (alike : Alike filter s s') : Alike filter s' s :=
  ⟨alike.path.symm, alike.place.symm, alike.node.symm, alike.inside.symm⟩

theorem Alike.entry (alike : Alike filter s s') (place : Place) (name : String)
    {node node' : FileTree} (agree : AgreeNode filter node node') :
    Alike filter (s.entry place (name, node)) (s'.entry place (name, node')) := by
  refine ⟨?_, rfl, agree, ?_⟩
  · simp only [Spot.entry, alike.path]
  · simp only [Spot.entry, alike.path, alike.inside]

theorem Alike.followed (alike : Alike filter s s')
    (links : ∀ target, s.node = .link target →
      AgreeAt filter (t.stat cwd s.path) (t'.stat cwd s.path)) :
    AgreeAt filter (s.followed t cwd) (s'.followed t' cwd) := by
  obtain ⟨path, place, node, inside⟩ := s
  obtain ⟨_, _, node', _⟩ := s'
  obtain ⟨rfl, rfl, agree, rfl⟩ := alike
  cases agree with
  | directory below => exact .ok place (.directory below)
  | refl =>
      cases node with
      | link target => exact links target rfl
      | file content => exact .ok place (.refl _)
      | directory entries => exact .ok place (.refl _)
      | special => exact .ok place (.refl _)
      | full => exact .ok place (.refl _)

/-- Whether alike spots on the way along names lead to what agrees, unless they are ignored. -/
def LeadAlike (t t' : FileTree) (cwd : String) (filter : NameFilter) (s s' : Spot)
    (names : List String) : Prop :=
  ∀ dirs name found found', dirs ++ [name] <+: names → Leads t cwd filter s dirs name found →
    Leads t' cwd filter s' dirs name found' → Alike filter found found' →
    ¬filter.Ignores name → AgreeAt filter (found.followed t cwd) (found'.followed t' cwd)

theorem LeadAlike.symm {names : List String} (below : LeadAlike t t' cwd filter s s' names) :
    LeadAlike t' t cwd filter s' s names :=
  fun dirs name found found' along leads leads' alike heeded =>
    (below dirs name found' found along leads' leads alike.symm heeded).symm

/-- Names that are not ignored lead to alike spots. -/
theorem Leads.exists_alike {found : Spot} {dirs : List String} {name : String}
    (leads : Leads t cwd filter s dirs name found) (heeded : ¬filter.Ignores name)
    (alike : Alike filter s s') (here : AgreeAt filter (s.followed t cwd) (s'.followed t' cwd))
    (below : LeadAlike t t' cwd filter s s' (dirs ++ [name])) :
    ∃ found', Leads t' cwd filter s' dirs name found' ∧ Alike filter found found' := by
  induction leads generalizing s' with
  | @here s place entries e opens member =>
      rw [opens] at here
      obtain ⟨entries', opens', agree⟩ := here.directory
      obtain ⟨node, member', same⟩ := agree.exists_of_mem member heeded
      exact ⟨_, .here (e := (e.1, node)) opens' member', alike.entry place e.1 same⟩
  | @inside s place entries e dirs name found opens member accepted leads ih =>
      rw [opens] at here
      obtain ⟨entries', opens', agree⟩ := here.directory
      -- A directory that is entered is accepted, and so not ignored.
      have entered : ¬filter.Ignores e.1 := NameFilter.not_ignores_of_dir accepted
      obtain ⟨node, member', same⟩ := agree.exists_of_mem member entered
      have next := alike.entry place e.1 same
      have agree := below [] e.1 _ _ (List.prefix_append [e.1] _) (.here opens member)
        (.here (e := (e.1, node)) opens' member') next entered
      obtain ⟨found', leads', there⟩ := ih heeded next agree
        fun dirs name found found' along leads leads' => below (e.1 :: dirs) name found found'
          ((List.prefix_cons_inj e.1).mpr along) (.inside opens member accepted leads)
          (.inside (e := (e.1, node)) opens' member' accepted leads')
      exact ⟨found', .inside (e := (e.1, node)) opens' member' accepted leads', there⟩

theorem Alike.blocks (alike : Alike filter s s') {name : String} {cause : Cause}
    (here : AgreeAt filter (s.followed t cwd) (s'.followed t' cwd))
    (blocks : s.Blocks t cwd filter name cause) : s'.Blocks t' cwd filter name cause := by
  obtain ⟨path, place, node, inside⟩ := s
  obtain ⟨_, _, node', _⟩ := s'
  obtain ⟨rfl, rfl, agree, rfl⟩ := alike
  cases blocks with
  | @unresolved target e link fails =>
      cases link
      cases agree
      rw [followed_link rfl, followed_link rfl, fails] at here
      generalize reached : t'.stat cwd path = at' at here
      cases here
      exact .unresolved rfl reached
  | @loop target found entries ancestor link leads inside =>
      cases link
      cases agree
      rw [followed_link rfl, followed_link rfl, leads] at here
      obtain ⟨entries', leads', _⟩ := here.directory
      exact .loop rfl leads' inside
  | unopened directory accepted fault =>
      cases directory
      cases agree with
      | refl => exact .unopened rfl accepted fault
      | directory below => exact .unopened rfl accepted fault

theorem IsAccepted.alike {names : List String} (accepted : s.IsAccepted t cwd filter names)
    (alike : Alike filter s s') (here : AgreeAt filter (s.followed t cwd) (s'.followed t' cwd))
    (below : LeadAlike t t' cwd filter s s' names) : s'.IsAccepted t' cwd filter names := by
  obtain ⟨dirs, name, found, rfl, leads, ⟨place, content, isFile⟩, accepted⟩ := accepted
  have heeded : ¬filter.Ignores name := NameFilter.not_ignores_of_file accepted
  obtain ⟨found', leads', there⟩ := leads.exists_alike heeded alike here below
  have agree := below dirs name found found' List.prefix_rfl leads leads' there heeded
  rw [isFile] at agree
  exact ⟨dirs, name, found', rfl, leads', ⟨place, content, agree.file⟩, accepted⟩

/-- What blocks the way to names blocks it below a spot that is alike, if an ignored entry that
does so is an obstacle there too. -/
theorem IsObstacle.alike {names : List String} {cause : Cause}
    (obstacle : s.IsObstacle t cwd filter names cause) (alike : Alike filter s s')
    (here : AgreeAt filter (s.followed t cwd) (s'.followed t' cwd))
    (below : LeadAlike t t' cwd filter s s' names)
    (passed : ∀ dirs name, names = dirs ++ [name] → filter.Ignores name →
      s'.IsObstacle t' cwd filter names cause) : s'.IsObstacle t' cwd filter names cause := by
  obtain ⟨dirs, name, found, rfl, leads, blocks⟩ := id obstacle
  by_cases ignored : filter.Ignores name
  · exact passed dirs name rfl ignored
  · obtain ⟨found', leads', there⟩ := leads.exists_alike ignored alike here below
    have agree := below dirs name found found' List.prefix_rfl leads leads' there ignored
    exact ⟨dirs, name, found', rfl, leads', there.blocks agree blocks⟩

/-- Whether walks from two spots, each in its tree, both come to names. -/
def BothComeTo (t t' : FileTree) (cwd : String) (filter : NameFilter) (s s' : Spot)
    (names : List String) : Prop :=
  Listing.ComesTo (s.IsObstacle t cwd filter) names ∧
    Listing.ComesTo (s'.IsObstacle t' cwd filter) names

/-- Whether links that two walks come to lead to what agrees in either tree, unless they are
ignored. -/
def LinksAgree (t t' : FileTree) (cwd : String) (filter : NameFilter) (s s' : Spot) : Prop :=
  ∀ dirs name found target, BothComeTo t t' cwd filter s s' (dirs ++ [name]) →
    Leads t cwd filter s dirs name found → ¬filter.Ignores name → found.node = .link target →
    AgreeAt filter (t.stat cwd found.path) (t'.stat cwd found.path)

theorem LinksAgree.leadAlike (links : LinksAgree t t' cwd filter s s') {names : List String}
    (come : BothComeTo t t' cwd filter s s' names) : LeadAlike t t' cwd filter s s' names := by
  rintro dirs name found found' ⟨more, rfl⟩ leads _ alike heeded
  exact alike.followed fun target link =>
    links dirs name found target ⟨come.1.of_append, come.2.of_append⟩ leads heeded link

/-- Whether an ignored entry that two walks come to blocks the way of both or of neither. -/
def BlockedAlike (t t' : FileTree) (cwd : String) (filter : NameFilter) (s s' : Spot) : Prop :=
  ∀ dirs name cause, BothComeTo t t' cwd filter s s' (dirs ++ [name]) → filter.Ignores name →
    (s.IsObstacle t cwd filter (dirs ++ [name]) cause ↔
      s'.IsObstacle t' cwd filter (dirs ++ [name]) cause)

end Walk.Spot

namespace Listing

open Walk

variable {t t' : FileTree} {cwd : String} {filter : NameFilter}

/-- Two trees have the same listing of a directory, its failure included, if below that directory
they differ in ignored entries alone, and as far as the walks through both of them come, links that
are not ignored stand for the same and no ignored link blocks the way of one walk only. So a listing
stays what it is when an ignored entry is added somewhere below, removed, or something else is put
in its place. -/
theorem ignored_without_influence (names : t.WellNamed) (names' : t'.WellNamed) {root : String}
    {place : Place} {entries entries' : List (String × FileTree)}
    (directory : t.stat cwd root = .ok (place, .directory entries))
    (directory' : t'.stat cwd root = .ok (place, .directory entries'))
    (links : Spot.LinksAgree t t' cwd filter (.root root place entries) (.root root place entries'))
    (blocked :
      Spot.BlockedAlike t t' cwd filter (.root root place entries) (.root root place entries')) :
    (Agree filter entries entries' → ofRoot filter t cwd root = ofRoot filter t' cwd root) ∧
    ∀ below inner name, filter.Ignores name → t.at? (place ++ below) = some (.directory inner) →
      (t' = t.erase (place ++ below ++ [name]) ∨
        ∃ node, t' = t.put (place ++ below ++ [name]) node) →
      ofRoot filter t cwd root = ofRoot filter t' cwd root := by
  have same (agree : Agree filter entries entries') :
      ofRoot filter t cwd root = ofRoot filter t' cwd root := by
    have alike : Spot.Alike filter (.root root place entries) (.root root place entries') :=
      ⟨rfl, rfl, .directory agree, rfl⟩
    have here : AgreeAt filter ((Spot.root root place entries).followed t cwd)
        ((Spot.root root place entries').followed t' cwd) := .ok place (.directory agree)
    have shape : Exact root _ _ (ofRoot filter t cwd root) := exact_ofRoot names directory
    have shape' : Exact root _ _ (ofRoot filter t' cwd root) := exact_ofRoot names' directory'
    refine shape.eq_of_same shape' (fun steps come come' => ?_) (fun steps cause come come' => ?_)
      fun _ _ _ => Spot.IsObstacle.unique (s := .root root place entries) names
        (FileTree.at?_of_look directory)
    · have below := links.leadAlike ⟨come, come'⟩
      exact ⟨fun accepted => accepted.alike alike here below,
        fun accepted => accepted.alike alike.symm here.symm below.symm⟩
    · have below := links.leadAlike ⟨come, come'⟩
      constructor
      · intro obstacle
        refine obstacle.alike alike here below fun dirs name whole ignored => ?_
        subst whole
        exact (blocked dirs name cause ⟨come, come'⟩ ignored).mp obstacle
      · intro obstacle
        refine obstacle.alike alike.symm here.symm below.symm fun dirs name whole ignored => ?_
        subst whole
        exact (blocked dirs name cause ⟨come, come'⟩ ignored).mpr obstacle
  refine ⟨same, fun below inner name ignored there change => same ?_⟩
  obtain ⟨after, there', agree⟩ :=
    Agree.of_change ignored (FileTree.at?_of_look directory) there change
  cases there'.symm.trans (FileTree.at?_of_look directory')
  exact agree

theorem stat_top (entries : List (String × FileTree)) :
    (FileTree.directory entries).stat "/" "." = .ok ([], .directory entries) := by
  rw [FileTree.stat_eq (by cbv) (by decide : _ = ["."])]
  cbv

/-- The entries of a directory with one file, others, and an ignored link that leads nowhere. -/
def besideBroken (others : List (String × FileTree)) : List (String × FileTree) :=
  ("b.js", .file []) :: (others ++ [(".z", .link "y")])

section Broken

variable {others : List (String × FileTree)}

theorem ignores_hidden : ∀ name ∈ [".x", ".z"], NameFilter.default.Ignores name :=
  List.forall_mem_cons.mpr ⟨⟨by cbv, by cbv⟩, List.forall_mem_singleton.mpr ⟨by cbv, by cbv⟩⟩

theorem wellNamed_besideBroken (distinct : ((besideBroken others).map Prod.fst).Nodup)
    (named : ∀ e ∈ others, Path.IsName e.1.toList) (below : ∀ e ∈ others, e.2.WellNamed) :
    (FileTree.directory (besideBroken others)).WellNamed := by
  have first : Path.IsName "b.js".toList := by decide
  have last : Path.IsName ".z".toList := by decide
  refine .directory distinct (List.forall_mem_cons.mpr ⟨first, List.forall_mem_append.mpr
      ⟨named, List.forall_mem_singleton.mpr last⟩⟩)
    (List.forall_mem_cons.mpr ⟨.file [], List.forall_mem_append.mpr ⟨below, ?_⟩⟩)
  rw [List.forall_mem_singleton]
  exact .link "y"

variable (hidden : ∀ e ∈ others, e.1 = ".x" ∧ e.2.Linkless)
include hidden

theorem ignores_besideBroken {e : String × FileTree} (member : e ∈ others ++ [(".z", .link "y")]) :
    NameFilter.default.Ignores e.1 := by
  rcases List.mem_append.mp member with other | last
  · rw [(hidden e other).1]
    exact ignores_hidden ".x" List.mem_cons_self
  · rw [List.mem_singleton.mp last]
    exact ignores_hidden ".z" (by simp)

theorem leads_besideBroken {dirs : List String} {name : String} {found : Spot}
    (leads : (Spot.root "." [] (besideBroken others)).Leads t cwd .default dirs name found) :
    dirs = [] ∧ ∃ node, (name, node) ∈ besideBroken others ∧
      found = (Spot.root "." [] (besideBroken others)).entry [] (name, node) := by
  cases leads with
  | here opens member =>
      cases opens
      exact ⟨rfl, _, member, rfl⟩
  | inside opens member accepted leads =>
      cases opens
      rcases List.mem_cons.mp member with rfl | member
      · obtain ⟨_, _, opens⟩ := leads.opens
        cases opens
      · exact absurd (ignores_besideBroken hidden member) (NameFilter.not_ignores_of_dir accepted)

theorem link_besideBroken {name target : String}
    (member : (name, .link target) ∈ besideBroken others) : name = ".z" := by
  rcases List.mem_cons.mp member with first | member
  · cases first
  · rcases List.mem_append.mp member with other | last
    · cases (hidden _ other).2
    · cases List.mem_singleton.mp last
      rfl

theorem isObstacle_besideBroken (broken : t.stat cwd (Path.join "." ".z") = .error .notFound)
    {steps : List String} {cause : Cause} :
    (Spot.root "." [] (besideBroken others)).IsObstacle t cwd .default steps cause ↔
      steps = [".z"] ∧ cause = .entry (Path.join "." ".z") .notFound := by
  constructor
  · rintro ⟨dirs, name, found, rfl, leads, blocks⟩
    obtain ⟨rfl, node, member, rfl⟩ := leads_besideBroken hidden leads
    cases blocks with
    | unresolved link fails =>
        cases link
        cases link_besideBroken hidden member
        cases broken.symm.trans fails
        exact ⟨rfl, rfl⟩
    | loop link leads =>
        cases link
        cases link_besideBroken hidden member
        cases broken.symm.trans leads
    | unopened directory accepted =>
        cases directory
        rcases List.mem_cons.mp member with first | member
        · cases first
        · exact absurd (ignores_besideBroken hidden member) (NameFilter.not_ignores_of_dir accepted)
  · rintro ⟨rfl, rfl⟩
    refine ⟨[], ".z", _, rfl, .here (e := (".z", .link "y")) rfl ?_, ?_⟩
    · exact .tail _ (List.mem_append_right _ List.mem_cons_self)
    · exact .unresolved rfl broken

theorem alike_besideBroken {others' : List (String × FileTree)}
    (hidden' : ∀ e ∈ others', e.1 = ".x" ∧ e.2.Linkless)
    (broken : t.stat cwd (Path.join "." ".z") = .error .notFound)
    (broken' : t'.stat cwd (Path.join "." ".z") = .error .notFound) :
    Spot.LinksAgree t t' cwd .default (.root "." [] (besideBroken others))
        (.root "." [] (besideBroken others')) ∧
      Spot.BlockedAlike t t' cwd .default (.root "." [] (besideBroken others))
        (.root "." [] (besideBroken others')) := by
  constructor
  · intro dirs name found target _ leads heeded link
    obtain ⟨rfl, node, member, rfl⟩ := leads_besideBroken hidden leads
    cases link
    cases link_besideBroken hidden member
    exact absurd (ignores_hidden ".z" (by simp)) heeded
  · intro dirs name cause _ _
    rw [isObstacle_besideBroken hidden broken, isObstacle_besideBroken hidden' broken']

end Broken

/-- An ignored file becomes a directory, or goes, beside an ignored link that ends the listing. -/
theorem ignored_without_influence_broken :
    let file : FileTree := .directory (besideBroken [(".x", .file [])])
    let inner : List (String × FileTree) := [("c.js", .file [])]
    let changed : FileTree := .directory (besideBroken [(".x", .directory inner)])
    let gone : FileTree := .directory (besideBroken [])
    NameFilter.default.Ignores ".x" ∧ gone = file.erase [".x"] ∧
      ofRoot .default file "/" "." = ofRoot .default changed "/" "." ∧
      ofRoot .default file "/" "." = ofRoot .default gone "/" "." := by
  intro file inner changed gone
  have ignored : NameFilter.default.Ignores ".x" := ignores_hidden ".x" List.mem_cons_self
  have named : Path.IsName ".x".toList := by decide
  have sound {node : FileTree} (below : node.WellNamed) :
      (FileTree.directory (besideBroken [(".x", node)])).WellNamed :=
    wellNamed_besideBroken (by decide : ["b.js", ".x", ".z"].Nodup)
      (List.forall_mem_singleton.mpr named) (by rw [List.forall_mem_singleton]; exact below)
  have sound_file : file.WellNamed := sound (.file [])
  have sound_inner : (FileTree.directory inner).WellNamed := by
    refine .directory (by decide) (by decide) ?_
    rw [List.forall_mem_singleton]
    exact .file []
  have sound_changed : changed.WellNamed := sound sound_inner
  have sound_gone : gone.WellNamed := wellNamed_besideBroken (by decide : ["b.js", ".z"].Nodup)
    (by simp) (by simp)
  have broken_file : file.stat "/" (Path.join "." ".z") = .error .notFound := by
    rw [FileTree.stat_eq (by cbv) (by decide : _ = [".", ".z"])]
    cbv
  have broken_changed : changed.stat "/" (Path.join "." ".z") = .error .notFound := by
    rw [FileTree.stat_eq (by cbv) (by decide : _ = [".", ".z"])]
    cbv
  have broken_gone : gone.stat "/" (Path.join "." ".z") = .error .notFound := by
    rw [FileTree.stat_eq (by cbv) (by decide : _ = [".", ".z"])]
    cbv
  have plain {node : FileTree} (linkless : node.Linkless) :
      ∀ e ∈ [(".x", node)], e.1 = ".x" ∧ e.2.Linkless :=
    List.forall_mem_singleton.mpr ⟨rfl, linkless⟩
  have plain_file := plain (.file [])
  have plain_inner : (FileTree.directory inner).Linkless :=
    .directory (List.forall_mem_singleton.mpr (FileTree.Linkless.file []))
  have plain_changed := plain plain_inner
  have removed : gone = file.erase [".x"] := by
    rw [FileTree.erase]
    rfl
  obtain ⟨links, blocked⟩ := alike_besideBroken plain_file plain_changed broken_file broken_changed
  obtain ⟨links', blocked'⟩ := alike_besideBroken plain_file (List.forall_mem_nil _) broken_file broken_gone
  refine ⟨ignored, removed, ?_, ?_⟩
  · refine (ignored_without_influence sound_file sound_changed (stat_top _) (stat_top _) links
      blocked).1 ?_
    exact .same (.left ignored (.right ignored (.refl _ _)))
  · exact (ignored_without_influence sound_file sound_gone (stat_top _) (stat_top _) links'
      blocked').2 [] _ ".x" ignored rfl (.inl removed)

/-- The entries of a directory with one file, and with something ignored next to it. -/
def besideIgnored (node : FileTree) : List (String × FileTree) :=
  [("b.js", .file []), (".x", node)]

theorem wellNamed_besideIgnored {node : FileTree} (names : node.WellNamed) :
    (FileTree.directory (besideIgnored node)).WellNamed := by
  have distinct : ["b.js", ".x"].Nodup := by decide
  refine .directory distinct (List.forall_mem_cons.mpr ⟨by decide, ?_⟩)
    (List.forall_mem_cons.mpr ⟨.file [], ?_⟩)
  · rw [List.forall_mem_singleton]
    exact (by decide : Path.IsName ".x".toList)
  · rw [List.forall_mem_singleton]
    exact names

theorem ignored_link_ends_listing :
    let before : FileTree := .directory (besideIgnored (.file []))
    let after : FileTree := .directory (besideIgnored (.link "y"))
    NameFilter.default.Ignores ".x" ∧ ofRoot .default before "/" "." = ⟨["./b.js"], none⟩ ∧
      (ofRoot .default after "/" ".").failure ≠ none := by
  intro before after
  have names : after.WellNamed := wellNamed_besideIgnored (.link "y")
  have broken : after.stat "/" "./.x" = .error .notFound := by
    rw [FileTree.stat_eq (by cbv) (by decide : _ = [".", ".x"])]
    cbv
  have obstacle : (Spot.root "." [] (besideIgnored (.link "y"))).IsObstacle after "/" .default
      [".x"] (.entry "./.x" .notFound) := by
    refine ⟨[], ".x", _, rfl, .here (e := (".x", _)) rfl (.tail _ (.head _)), ?_⟩
    exact @Spot.Blocks.unresolved after "/" .default ".x" _ "y" _ rfl broken
  refine ⟨⟨by cbv, by cbv⟩, by cbv, ?_⟩
  have shape : Exact "." _ _ (ofRoot .default after "/" ".") :=
    exact_ofRoot names (stat_top _)
  generalize ofRoot .default after "/" "." = listing at shape
  cases shape with
  | whole order free => exact absurd obstacle (free _ _)
  | cut => simp

end Listing

end MessageCatalog
