import Mathlib
import MessageCatalog.Listing
import MessageCatalog.Proofs.Path
import MessageCatalog.Proofs.Utf8

/-! # The order of a listing

A listing comes to things in the order of the names that lead to them, compared name by name and
each name by its bytes. `Lists` says what that means for a listing that an obstacle may cut short:
all files before the first obstacle, and then its failure.
-/

namespace MessageCatalog

/-- Whether names come before others, name by name and each by its bytes. -/
def Before (a b : List String) : Prop := a.map Utf8.bytes < b.map Utf8.bytes

namespace Before

variable {a b c : List String}

theorem irrefl (a : List String) : ¬Before a a := List.lt_irrefl _

theorem trans (first : Before a b) (second : Before b c) : Before a c := List.lt_trans first second

theorem asymm (h : Before a b) : ¬Before b a := List.lt_asymm h

theorem cons_iff {name other : String} :
    Before (name :: a) (other :: b) ↔
      Utf8.bytes name < Utf8.bytes other ∨ name = other ∧ Before a b := by
  simp only [Before, List.map_cons, List.cons_lt_cons_iff, Utf8.bytes_injective.eq_iff]

theorem append (a : List String) {b : List String} (more : b ≠ []) : Before a (a ++ b) := by
  induction a with
  | nil =>
      obtain ⟨name, names, rfl⟩ := List.exists_cons_of_ne_nil more
      exact List.nil_lt_cons _ _
  | cons name a ih => exact cons_iff.mpr (.inr ⟨rfl, ih⟩)

instance : Std.Irrefl Before := ⟨irrefl⟩

instance : Std.Antisymm Before := ⟨fun _ _ h h' => absurd h' h.asymm⟩

theorem eq_of_not (first : ¬Before a b) (second : ¬Before b a) : a = b := by
  have bytes : a.map Utf8.bytes = b.map Utf8.bytes :=
    Std.Trichotomous.trichotomous (r := (· < ·)) _ _ first second
  exact (List.map_inj_right fun _ _ same => Utf8.bytes_injective same).mp bytes

end Before

namespace Listing

/-- What a listing holds of the files below a path and the obstacles among them, both by the names
that lead to them: all files, or those before the first obstacle and its failure. -/
inductive Exact (path : String) (file : List String → Prop)
    (obstacle : List String → Cause → Prop) : Listing → Prop where
  | whole {found : List (List String)} (order : found.Pairwise Before)
    (free : ∀ names cause, ¬obstacle names cause) (files : ∀ names, names ∈ found ↔ file names) :
    Exact path file obstacle ⟨found.map (Path.below path), none⟩
  | cut {found : List (List String)} {last : List String} {cause : Cause}
    (order : found.Pairwise Before) (here : obstacle last cause)
    (first : ∀ names other, obstacle names other → ¬Before names last)
    (files : ∀ names, names ∈ found ↔ file names ∧ Before names last) :
    Exact path file obstacle
      ⟨found.map (Path.below path), some (.listing (Path.below path last) cause)⟩

/-- Whether a listing comes to names: there is no obstacle before them. -/
def ComesTo (obstacle : List String → Cause → Prop) (names : List String) : Prop :=
  ∀ before cause, obstacle before cause → ¬Before before names

theorem ComesTo.of_before {obstacle : List String → Cause → Prop} {before names : List String}
    (comes : ComesTo obstacle names) (earlier : Before before names) : ComesTo obstacle before :=
  fun passed cause blocks less => comes passed cause blocks (less.trans earlier)

theorem ComesTo.of_append {obstacle : List String → Cause → Prop} {names more : List String}
    (comes : ComesTo obstacle (names ++ more)) : ComesTo obstacle names := by
  by_cases none : more = []
  · rwa [none, List.append_nil] at comes
  · exact comes.of_before (Before.append names none)

namespace Exact

variable {path name : String} {file later : List String → Prop}
  {obstacle behind : List String → Cause → Prop} {first second : Listing}

theorem exists_found (h : Exact path file obstacle first) :
    ∃ found : List (List String), found.Pairwise Before ∧
      first.files = found.map (Path.below path) ∧ ∀ names ∈ found, file names := by
  cases h with
  | whole order free files => exact ⟨_, order, rfl, fun names => (files names).mp⟩
  | cut order here before files =>
      exact ⟨_, order, rfl, fun names inside => ((files names).mp inside).1⟩

theorem empty (none : ∀ names, ¬file names) (free : ∀ names cause, ¬obstacle names cause) :
    Exact path file obstacle Listing.empty :=
  whole .nil free fun names => by simpa using none names

theorem single (only : ∀ names, file names ↔ names = [name])
    (free : ∀ names cause, ¬obstacle names cause) :
    Exact path file obstacle (Listing.file (Path.join path name)) :=
  whole (List.pairwise_singleton Before [name]) free fun names => by simp [only]

theorem failed {cause : Cause} (none : ∀ names, ¬file names)
    (only : ∀ names other, obstacle names other ↔ names = [name] ∧ other = cause) :
    Exact path file obstacle (Listing.failed (Path.join path name) cause) := by
  refine cut .nil ((only [name] cause).mpr ⟨rfl, rfl⟩) ?_ fun names => by simp [none]
  intro names other blocks
  rw [((only _ _).mp blocks).1]
  exact Before.irrefl _

theorem congr {file' : List String → Prop} {obstacle' : List String → Cause → Prop}
    (h : Exact path file obstacle first) (files : ∀ names, file names ↔ file' names)
    (obstacles : ∀ names cause, obstacle names cause ↔ obstacle' names cause) :
    Exact path file' obstacle' first := by
  obtain rfl : file = file' := funext fun names => propext (files names)
  obtain rfl : obstacle = obstacle' :=
    funext fun names => funext fun cause => propext (obstacles names cause)
  exact h

/-- What is exact below a directory is exact for the directory that holds it. -/
theorem inside (h : Exact (Path.join path name) file obstacle first) :
    Exact path (fun names => ∃ rest, names = name :: rest ∧ file rest)
      (fun names cause => ∃ rest, names = name :: rest ∧ obstacle rest cause) first := by
  -- A first name in common does not change the order.
  have ordered {found : List (List String)} (order : found.Pairwise Before) :
      (found.map (name :: ·)).Pairwise Before :=
    order.map _ fun _ _ before => Before.cons_iff.mpr (.inr ⟨rfl, before⟩)
  have paths (found : List (List String)) :
      found.map (Path.below (Path.join path name)) =
        (found.map (name :: ·)).map (Path.below path) := by
    rw [List.map_map]
    rfl
  cases h with
  | whole order free files =>
      rw [paths]
      refine whole (ordered order) (fun names cause blocks => ?_) fun names => ?_
      · obtain ⟨rest, _, inner⟩ := blocks
        exact free rest cause inner
      · simp only [List.mem_map, files, eq_comm, and_comm]
  | @cut found last cause order here before files =>
      rw [paths]
      refine @cut path _ _ _ (name :: last) cause (ordered order) ⟨last, rfl, here⟩ ?_
        fun names => ?_
      · rintro _ other ⟨rest, rfl, inner⟩ earlier
        rcases Before.cons_iff.mp earlier with less | ⟨_, less⟩
        · exact List.lt_irrefl _ less
        · exact before rest other inner less
      · constructor
        · intro member
          obtain ⟨rest, inner, rfl⟩ := List.mem_map.mp member
          obtain ⟨isFile, less⟩ := (files rest).mp inner
          exact ⟨⟨rest, rfl, isFile⟩, Before.cons_iff.mpr (.inr ⟨rfl, less⟩)⟩
        · rintro ⟨⟨rest, rfl, isFile⟩, earlier⟩
          rcases Before.cons_iff.mp earlier with less | ⟨_, less⟩
          · exact absurd less (List.lt_irrefl _)
          · exact List.mem_map_of_mem ((files rest).mpr ⟨isFile, less⟩)

theorem append (h : Exact path file obstacle first) (h' : Exact path later behind second)
    (apart : ∀ a b, (file a ∨ ∃ cause, obstacle a cause) → (later b ∨ ∃ cause, behind b cause) →
      Before a b) :
    Exact path (fun names => file names ∨ later names)
      (fun names cause => obstacle names cause ∨ behind names cause) (first.append second) := by
  have joined {found more : List (List String)} (order : found.Pairwise Before)
      (order' : more.Pairwise Before) (files : ∀ names ∈ found, file names)
      (others : ∀ names ∈ more, later names) : (found ++ more).Pairwise Before :=
    List.pairwise_append.mpr ⟨order, order', fun a inside b inside' =>
      apart a b (.inl (files a inside)) (.inl (others b inside'))⟩
  cases h with
  | @whole found order free files =>
      cases h' with
      | @whole more order' free' files' =>
          simp only [Listing.append, ← List.map_append]
          refine whole (joined order order' (fun _ => (files _).mp) fun _ => (files' _).mp) ?_ ?_
          · rintro names cause (blocks | blocks)
            · exact free names cause blocks
            · exact free' names cause blocks
          · intro names
            rw [List.mem_append, files, files']
      | @cut more last cause order' here before files' =>
          simp only [Listing.append, ← List.map_append]
          refine cut (joined order order' (fun _ => (files _).mp) fun _ inner =>
            ((files' _).mp inner).1) (.inr here) ?_ ?_
          · rintro names other (blocks | blocks)
            · exact absurd blocks (free names other)
            · exact before names other blocks
          · intro names
            have early (isFile : file names) : Before names last :=
              apart names last (.inl isFile) (.inr ⟨cause, here⟩)
            rw [List.mem_append, files, files', or_and_right]
            exact or_congr_left ⟨fun isFile => ⟨isFile, early isFile⟩, And.left⟩
  | @cut found last cause order here before files =>
      -- An obstacle in the first listing comes before all of the second one, and hides it.
      have late {names : List String} (inner : later names ∨ ∃ other, behind names other) :
          ¬Before names last := (apart last names (.inr ⟨cause, here⟩) inner).asymm
      refine cut order (.inl here) ?_ ?_
      · rintro names other (blocks | blocks)
        · exact before names other blocks
        · exact late (.inr ⟨other, blocks⟩)
      · intro names
        rw [files, or_and_right]
        exact ⟨.inl, fun either => either.resolve_right fun ⟨isFile, less⟩ =>
          late (.inl isFile) less⟩

/-- What is exact for some files and obstacles is exact for others, if these are among them, and
those come behind one of these obstacles. -/
theorem extend {file' : List String → Prop} {obstacle' : List String → Cause → Prop}
    (h : Exact path file obstacle first) (isFile : ∀ names, file names → file' names)
    (isObstacle : ∀ names cause, obstacle names cause → obstacle' names cause)
    (file_or : ∀ names, file' names →
      file names ∨ ∃ before cause, obstacle before cause ∧ Before before names)
    (obstacle_or : ∀ names cause, obstacle' names cause →
      obstacle names cause ∨ ∃ before cause, obstacle before cause ∧ Before before names) :
    Exact path file' obstacle' first := by
  cases h with
  | whole order free files =>
      have none_before {names : List String} :
          ¬∃ before cause, obstacle before cause ∧ Before before names :=
        fun ⟨before, cause, blocks, _⟩ => free before cause blocks
      refine whole order (fun names cause blocks => ?_) fun names => ?_
      · exact free names cause ((obstacle_or names cause blocks).resolve_right none_before)
      · rw [files]
        exact ⟨isFile names, fun member => (file_or names member).resolve_right none_before⟩
  | @cut found last cause order here before files =>
      -- There is no other obstacle before this one, and so nothing that one of them hides.
      have none_before {names : List String} (earlier : Before names last) :
          ¬∃ before cause, obstacle before cause ∧ Before before names :=
        fun ⟨passed, other, blocks, less⟩ => before passed other blocks (less.trans earlier)
      refine cut order (isObstacle _ _ here) (fun names other blocks earlier => ?_) fun names => ?_
      · exact before names other
          ((obstacle_or names other blocks).resolve_right (none_before earlier)) earlier
      · rw [files]
        refine and_congr_left fun earlier => ⟨isFile names, fun member => ?_⟩
        exact (file_or names member).resolve_right (none_before earlier)

/-- Listings are the same if they are exact for the same files and obstacles as far as both come. -/
theorem eq_of_same {file' : List String → Prop} {obstacle' : List String → Cause → Prop}
    (h : Exact path file obstacle first) (h' : Exact path file' obstacle' second)
    (files : ∀ names, ComesTo obstacle names → ComesTo obstacle' names →
      (file names ↔ file' names))
    (obstacles : ∀ names cause, ComesTo obstacle names → ComesTo obstacle' names →
      (obstacle names cause ↔ obstacle' names cause))
    (same : ∀ names cause other, obstacle names cause → obstacle names other → cause = other) :
    first = second := by
  have comes_of_free {obstacle : List String → Cause → Prop} {names : List String}
      (free : ∀ names cause, ¬obstacle names cause) : ComesTo obstacle names :=
    fun before cause blocks => absurd blocks (free before cause)
  cases h with
  | whole order free found =>
      cases h' with
      | whole order' free' found' =>
          rw [order.eq_of_mem_iff order' fun names => ?_]
          rw [found, found', files names (comes_of_free free) (comes_of_free free')]
      | cut _ here' first' =>
          exact absurd ((obstacles _ _ (comes_of_free free) first').mpr here') (free _ _)
  | @cut _ last cause order here first found =>
      cases h' with
      | whole _ free' =>
          exact absurd ((obstacles _ _ first (comes_of_free free')).mp here) (free' _ _)
      | @cut _ last' cause' order' here' first' found' =>
          -- The earlier one of the two obstacles is one for both listings.
          have behind : ¬Before last last' := fun earlier =>
            first' last cause ((obstacles _ _ first (ComesTo.of_before first' earlier)).mp here)
              earlier
          have behind' : ¬Before last' last := fun earlier =>
            first last' cause' ((obstacles _ _ (ComesTo.of_before first earlier) first').mpr here')
              earlier
          obtain rfl := Before.eq_of_not behind behind'
          obtain rfl := same _ _ _ here ((obstacles _ _ first first').mpr here')
          rw [order.eq_of_mem_iff order' fun names => ?_]
          rw [found, found']
          exact and_congr_left fun earlier =>
            files names (ComesTo.of_before first earlier) (ComesTo.of_before first' earlier)

end Exact

end Listing

end MessageCatalog
