import MessageCatalog.Proofs.Listing.Below

/-! # Listings put together from those of entries

A walk sees the entries of a directory in the order of their names, and its listing is put together
from what each of them adds. So two listings are related if what the entries add is.
-/

namespace MessageCatalog

namespace Walk.Spot

variable {t : FileTree} {cwd : String}

/-- What a walk sees at a spot, by what stands there. -/
theorem sight_eq (t : FileTree) (cwd : String) (s : Spot) :
    s.sight t cwd =
      match s.node with
      | .file _ => .file
      | .special => .special
      | .full => .special
      | .directory entries =>
        match FileTree.pathFault? s.path with
        | some e => .unopened e
        | none => .directory (s.sights t cwd s.place entries)
      | .link _ =>
        match t.stat cwd s.path with
        | .error e => .unresolved e
        | .ok (place, .directory entries) =>
          match s.inside.find? (·.place = place) with
          | some a => .loop a.path
          | none => .directory (s.sights t cwd place entries)
        | .ok (_, .file _) => .file
        | .ok (_, _) => .special := by
  obtain ⟨path, place, node, inside⟩ := s
  cases node with
  | file content => rw [sight, Walk.sight]
  | special => rw [sight, Walk.sight]
  | full => rw [sight, Walk.sight]
  | directory entries =>
      rw [sight, Walk.sight]
      dsimp only
      cases FileTree.pathFault? path with
      | none => rw [← sights_attach]
      | some e => rfl
  | link target =>
      rw [sight, Walk.sight]
      dsimp only
      split
      · rename_i fails
        rw [fails]
      · rename_i place entries leads
        rw [leads]
        dsimp only
        split
        · rename_i found
          rw [found]
        · rename_i found
          rw [found, ← sights_attach]
      · rename_i leads
        rw [leads]
      · rename_i place node noDirectory noFile leads
        rw [leads]
        cases node with
        | directory entries => exact absurd rfl (noDirectory entries)
        | file content => exact absurd rfl (noFile content)
        | _ => rfl

/-- The entries of a directory in the order of their names. -/
def inOrder (entries : List (String × FileTree)) : List (String × FileTree) :=
  entries.mergeSort fun a b => Sight.nameLe a.1 b.1

theorem mem_inOrder {entries : List (String × FileTree)} {e : String × FileTree} :
    e ∈ inOrder entries ↔ e ∈ entries := List.mem_mergeSort

theorem sights_eq (s : Spot) (place : Place) (entries : List (String × FileTree)) :
    s.sights t cwd place entries =
      (inOrder entries).map fun e => (e.1, (s.entry place e).sight t cwd) := by
  rw [sights, Sight.sortEntries, inOrder]
  refine (List.map_mergeSort ?_).symm
  exact fun _ _ _ _ => rfl

end Walk.Spot

namespace Listing

variable {filter : NameFilter} {path path' : String}

/-- What an entry adds to a listing. -/
def ofEntry (filter : NameFilter) (name here : String) : Sight → Listing
  | .file => if filter.acceptsFile name then file here else empty
  | .special => empty
  | .directory children => if filter.acceptsDir name then ofEntries filter here children else empty
  | .unopened e => if filter.acceptsDir name then failed here (.entry here e) else empty
  | .unresolved e => failed here (.entry here e)
  | .loop ancestor => failed here (.loop here ancestor)

theorem ofEntries_cons (entry : String × Sight) (entries : List (String × Sight)) :
    ofEntries filter path (entry :: entries) =
      (ofEntry filter entry.1 (Path.join path entry.1) entry.2).append
        (ofEntries filter path entries) := by
  obtain ⟨name, sight⟩ := entry
  cases sight <;> rw [ofEntries, ofEntry]

/-- Listings are related if what each of their entries adds is. -/
theorem related_ofEntries {Related : Listing → Listing → Prop} (none : Related empty empty)
    (append : ∀ {first first' later later'}, Related first first' → Related later later' →
      Related (first.append later) (first'.append later'))
    {entries : List (String × FileTree)} {sight sight' : String × FileTree → Sight}
    (each : ∀ e ∈ entries, Related (ofEntry filter e.1 (Path.join path e.1) (sight e))
      (ofEntry filter e.1 (Path.join path' e.1) (sight' e))) :
    Related (ofEntries filter path (entries.map fun e => (e.1, sight e)))
      (ofEntries filter path' (entries.map fun e => (e.1, sight' e))) := by
  induction entries with
  | nil => simpa only [List.map_nil, ofEntries] using none
  | cons e entries ih =>
      obtain ⟨first, later⟩ := List.forall_mem_cons.mp each
      rw [List.map_cons, List.map_cons, ofEntries_cons, ofEntries_cons]
      exact append first (ih later)

end Listing

end MessageCatalog
