import MessageCatalog.NameFilter
import MessageCatalog.Walk

/-! # Listings

The files below a root that a filter accepts, in the order of a walk. The first entry that blocks
the walk ends the listing, whatever its name.
-/

namespace MessageCatalog

/-- Files in the order in which a walk comes to them, and the failure that ended it, if one did. -/
structure Listing where
  files : List String
  failure : Option Failure
  deriving Repr, DecidableEq

namespace Listing

def empty : Listing := ⟨[], none⟩

def file (path : String) : Listing := ⟨[path], none⟩

def failed (path : String) (cause : Cause) : Listing := ⟨[], some (.listing path cause)⟩

/-- One listing after another, unless the first one failed. -/
def append (first second : Listing) : Listing :=
  match first.failure with
  | some e => ⟨first.files, some e⟩
  | none => ⟨first.files ++ second.files, second.failure⟩

/-- The listing of the entries of a directory that was reached by `path`. -/
def ofEntries (filter : NameFilter) (path : String) : List (String × Sight) → Listing
  | [] => empty
  | (name, sight) :: entries =>
    let here := Path.join path name
    let found :=
      match sight with
      | .file => if filter.acceptsFile name then file here else empty
      | .special => empty
      | .directory children => if filter.acceptsDir name then ofEntries filter here children else empty
      | .unopened e => if filter.acceptsDir name then failed here (.entry here e) else empty
      | .unresolved e => failed here (.entry here e)
      | .loop ancestor => failed here (.loop here ancestor)
    found.append (ofEntries filter path entries)

/-- The listing of what a walk finds at its root, whose name plays no part. -/
def ofSight (filter : NameFilter) (root : String) : Sight → Listing
  | .file => file root
  | .special => empty
  | .directory entries => ofEntries filter root entries
  | .unopened e => failed root (.entry root e)
  | .unresolved e => failed root (.entry root e)
  | .loop ancestor => failed root (.loop root ancestor)

def ofRoot (filter : NameFilter) (t : FileTree) (cwd root : String) : Listing :=
  match Walk.ofRoot t cwd root with
  | .error e => failed root (.entry root e)
  | .ok sight => ofSight filter root sight

end Listing

end MessageCatalog
