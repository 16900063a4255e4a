import MessageCatalog.Listing
import MessageCatalog.Source

/-! # Traversals

All groups of a root: of one file, or of all files that are listed below a directory, in the order
of the listing.
-/

namespace MessageCatalog

/-- The groups of a root up to its failure, if it has one, and else the number of its files. -/
structure Traversal where
  groups : List MessageGroup
  /-- How many groups are handed over in one go each, as far as there is room for them. Groups that a
  failure overtakes are in none of them. -/
  bursts : List Nat
  result : Except Failure Nat
  deriving Repr

namespace Traversal

/-- The groups of a file up to its failure, if it has one. -/
def file (rules : Rules) (t : FileTree) (cwd path : String) :
    List MessageGroup × Option Failure :=
  match t.bytesOf cwd path with
  | .error e => ([], some (.read path (.os e)))
  | .ok content => (Source.ofBytes rules path content).drain

/-- Groups of one file of a directory that wait at most until they are heard. -/
def fileBuffer : Nat := 16

/-- The groups of files up to the first failure, if there is one. -/
def files (rules : Rules) (t : FileTree) (cwd : String) :
    List String → List MessageGroup × Option Failure
  | [] => ([], none)
  | path :: paths =>
    match file rules t cwd path with
    | (groups, some e) => (groups, some e)
    | (groups, none) =>
      let (more, failure) := files rules t cwd paths
      (groups ++ more, failure)

/-- How many groups of files are heard before the first failure is. It overtakes the groups of its
own file if all of them can wait to be heard. -/
def heard (rules : Rules) (t : FileTree) (cwd : String) : List String → Nat
  | [] => 0
  | path :: paths =>
    match file rules t cwd path with
    | (groups, some _) => if groups.length ≤ fileBuffer then 0 else groups.length
    | (groups, none) => groups.length + heard rules t cwd paths

/-- Traverse a directory. A failed listing is reported before a failed file, and before groups are
heard. -/
def directory (rules : Rules) (t : FileTree) (cwd root : String) : Traversal :=
  let listing := Listing.ofRoot rules.filter t cwd root
  let (groups, failure) := files rules t cwd listing.files
  match listing.failure, failure with
  | some e, _ => ⟨groups, [], .error e⟩
  | none, some e => ⟨groups, [heard rules t cwd listing.files], .error e⟩
  | none, none => ⟨groups, [groups.length], .ok listing.files.length⟩

/-- Traverse a root. What is neither file nor directory holds nothing. -/
def ofRoot (rules : Rules) (t : FileTree) (cwd root : String) : Traversal :=
  match t.stat cwd root with
  | .error e => ⟨[], [], .error (.stat root (.os e))⟩
  | .ok (_, .file content) =>
    match file rules t cwd root with
    | (groups, some e) => ⟨groups, Source.bursts content groups, .error e⟩
    | (groups, none) => ⟨groups, Source.bursts content groups, .ok 1⟩
  | .ok (_, .directory _) => directory rules t cwd root
  | .ok (_, _) => ⟨[], [], .ok 0⟩

/-- The number of groups that are handed over before a consumer gets its turn, if there is room for
so many. -/
def longestTurn : Nat := 255

/-- How many groups of a burst are handed over while a consumer takes `count` of them. It gets its
turn when there is no room for more of them, or when the burst is over, and takes all it can get. -/
def handedOfBurst (room count burst : Nat) : Nat :=
  let turn := min room longestTurn
  min burst ((count + turn - 1) / turn * turn)

/-- How many groups are handed over while a consumer takes `count` groups. -/
def handed (room : Nat) : Nat → List Nat → Nat
  | _, [] => 0
  | count, burst :: bursts =>
    if count ≤ burst then handedOfBurst room count burst
    else burst + handed room (count - burst) bursts

/-- The failure of a traversal whose consumer goes away after `count` groups. There is none if
groups are left to hand over then: the traversal finds the consumer gone, and ends. -/
def failureAfter? (t : Traversal) (room count : Nat) : Option Failure :=
  match t.result with
  | .ok _ => none
  | .error e => if handed room count t.bursts < t.bursts.foldl (· + ·) 0 then none else some e

/-- What a consumer gets that goes away after `count` groups. -/
def take (t : Traversal) (room count : Nat) : Except Failure (List MessageGroup) :=
  match t.failureAfter? room count with
  | some e => .error e
  | none => .ok (t.groups.take count)

end Traversal

end MessageCatalog
