import MessageCatalog.FileTree
import MessageCatalog.Failure
import MessageCatalog.Path

/-! # Finding places

Follows paths through a tree of files. Links on the way are followed, a link at the end only on
demand; `..` leads to the directory that holds the one just reached, wherever links came in. A slash
at the end of a path, or of a link's target, insists on a directory.
-/

namespace MessageCatalog.FileTree

/-- What a path names. -/
inductive Target where
  /-- Something stands there. -/
  | found (place : Place) (node : FileTree)
  /-- Only the last name is missing, in the directory at a place. -/
  | vacant (parent : Place) (name : String)
  deriving Repr

/-- What a path is followed for. -/
inductive Purpose where
  /-- What it leads to in the end. -/
  | reach
  /-- The entry it names: a link at the end is not followed. -/
  | entry
  /-- A file to write to, which may have to be made. A name that insists on a directory is refused
  before it is looked up. -/
  | write
  deriving Repr, DecidableEq

/-- The step without a name that a slash at the end of a path makes. It stays, and so insists on a
directory. -/
def slashStep : String := ""

/-- The steps of a path. Doubled slashes make no step. -/
def pathSteps (path : String) : List String :=
  let chars := path.toList
  let steps := ((Path.segments chars).filter (· ≠ [])).map String.ofList
  if chars.getLast? = some '/' ∧ steps ≠ [] then steps ++ [slashStep] else steps

def isAbsolute (path : String) : Bool := Path.isAbsolute path.toList

/-- The number of bytes that a name has at most. -/
def maxNameLength : Nat := 255

/-- The number of bytes that a path has at most. -/
def maxPathLength : Nat := 4095

/-- Why a text is no path, whatever files there are. -/
def pathFault? (path : String) : Option OsError :=
  if path.isEmpty then some .notFound
  else if path.contains '\x00' then some .nulInName
  else if path.utf8ByteSize > maxPathLength then some .nameTooLong
  else none

/-- The number of links that are followed for one path. -/
def maxLinks : Nat := 40

/-- Take steps from a place, with `links` links to follow at most. -/
def follow (t : FileTree) (purpose : Purpose) (links : Nat) (place : Place) (steps : List String) :
    Except OsError Target :=
  match t.at? place, steps with
  | none, _ => .error .notFound
  | some node, [] => .ok (.found place node)
  | some (.directory entries), step :: rest =>
    if step = "." || step = slashStep then t.follow purpose links place rest
    else if step = ".." then t.follow purpose links place.dropLast rest
    else if purpose = .write && rest = [slashStep] then .error .isADirectory
    else if (Utf8.bytes step).length > maxNameLength then .error .nameTooLong
    else
      match entries.lookup step with
      | none => if rest.isEmpty then .ok (.vacant place step) else .error .notFound
      | some (.link target) =>
        if rest.isEmpty && purpose = .entry then .ok (.found (place ++ [step]) (.link target))
        else
          match links with
          | 0 => .error .tooManyLinks
          | links + 1 =>
            if target.isEmpty then .error .notFound
            else
              let start := if isAbsolute target then [] else place
              t.follow purpose links start (pathSteps target ++ rest)
      | some _ => t.follow purpose links (place ++ [step]) rest
  | some _, _ :: _ => .error .notADirectory
termination_by (links, steps.length)

/-- What a path names, as seen from the directory `cwd`. -/
def locate (t : FileTree) (purpose : Purpose) (cwd path : String) : Except OsError Target :=
  match pathFault? path with
  | some e => .error e
  | none => t.follow purpose maxLinks [] (pathSteps (Path.join cwd path))

/-- What stands where a path leads to, and its place. -/
def look (t : FileTree) (purpose : Purpose) (cwd path : String) :
    Except OsError (Place × FileTree) :=
  match t.locate purpose cwd path with
  | .error e => .error e
  | .ok (.vacant _ _) => .error .notFound
  | .ok (.found place node) => .ok (place, node)

/-- What a path leads to in the end, and its place. -/
def stat (t : FileTree) (cwd path : String) : Except OsError (Place × FileTree) :=
  t.look .reach cwd path

/-- What a path leads to, and its place. A link at the end is not followed. -/
def linkStat (t : FileTree) (cwd path : String) : Except OsError (Place × FileTree) :=
  t.look .entry cwd path

/-- Whether a path leads to something in the end. -/
def pathExists (t : FileTree) (cwd path : String) : Bool := (t.stat cwd path).isOk

def placePath (place : Place) : String := "/" ++ "/".intercalate place

/-- The bytes that a path leads to. -/
def bytesOf (t : FileTree) (cwd path : String) : Except OsError (List UInt8) :=
  match t.stat cwd path with
  | .error e => .error e
  | .ok (_, .file content) => .ok content
  | .ok (_, .directory _) => .error .isADirectory
  | .ok (_, _) => .ok []

theorem at?_of_follow {t : FileTree} {purpose : Purpose} {links : Nat} {start place : Place}
    {steps : List String} {node : FileTree}
    (h : t.follow purpose links start steps = .ok (.found place node)) :
    t.at? place = some node := by
  fun_induction follow t purpose links start steps with
  | case2 start links node' hat =>
    cases h
    exact hat
  | case9 start links step rest entries hat _ _ _ _ target hlookup _ =>
    cases h
    rw [at?_append_name, hat]
    exact hlookup
  | _ => first | cases h | simp_all

theorem at?_of_look {t : FileTree} {purpose : Purpose} {cwd path : String} {place : Place}
    {node : FileTree} (h : t.look purpose cwd path = .ok (place, node)) :
    t.at? place = some node := by
  simp only [look, locate] at h
  split at h
  · cases h
  · cases h
  · rename_i hl
    cases h
    split at hl
    · cases hl
    · exact at?_of_follow hl

end MessageCatalog.FileTree
