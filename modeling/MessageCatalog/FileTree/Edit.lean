import MessageCatalog.FileTree.Locate

/-! # Changing trees of files

Making, filling and removing what paths name.
-/

namespace MessageCatalog.FileTree

/-- Change the tree and keep it apart from what else is known. -/
abbrev Edit := Except OsError FileTree

def addEntry (t : FileTree) (parent : Place) (name : String) (node : FileTree) : FileTree :=
  t.put (parent ++ [name]) node

/-- Open a file for writing from its start on: one that exists loses its bytes. Links are followed,
so a link that leads nowhere gets the file it names. -/
def createFile (t : FileTree) (cwd path : String) : Except OsError (FileTree × Place) :=
  match t.locate .write cwd path with
  | .error e => .error e
  | .ok (.vacant parent name) => .ok (t.addEntry parent name (.file []), parent ++ [name])
  | .ok (.found place (.file _)) => .ok (t.put place (.file []), place)
  | .ok (.found _ (.directory _)) => .error .isADirectory
  | .ok (.found place _) => .ok (t, place)

/-- Add bytes to the file at a place. What is no file takes them without a change. -/
def append (t : FileTree) (place : Place) (bytes : List UInt8) : FileTree :=
  match t.at? place with
  | some (.file content) => t.put place (.file (content ++ bytes))
  | _ => t

/-- Make a file with these bytes, or give them to one that exists. -/
def fillFile (t : FileTree) (cwd path : String) (bytes : List UInt8) : Edit :=
  match t.createFile cwd path with
  | .error e => .error e
  | .ok (t, place) => .ok (t.append place bytes)

/-- Put a new entry where a path leads nowhere yet. -/
def addNew (t : FileTree) (cwd path : String) (node : FileTree) : Option FileTree :=
  match t.locate .entry cwd path with
  | .ok (.vacant parent name) => some (t.addEntry parent name node)
  | _ => none

/-- Make a link where a path leads nowhere yet. Its target need not lead anywhere, but has to be a
path. -/
def addLink (t : FileTree) (cwd path target : String) : Option FileTree :=
  match pathFault? target with
  | some _ => none
  | none => t.addNew cwd path (.link target)

/-- Make the directory that a path names, unless it exists. -/
def makeDirectory (t : FileTree) (cwd path : String) : Option FileTree :=
  match t.stat cwd path with
  | .ok (_, .directory _) => some t
  | _ => t.addNew cwd path empty

/-- Make the directory that a path names, and all directories on the way. Tells whether all are
there then. If one cannot be made, those on the way to it stay. -/
def makeDirectories (t : FileTree) (cwd path : String) : FileTree × Bool :=
  if !path.isEmpty && (pathFault? path).isSome then (t, false)
  else
    let steps := (Path.segments path.toList).filter (· ≠ [])
    let start := if isAbsolute path then ['/'] else []
    let paths := (steps.foldl (fun (before, made) step =>
      let next := Path.joinChars before step
      (next, String.ofList next :: made)) (start, [])).2.reverse
    paths.foldl
      (fun (t, all) path =>
        match if all then t.makeDirectory cwd path else none with
        | some t => (t, true)
        | none => (t, false))
      (t, true)

/-- Remove what a path names, with everything in it. A link at the end is removed itself. -/
def remove (t : FileTree) (cwd path : String) : Option FileTree :=
  match t.linkStat cwd path with
  | .ok (place, _) => some (t.erase place)
  | .error _ => none

end MessageCatalog.FileTree
