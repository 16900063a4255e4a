import MessageCatalog.CommandLine.Run

/-! # The program

Loads the files that a command can come to, runs it on them, and writes what it wrote.
-/

namespace MessageCatalog.Main

/-- The names of a path from the root. -/
def placeOf (path : String) : Place := (FileTree.pathSteps path).filter fun step => step ≠ "." ∧ step ≠ FileTree.slashStep

/-- The place that a path leads to through links, if it leads anywhere. -/
def realPath? (path : String) : IO (Option String) := do
  try return some (← IO.FS.realPath path).toString catch _ => return none

/-- What kind of thing a name in a directory stands for. Links are not followed. -/
def kind? (directory name : String) : IO (Option IO.FS.FileType) := do
  try
    let parent ← IO.FS.realPath directory
    return some (← (parent / name).symlinkMetadata).type
  catch _ => return none

def isDirectory (path : String) : IO Bool := do
  try (← IO.FS.realPath path).isDir catch _ => return false

/-- Whether a name in a directory leads nowhere because nothing is there, and not because of too
many links. -/
def isMissing (directory name : String) : IO Bool := do
  try
    let parent ← IO.FS.realPath directory
    let _ ← (parent / name).metadata
    return false
  catch
    | .noFileOrDirectory .. => return true
    | _ => return false

/-- A link to the place that a link in a directory leads to. One that leads nowhere has no target,
or itself as its target if it has too many links behind it. -/
def loadLink (directory name : String) : IO (FileTree × List String) := do
  match ← realPath? (Path.join directory name) with
  | some target => return (.link target, [target])
  | none => return (.link (if ← isMissing directory name then "" else name), [])

/-- Load a directory, without what a filter does not accept, and give the targets of the links in
it. -/
partial def loadDirectory (filter : NameFilter) (path : String) :
    IO (FileTree × List String) := do
  let mut entries := []
  let mut targets := []
  for entry in ← (← IO.FS.realPath path).readDir do
    let name := entry.fileName
    let child := Path.join path name
    let (node, more) ← match ← kind? path name with
      | some .dir =>
        if filter.acceptsDir name then loadDirectory filter child else pure (.empty, [])
      | some .file =>
        if filter.acceptsFile name then pure (.file (← IO.FS.readBinFile child).toList, [])
        else pure (.file [], [])
      | some .symlink => loadLink path name
      | _ => pure (.special, [])
    entries := (name, node) :: entries
    targets := more ++ targets
  return (.directory entries, targets)

/-- Load what a path leads to. -/
def loadNode (filter : NameFilter) (path : String) : IO (FileTree × List String) := do
  if ← isDirectory path then loadDirectory filter path
  else
    match ← kind? ((Path.parent? path).getD "/") (String.ofList (Path.lastSegment path.toList)) with
    | some .file => return (.file (← IO.FS.readBinFile path).toList, [])
    | _ => return (.special, [])

/-- Load what stands at some paths, which go through no links, and at the targets of all links. -/
partial def loadAll (filter : NameFilter) (start : FileTree) (paths : List String) :
    IO FileTree := do
  let mut files := start
  let mut targets := []
  for path in paths.mergeSort (fun a b => a.length ≤ b.length) do
    let (node, more) ← loadNode filter path
    files := files.put (placeOf path) node
    targets := targets ++ more
  let new := (targets.filter (! paths.contains ·)).eraseDups
  if new.isEmpty then return files else loadAll filter start (paths ++ new)

/-- The links and files on the way of a path, and the paths of what it leads to. -/
def loadWay (files : FileTree) (cwd path : String) : IO (FileTree × List String) := do
  let mut files := files
  let mut paths := []
  let mut before := "/"
  for step in (FileTree.pathSteps (Path.join cwd path)).filter (· ≠ FileTree.slashStep) do
    let next := Path.join before step
    match ← realPath? before, ← kind? before step with
    | some parent, some .symlink =>
      let (node, targets) ← loadLink before step
      files := files.put (placeOf (Path.join parent step)) node
      paths := targets ++ paths
    | some parent, some .file => paths := Path.join parent step :: paths
    | _, _ => pure ()
    before := next
  return (files, (← realPath? before).toList ++ paths)

/-- Add the files that tell which settings hold in a directory. -/
def loadSettings (start : FileTree) (cwd : String) : IO FileTree := do
  let mut files := start
  if (start.at? (placeOf cwd)).isNone then files := files.put (placeOf cwd) .empty
  let mut directory := some cwd
  for _ in placeOf (Path.join cwd "here") do
    if let some here := directory then
      for name in [Settings.fileName, Settings.repositoryMark] do
        let path := Path.join here name
        if (← realPath? path).isSome then
          let node : FileTree ←
            if ← isDirectory path then pure .empty
            else pure (.file (← IO.FS.readBinFile path).toList)
          files := files.put (placeOf path) node
      directory := Path.parent? here
  return files

/-- Load the files that a command can come to. -/
def loadFor (cwd : String) : CommandLine.Command → IO FileTree
  | .init => loadSettings .empty cwd
  | .extract c => do
    let files ← loadSettings .empty cwd
    match Settings.load files cwd cwd with
    | .error _ => return files
    | .ok loaded =>
      match (c.override loaded.settings).rules cwd with
      | .error _ => return files
      | .ok rules =>
        let mut files := files
        let mut paths := []
        for path in c.paths do
          let (more, found) ← loadWay files cwd path
          files := more
          paths := found ++ paths
        if let some output := c.output then
          let (more, found) ← loadWay files cwd output
          files := more
          for path in found do
            if ← isDirectory path then files := files.put (placeOf path) .empty
            else paths := path :: paths
          if let some parent := Path.parent? (Path.join cwd output) then
            if let some real ← realPath? parent then
              if (files.at? (placeOf real)).isNone then files := files.put (placeOf real) .empty
        loadSettings (← loadAll rules.filter files paths.eraseDups) cwd

def writeBytes (stream : IO.FS.Stream) (bytes : List UInt8) : IO Unit := do
  stream.write ⟨bytes.toArray⟩
  stream.flush

/-- Do what a command did: write its files and its streams. -/
def perform (s : CommandLine.Surroundings) : IO Unit := do
  for place in s.written do
    if let some (.file content) := s.files.at? place then
      IO.FS.writeBinFile (FileTree.placePath place) ⟨content.toArray⟩
  writeBytes (← IO.getStdout) s.output
  writeBytes (← IO.getStderr) (Utf8.bytes s.errors)

/-- How the environment and the output stream want things to be shown. -/
def presentation : IO CommandLine.Presentation := do
  let terminal ← (← IO.getStdout).isTty
  return .ofVariables (← IO.getEnv "CLICOLOR_FORCE") (← IO.getEnv "NO_COLOR")
    (← IO.getEnv "CLICOLOR") terminal

/-- Run a command and give the exit code. -/
def run (command : Option CommandLine.Command) : IO UInt32 := do
  let cwd := (← IO.FS.realPath (← IO.currentDir)).toString
  let files ← match command with
    | some command => loadFor cwd command
    | none => pure .empty
  match CommandLine.run (← presentation) cwd command (.ofFiles files) with
  | (.ok status, s) =>
    perform s
    return status.code.toUInt32
  | (.error e, s) =>
    perform (s.printError (CommandLine.failedLine e))
    return CommandLine.failedCode.toUInt32

end MessageCatalog.Main

open MessageCatalog in
def main (args : List String) : IO UInt32 := do
  match CommandLine.parse (← IO.getEnv CommandLine.functionVariable) args with
  | .error refusal =>
    (← IO.getStderr).putStr ("error: " ++ refusal.report ++ "\n")
    return CommandLine.failedCode.toUInt32
  | .ok (.help text) =>
    (← IO.getStdout).putStr (CommandLine.streamed (← Main.presentation).styledHelp text)
    return 0
  | .ok .version =>
    (← IO.getStdout).putStr CommandLine.versionText
    return 0
  | .ok (.run command) => Main.run command
