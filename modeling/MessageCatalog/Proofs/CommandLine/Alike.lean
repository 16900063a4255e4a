import MessageCatalog.CommandLine.Run
import MessageCatalog.Proofs.FileTree.Opening
import MessageCatalog.Proofs.Listing.NewFile
import MessageCatalog.Proofs.Pipeline.Simulation

/-! # Commands side by side

A command that extracts ends in the same way in two trees that its roots give the same in. When it
writes to a file, its roots are traversed in trees that change meanwhile: what is written leaves
them apart in a new file alone, so they give the same still.
-/

namespace MessageCatalog.CommandLine

open FileTree (Outlets)
open Walk (RootsAlike)

variable {c : ExtractCommand} {cwd path : String} {rules : Rules} {coloured : Bool}
  {t t' made made' : FileTree} {new out parent : Place} {name : String} {content : List UInt8}
  {before before' : String} {s s' : Surroundings}

/-! ## Extracting into a sink -/

/-- The same reports behind those from before. -/
def Reported (before before' : String) (s s' : Surroundings) : Prop :=
  ∃ reports, s.errors = before ++ reports ∧ s'.errors = before' ++ reports

theorem Reported.printError (reported : Reported before before' s s') (text : String) :
    Reported before before' (s.printError text) (s'.printError text) := by
  obtain ⟨reports, here, there⟩ := reported
  refine ⟨reports ++ text, ?_, ?_⟩
  · rw [Surroundings.printError, here, String.append_assoc]
  · rw [Surroundings.printError, there, String.append_assoc]

/-- Extractions into a sink end alike in related states, if the sink takes the same in them, the
roots give the same, and reports do not matter. -/
theorem alike_extractInto (coloured : Bool) (cwd : String) (rules : Rules) (c : ExtractCommand)
    {sink : Sink Surroundings} {R : Surroundings → Surroundings → Prop}
    (simulates : sink.Simulates sink R)
    (reports : ∀ {s s'}, R s s' → ∀ text, R (s.printError text) (s'.printError text))
    (same : ∀ s s', R s s' → ∀ path ∈ c.paths,
      Traversal.ofRoot rules s.files cwd path = Traversal.ofRoot rules s'.files cwd path)
    (related : R s s') : Alike R (extractInto sink coloured cwd rules c s)
      (extractInto sink coloured cwd rules c s') := by
  have alike : Alike (CatalogWriter.Related (Buffered.Related R))
      (Extraction.run (fun b path => Traversal.ofRoot rules b.inner.files cwd path)
        (.new (Buffered.sink sink) ⟨s, []⟩) c.paths)
      (Extraction.run (fun b path => Traversal.ofRoot rules b.inner.files cwd path)
        (.new (Buffered.sink sink) ⟨s', []⟩) c.paths) :=
    Extraction.alike_run (fun b b' related => same _ _ related.1)
      ⟨Buffered.simulates simulates, ⟨related, rfl⟩, rfl⟩
  have inner := alike.related.state.1
  dsimp only [extractInto]
  rw [← alike.result]
  split
  · exact .intro _ inner
  · split
    · refine .intro _ (reports ?_ _)
      split
      · exact reports inner _
      · exact inner
    · exact .intro _ inner

/-- States with the same output, one in each of two trees. -/
structure InTrees (t t' : FileTree) (before before' : String) (s s' : Surroundings) : Prop where
  files : s.files = t
  files' : s'.files = t'
  output : s.output = s'.output
  reported : Reported before before' s s'

theorem simulates_outputSink :
    Surroundings.outputSink.Simulates Surroundings.outputSink (InTrees t t' before before') where
  write := by
    rintro s s' ⟨files, files', output, reported⟩ bytes
    exact .intro _ ⟨files, files', congrArg (· ++ bytes) output, reported⟩
  flush related := .intro _ related

structure InTree (before before' : String) (s s' : Surroundings) : Prop where
  files : s.files = s'.files
  reported : Reported before before' s s'

theorem simulates_fileSink_inTree (out : Place) :
    (Surroundings.fileSink out).Simulates (Surroundings.fileSink out) (InTree before before') where
  write := by
    rintro s s' ⟨files, reported⟩ bytes
    exact .intro _ ⟨congrArg (·.append out bytes) files, reported⟩
  flush := by
    rintro s s' ⟨files, reported⟩
    dsimp only [Surroundings.fileSink]
    rw [files]
    split <;> exact .intro _ ⟨files, reported⟩

/-- States in trees that differ in a new file, with roots that are alike in them. -/
structure Writing (new : Place) (content : List UInt8) (out : Place) (cwd : String)
    (filter : NameFilter) (roots : List String) (before before' : String) (s s' : Surroundings) :
    Prop where
  outlets : Outlets new content out s.files s'.files
  alike : RootsAlike s.files s'.files cwd filter roots
  reported : Reported before before' s s'

theorem simulates_fileSink (out : Place) {filter : NameFilter} {roots : List String} :
    (Surroundings.fileSink out).Simulates (Surroundings.fileSink out)
      (Writing new content out cwd filter roots before before') where
  write := by
    rintro s s' ⟨outlets, alike, reported⟩ bytes
    refine .intro _ ⟨outlets.append bytes, ?_, reported⟩
    dsimp only [Surroundings.fileSink]
    have names := outlets.names.toWellNamed
    have names' := (outlets.append bytes).names.toWellNamed
    rcases outlets.append_cases bytes with ⟨same, same'⟩ | ⟨old, there, there', left, right⟩
    · rw [same, same']
      exact alike
    · exact alike.refill left right there there' names names'
  flush := by
    rintro s s' ⟨outlets, alike, reported⟩
    dsimp only [Surroundings.fileSink]
    rw [outlets.same]
    split <;> exact .intro _ ⟨outlets, alike, reported⟩

/-! ## Running the command -/

/-- What is reported on where settings come from. -/
def ExtractCommand.sourceReport (c : ExtractCommand) (coloured fromFile : Bool) : String :=
  if c.verbose then sourceLine coloured fromFile else ""

def ExtractCommand.begun (c : ExtractCommand) (coloured fromFile : Bool) (s : Surroundings) :
    Surroundings :=
  if c.verbose then s.printError (sourceLine coloured fromFile) else s

/-- Whether two runs have the same result, leave the same to be seen and report the same, but for
what was reported at first. -/
structure EndsAlike {α : Type} (view : Surroundings → α) (before before' : String)
    (x y : Except CommandFailure Unit × Surroundings) : Prop where
  result : x.1 = y.1
  view : view x.2 = view y.2
  reported : Reported before before' x.2 y.2

section Begun

variable (c coloured)

@[simp] theorem begun_files (fromFile : Bool) (s : Surroundings) :
    (c.begun coloured fromFile s).files = s.files := by
  rw [ExtractCommand.begun]
  split <;> rfl

@[simp] theorem begun_output (fromFile : Bool) (s : Surroundings) :
    (c.begun coloured fromFile s).output = s.output := by
  rw [ExtractCommand.begun]
  split <;> rfl

theorem begun_errors (fromFile : Bool) (s : Surroundings) :
    (c.begun coloured fromFile s).errors = s.errors ++ c.sourceReport coloured fromFile := by
  rw [ExtractCommand.begun, ExtractCommand.sourceReport]
  split
  · rfl
  · exact String.append_empty.symm

end Begun

theorem reported_begun (t t' : FileTree) (s : Surroundings) (fromFile fromFile' : Bool) :
    Reported (s.errors ++ c.sourceReport coloured fromFile)
      (s.errors ++ c.sourceReport coloured fromFile')
      (c.begun coloured fromFile { s with files := t })
      (c.begun coloured fromFile' { s with files := t' }) := by
  refine ⟨"", ?_, ?_⟩ <;> rw [begun_errors, String.append_empty]

section Runs

variable {settings : Settings} {fromFile fromFile' : Bool}
  (loads : Settings.load t cwd cwd = .ok ⟨settings, fromFile⟩)
  (loads' : Settings.load t' cwd cwd = .ok ⟨settings, fromFile'⟩)
  (s : Surroundings)

include loads

theorem extract_refused {e : SettingsFault} (refused : (c.override settings).rules cwd = .error e) :
    (extract coloured cwd c { s with files := t }).1 = .error (.extraction (.settings e)) := by
  simp only [extract, loads, refused]

variable (compiled : (c.override settings).rules cwd = .ok rules)
include compiled

theorem extract_direct (direct : c.output = none) :
    extract coloured cwd c { s with files := t } =
      extractInto Surroundings.outputSink coloured cwd rules c
        (c.begun coloured fromFile { s with files := t }) := by
  simp only [extract, loads, compiled, direct, ExtractCommand.begun]

variable (output : c.output = some path)
include output

theorem extract_unopened {e : OsError} (fails : t.createFile cwd path = .error e) :
    (extract coloured cwd c { s with files := t }).1 = .error (.output path e) := by
  have files := begun_files c coloured fromFile { s with files := t }
  rw [ExtractCommand.begun] at files
  simp only [extract, loads, compiled, output, files, fails]

theorem extract_opened (opens : t.createFile cwd path = .ok (made, out)) :
    extract coloured cwd c { s with files := t } =
      extractInto (Surroundings.fileSink out) coloured cwd rules c
        ((c.begun coloured fromFile { s with files := t }).opened made out) := by
  have files := begun_files c coloured fromFile { s with files := t }
  rw [ExtractCommand.begun] at files ⊢
  simp only [extract, loads, compiled, output, files, opens]

omit output
include loads'

theorem endsAlike_output (direct : c.output = none) (same : ∀ path ∈ c.paths,
      Traversal.ofRoot rules t cwd path = Traversal.ofRoot rules t' cwd path) :
    EndsAlike (·.output) (s.errors ++ c.sourceReport coloured fromFile)
      (s.errors ++ c.sourceReport coloured fromFile')
      (extract coloured cwd c { s with files := t })
      (extract coloured cwd c { s with files := t' }) := by
  rw [extract_direct loads s compiled direct, extract_direct loads' s compiled direct]
  have begun : InTrees t t' (s.errors ++ c.sourceReport coloured fromFile)
      (s.errors ++ c.sourceReport coloured fromFile')
      (c.begun coloured fromFile { s with files := t })
      (c.begun coloured fromFile' { s with files := t' }) :=
    ⟨by simp, by simp, by simp, reported_begun t t' s fromFile fromFile'⟩
  have alike := alike_extractInto coloured cwd rules c simulates_outputSink
    (fun {_ _} inTrees text =>
      ⟨inTrees.files, inTrees.files', inTrees.output, inTrees.reported.printError text⟩)
    (fun _ _ inTrees path among => by
      rw [inTrees.files, inTrees.files']
      exact same path among) begun
  exact ⟨alike.result, alike.related.output, alike.related.reported⟩

include output

theorem endsAlike_itself (opens : t.createFile cwd path = .ok (made, out))
    (opens' : t'.createFile cwd path = .ok (made, out)) :
    EndsAlike (·.files.at? out) (s.errors ++ c.sourceReport coloured fromFile)
      (s.errors ++ c.sourceReport coloured fromFile')
      (extract coloured cwd c { s with files := t })
      (extract coloured cwd c { s with files := t' }) := by
  rw [extract_opened loads s compiled output opens, extract_opened loads' s compiled output opens']
  have begun : InTree (s.errors ++ c.sourceReport coloured fromFile)
      (s.errors ++ c.sourceReport coloured fromFile')
      ((c.begun coloured fromFile { s with files := t }).opened made out)
      ((c.begun coloured fromFile' { s with files := t' }).opened made out) :=
    ⟨rfl, reported_begun t t' s fromFile fromFile'⟩
  have alike := alike_extractInto coloured cwd rules c (simulates_fileSink_inTree out)
    (fun {_ _} inTree text => ⟨inTree.files, inTree.reported.printError text⟩)
    (fun _ _ inTree path _ => by rw [inTree.files]) begun
  exact ⟨alike.result, congrArg (·.at? out) alike.related.files, alike.related.reported⟩

/-- Runs that write to a file end alike with a new file that is ignored elsewhere. -/
theorem endsAlike_file (ignored : rules.filter.Ignores name)
    (opens : t.createFile cwd path = .ok (made, out))
    (opens' : t'.createFile cwd path = .ok (made', out))
    (outlets : Outlets (parent ++ [name]) content out made made')
    (roots : RootsAlike made made' cwd rules.filter c.paths) :
    EndsAlike (·.files.at? out) (s.errors ++ c.sourceReport coloured fromFile)
      (s.errors ++ c.sourceReport coloured fromFile')
      (extract coloured cwd c { s with files := t })
      (extract coloured cwd c { s with files := t' }) := by
  rw [extract_opened loads s compiled output opens, extract_opened loads' s compiled output opens']
  have begun : Writing (parent ++ [name]) content out cwd rules.filter c.paths
      (s.errors ++ c.sourceReport coloured fromFile)
      (s.errors ++ c.sourceReport coloured fromFile')
      ((c.begun coloured fromFile { s with files := t }).opened made out)
      ((c.begun coloured fromFile' { s with files := t' }).opened made' out) :=
    ⟨outlets, roots, reported_begun t t' s fromFile fromFile'⟩
  have alike := alike_extractInto coloured cwd rules c (simulates_fileSink out)
    (fun {_ _} writing text =>
      ⟨writing.outlets, writing.alike, writing.reported.printError text⟩)
    (fun _ _ writing path among => (Traversal.ofRoot_new writing.outlets.filled
      writing.outlets.free writing.outlets.names writing.outlets.names'.toWellNamed ignored
      writing.alike path among).symm) begun
  exact ⟨alike.result, alike.related.outlets.same.symm, alike.related.reported⟩

end Runs

end MessageCatalog.CommandLine
