import MessageCatalog.Proofs.FileTree
import MessageCatalog.Proofs.Pipeline.Completion
import MessageCatalog.Proofs.Pipeline.Sequential
import MessageCatalog.Proofs.Pipeline.Writing
import MessageCatalog.Proofs.Source.Lines

/-! # What an extraction gives

If the sink takes everything, the outcome of an extraction does not depend on the schedule: it is
the text of all roots with its counts, or a failure of the first root that fails. Extracting root
after root has such an outcome, too, and the outcome for roots in a row follows from those for its
parts.
-/

namespace MessageCatalog

def Summary.add (first second : Summary) : Summary :=
  ⟨first.roots + second.roots, first.files + second.files, first.entries + second.entries⟩

namespace Pipeline

open Schedule (Limits)

/-- What an extraction should give: the text of all roots and its counts, or a failure of the first
root that fails. -/
inductive Due (works : List RootWork) : Except Failure (String × Summary) → Prop where
  | ok (read : ∀ root ∈ works, root.failures = []) :
    Due works (.ok (RootWork.texts works, RootWork.summary works))
  | error {done root later e} (order : works = done ++ root :: later)
    (read : ∀ root ∈ done, root.failures = []) (failed : e ∈ root.failures) : Due works (.error e)

/-- What some schedule of an extraction gives if the sink takes everything. -/
def Gives (l : Limits) (works : List RootWork) (outcome : Except Failure (String × Summary)) :
    Prop :=
  ∃ s, Reachable l False (.initial works) s ∧ s.outcome? = some outcome

/-- Every schedule comes to an end, and only by returning. -/
structure Ends (l : Limits) (works : List RootWork) : Prop where
  bounded : ∃ bound, ∀ events s,
    (State.initial works).steps? l events = some s → events.length ≤ bound
  returns : ∀ mayRefuse s, Reachable l mayRefuse (.initial works) s → s.result = none → s.GoesOn l

theorem RootWork.summary_append (works others : List RootWork) :
    summary (works ++ others) = (summary works).add (summary others) := by
  simp only [summary, Summary.add, List.length_append, List.map_append, List.sum_append]

namespace Due

variable {works others : List RootWork} {outcome : Except Failure (String × Summary)}

theorem ok_iff {text : String} {summary : Summary} : Due works (.ok (text, summary)) ↔
    (∀ root ∈ works, root.failures = []) ∧ text = RootWork.texts works ∧
      summary = RootWork.summary works := by
  constructor
  · intro due
    cases due with
    | ok read => exact ⟨read, rfl, rfl⟩
  · rintro ⟨read, rfl, rfl⟩
    exact .ok read

theorem not_ok {e : Failure} (due : Due works (.error e)) :
    ¬∀ root ∈ works, root.failures = [] := by
  cases due with
  | error order read failed =>
      intro all
      rw [all _ (by simp [order])] at failed
      cases failed

theorem eq_ok (due : Due works outcome) (read : ∀ root ∈ works, root.failures = []) :
    outcome = .ok (RootWork.texts works, RootWork.summary works) := by
  cases due with
  | ok => rfl
  | error order before failed => exact absurd read (not_ok (.error order before failed))

/-- Roots in a row fail with a failure of the first part, unless only the second part fails. -/
theorem error_append {e : Failure} (due : Due (works ++ others) (.error e)) :
    Due works (.error e) ∨ (∀ root ∈ works, root.failures = []) ∧ Due others (.error e) := by
  cases due with
  | @error done root later _ order read failed =>
      rcases List.append_eq_append_iff.mp order with ⟨between, rfl, rest⟩ | ⟨between, rfl, rest⟩
      · have first := (List.forall_mem_append.mp read).1
        exact .inr ⟨first, .error rest (List.forall_mem_append.mp read).2 failed⟩
      · cases between with
        | nil =>
            rw [List.append_nil]
            have first : others = [] ++ root :: later := rest.symm
            exact .inr ⟨read, .error first nofun failed⟩
        | cons other between =>
            cases rest
            exact .inl (.error rfl read failed)

end Due

variable {l : Limits} {works others : List RootWork}
  {outcome : Except Failure (String × Summary)}

theorem Wrote.due {later : List RootWork} {taken flushed : List UInt8}
    {result : Except Failure Summary} (wrote : Wrote works False later taken flushed result) :
    Due works (result.map fun summary => (Utf8.text taken, summary)) := by
  cases wrote with
  | ok read => exact Due.ok_iff.mpr ⟨read, Utf8.text_bytes _, rfl⟩
  | error order read kept begun cause =>
      exact .error order read (cause.resolve_right fun refused => refused.1)

theorem Gives.due (limits : l.Positive) (gives : Gives l works outcome) : Due works outcome := by
  obtain ⟨s, reached, returned⟩ := gives
  obtain ⟨result, there, rfl⟩ := Option.map_eq_some_iff.mp returned
  exact ((reached.invariant limits).wrote there).due

theorem exists_gives (limits : l.Positive) (works : List RootWork) :
    ∃ outcome, Gives l works outcome := by
  obtain ⟨s, reached, returned⟩ :=
    Reachable.exists_returned limits (.refl : Reachable l False (.initial works) _)
  obtain ⟨result, there⟩ := Option.ne_none_iff_exists'.mp returned
  exact ⟨_, s, reached, by rw [State.outcome?, there]; rfl⟩

theorem gives_iff (limits : l.Positive) (read : ∀ root ∈ works, root.failures = []) :
    Gives l works outcome ↔
      outcome = .ok (RootWork.texts works, RootWork.summary works) := by
  refine ⟨fun gives => (gives.due limits).eq_ok read, ?_⟩
  rintro rfl
  obtain ⟨other, gives⟩ := exists_gives limits works
  rwa [(gives.due limits).eq_ok read] at gives

theorem exists_gives_error (limits : l.Positive) :
    (∃ e, Gives l works (.error e)) ↔ ¬∀ root ∈ works, root.failures = [] := by
  refine ⟨fun ⟨e, gives⟩ => (gives.due limits).not_ok, fun failed => ?_⟩
  obtain ⟨outcome, gives⟩ := exists_gives limits works
  cases outcome with
  | error e => exact ⟨e, gives⟩
  | ok found => exact absurd (Due.ok_iff.mp (gives.due limits)).1 failed

/-- Extracting root after root gives what it should. -/
theorem due_toText (rules : Rules) (t : FileTree) (cwd : String) (paths : List String) :
    Due (paths.map (RootWork.ofRoot rules t cwd)) (Extraction.toText rules t cwd paths) := by
  cases run : Extraction.intoStore none rules t cwd paths with
  | mk result w =>
      obtain ⟨begun, later, _, wrote, _⟩ :=
        run_wrote (Store.keeps none) (Store.fresh_empty none)
          (fun path _ _ => RootWork.gives_ofRoot rules t cwd path) run
      have text : Extraction.toText rules t cwd paths =
          result.map fun summary => (Utf8.text w.state.bytes, summary) := by
        rw [Extraction.toText, run]
        cases result <;> rfl
      have none : (none : Option Nat) ≠ none ↔ False := by simp
      rw [none] at wrote
      rw [text]
      exact wrote.due

theorem groups_ofRoot_of_read {rules : Rules} {t : FileTree} {cwd path : String}
    (read : (fileWork rules t cwd path).failure = none) :
    (fileWork rules t cwd path).groups = (RootWork.ofRoot rules t cwd path).groups := by
  have nothing : (Source.ofBytes rules path []).drain = ([], none) := by
    rw [Source.drain, Source.next]
    rfl
  cases at_ : t.stat cwd path with
  | error e =>
      simp only [fileWork, Traversal.file, FileTree.bytesOf, at_] at read
      cases read
  | ok found =>
      obtain ⟨place, node⟩ := found
      cases node with
      | file content => simp only [RootWork.ofRoot, at_, RootWork.groups]
      | directory entries =>
          simp only [fileWork, Traversal.file, FileTree.bytesOf, at_] at read
          cases read
      | link target =>
          simp only [fileWork, Traversal.file, FileTree.bytesOf, at_, nothing, RootWork.ofRoot,
            RootWork.groups]
      | special =>
          simp only [fileWork, Traversal.file, FileTree.bytesOf, at_, nothing, RootWork.ofRoot,
            RootWork.groups]
      | full =>
          simp only [fileWork, Traversal.file, FileTree.bytesOf, at_, nothing, RootWork.ofRoot,
            RootWork.groups]

/-- A directory that does not fail has the groups of all files below it, as roots of their own. -/
theorem groups_directory {rules : Rules} {t : FileTree} {cwd path : String} {place : Place}
    {entries : List (String × FileTree)}
    (directory : t.stat cwd path = .ok (place, .directory entries))
    (read : (RootWork.ofRoot rules t cwd path).failures = []) :
    (RootWork.ofRoot rules t cwd path).groups =
      (Listing.ofRoot rules.filter t cwd path).files.flatMap fun file =>
        (RootWork.ofRoot rules t cwd file).groups := by
  simp only [RootWork.ofRoot, directory, RootWork.failures, List.append_eq_nil_iff,
    List.filterMap_eq_nil_iff, List.forall_mem_map] at read
  have own : ∀ file ∈ (Listing.ofRoot rules.filter t cwd path).files,
      (fileWork rules t cwd file).groups = (RootWork.ofRoot rules t cwd file).groups :=
    fun file member => groups_ofRoot_of_read (read.2 file member)
  rw [← List.flatMap_congr own]
  simp only [RootWork.ofRoot, directory, RootWork.groups, List.flatMap_map]

/-- For all roots and all settings, if the sink takes everything: every schedule comes to an end,
and what it gives is the text of all roots in their order, each with a header and all of its
groups, and the numbers of roots, of files and of messages; or a failure of the first root that
fails. Extracting root after root gives that, too. The groups of a directory are those of its files
as roots of their own, in the order of the listing. So for roots in a row the texts follow one
another and the counts add up, and they fail if and only if one part of them does. -/
theorem extracts_in_order {l : Limits} (limits : l.Positive) (works others : List RootWork)
    (rules : Rules) (t : FileTree) (cwd : String) (paths : List String) :
    Ends l works ∧ (∃ outcome, Gives l works outcome) ∧
      (∀ outcome, Gives l works outcome → Due works outcome) ∧
      Due (paths.map (RootWork.ofRoot rules t cwd)) (Extraction.toText rules t cwd paths) ∧
      (∀ path place entries, t.stat cwd path = .ok (place, .directory entries) →
        (RootWork.ofRoot rules t cwd path).failures = [] →
        (RootWork.ofRoot rules t cwd path).groups =
          (Listing.ofRoot rules.filter t cwd path).files.flatMap fun file =>
            (RootWork.ofRoot rules t cwd file).groups) ∧
      (∀ text summary more count, Gives l works (.ok (text, summary)) →
        Gives l others (.ok (more, count)) → ∀ outcome, Gives l (works ++ others) outcome ↔
          outcome = .ok (text ++ more, summary.add count)) ∧
      ((∃ e, Gives l (works ++ others) (.error e)) ↔
        (∃ e, Gives l works (.error e)) ∨ ∃ e, Gives l others (.error e)) ∧
      ∀ e, Gives l (works ++ others) (.error e) →
        Due works (.error e) ∨ (∀ root ∈ works, root.failures = []) ∧ Due others (.error e) := by
  refine ⟨⟨?_, ?_⟩, exists_gives limits works, fun _ gives => gives.due limits,
    due_toText rules t cwd paths, fun _ _ _ => groups_directory, ?_, ?_,
    fun e gives => (gives.due limits).error_append⟩
  · exact ⟨(State.initial works).remaining, fun _ _ => State.length_le_of_steps⟩
  · exact fun mayRefuse s reached => (reached.invariant limits).goesOn limits
  · intro text summary more count gives gives' outcome
    obtain ⟨read, rfl, rfl⟩ := Due.ok_iff.mp (gives.due limits)
    obtain ⟨read', rfl, rfl⟩ := Due.ok_iff.mp (gives'.due limits)
    rw [gives_iff limits (List.forall_mem_append.mpr ⟨read, read'⟩), RootWork.texts_append,
      RootWork.summary_append]
  · rw [exists_gives_error limits, exists_gives_error limits, exists_gives_error limits,
      List.forall_mem_append, not_and_or]

def calling : List UInt8 := Utf8.bytes "_('a')"

theorem drain_calling :
    (Source.ofBytes (.default "/") "./a.js" calling).drain = ([⟨⟨"a.js", 1⟩, ["\"a\""]⟩], none) := by
  have taken : Source.takeLine calling = some (calling, []) := by cbv
  have found : (Source.ofBytes (.default "/") "./a.js" calling).next =
      (.ok (some ⟨⟨"a.js", 1⟩, ["\"a\""]⟩), ⟨.default "/", "./a.js", [], 1⟩) := by
    rw [Source.next_of_takeLine taken]
    cbv
  have ended : (⟨.default "/", "./a.js", [], 1⟩ : Source).next =
      (.ok none, ⟨.default "/", "./a.js", [], 1⟩) := Source.next_of_takeLine_none rfl
  rw [Source.drain_of_next found, Source.drain_of_next ended]

/-- Two roots, one after them, and a directory with a file. -/
theorem extracts_in_order_roots :
    let works : List RootWork :=
      [.file ⟨"a.js", [⟨⟨"a.js", 1⟩, ["\"a\"", "\"b\""]⟩], none⟩, .special]
    let others : List RootWork := [.file ⟨"c.js", [⟨⟨"c.js", 2⟩, ["\"c\""]⟩], none⟩]
    let t : FileTree := .directory [("a.js", .file calling)]
    let root := RootWork.ofRoot (.default "/") t "/" "."
    Schedule.Limits.standard.Positive ∧
      (∃ outcome, Gives .standard (works ++ others) outcome) ∧
      (∀ outcome, Gives .standard (works ++ others) outcome ↔
        outcome = .ok (RootWork.texts works ++ RootWork.texts others, ⟨3, 2, 3⟩)) ∧
      root.groups = (RootWork.ofRoot (.default "/") t "/" "./a.js").groups ∧
      Extraction.toText (.default "/") t "/" ["."] = .ok (RootWork.texts [root], ⟨1, 1, 1⟩) := by
  intro works others t root
  have positive := Schedule.Limits.standard_positive
  have directory : t.stat "/" "." = .ok ([], .directory [("a.js", .file calling)]) := by
    rw [FileTree.stat_eq (by cbv) (by decide : _ = ["."])]
    cbv
  have file : t.stat "/" "./a.js" = .ok (["a.js"], .file calling) := by
    rw [FileTree.stat_eq (by cbv) (by decide : _ = [".", "a.js"])]
    cbv
  have listing : Listing.ofRoot (Rules.default "/").filter t "/" "." = ⟨["./a.js"], none⟩ := by cbv
  have work : fileWork (.default "/") t "/" "./a.js" =
      ⟨"./a.js", [⟨⟨"a.js", 1⟩, ["\"a\""]⟩], none⟩ := by
    simp only [fileWork, Traversal.file, FileTree.bytesOf, file, drain_calling]
  have whole : root = .directory [⟨"./a.js", [⟨⟨"a.js", 1⟩, ["\"a\""]⟩], none⟩] none := by
    simp only [root, RootWork.ofRoot, directory, listing, List.map_singleton, work]
  have read : root.failures = [] := by
    rw [whole]
    rfl
  have given {works : List RootWork} (read : ∀ root ∈ works, root.failures = []) :
      Gives .standard works (.ok (RootWork.texts works, RootWork.summary works)) := by
    obtain ⟨_, ⟨outcome, gives⟩, due, _⟩ :=
      extracts_in_order positive works [] (.default "/") t "/" []
    rwa [(due outcome gives).eq_ok read] at gives
  obtain ⟨_, _, _, due, groups, append, _⟩ :=
    extracts_in_order positive works others (.default "/") t "/" ["."]
  have both := append _ _ _ _ (given (by decide : ∀ root ∈ works, root.failures = []))
    (given (by decide : ∀ root ∈ others, root.failures = []))
  refine ⟨positive, ⟨_, (both _).mpr rfl⟩, both, ?_, ?_⟩
  · have below := groups "." [] _ directory read
    rw [listing, List.flatMap_singleton] at below
    exact below
  · have counts : RootWork.summary [root] = ⟨1, 1, 1⟩ := by
      rw [whole]
      rfl
    rw [← counts]
    exact due.eq_ok (List.forall_mem_singleton.mpr read)

end Pipeline

end MessageCatalog
