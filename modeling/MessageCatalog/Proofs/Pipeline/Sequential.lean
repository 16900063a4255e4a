import MessageCatalog.Extraction.Pipeline
import MessageCatalog.Proofs.Catalog.Writing
import MessageCatalog.Proofs.Schedule.Delivery

/-! # One root after the other

Extracting roots one after the other, as the program does, writes the text of all roots in their
order and flushes each of them, up to the first one that fails. This holds for every sink that
keeps what it takes.
-/

namespace MessageCatalog

open Sink (View)

theorem Traversal.result_of_failureAfter? {t : Traversal} {room count : Nat} {e : Failure}
    (failed : t.failureAfter? room count = some e) : t.result = .error e := by
  rw [failureAfter?] at failed
  split at failed
  · cases failed
  · rename_i e' result
    split at failed
    · cases failed
    · cases failed
      exact result

theorem Traversal.exists_failed (rules : Rules) (t : FileTree) (cwd : String) {paths : List String}
    {e : Failure} (failed : (files rules t cwd paths).2 = some e) :
    ∃ path ∈ paths, (file rules t cwd path).2 = some e := by
  induction paths with
  | nil => cases failed
  | cons path paths ih =>
      rw [files] at failed
      split at failed
      · rename_i groups e' here
        cases failed
        exact ⟨path, List.mem_cons_self, by rw [here]⟩
      · exact (ih failed).imp fun _ => And.imp_left (.tail _)

theorem Traversal.read_of_files (rules : Rules) (t : FileTree) (cwd : String) {paths : List String}
    (read : (files rules t cwd paths).2 = none) :
    ∀ path ∈ paths, (file rules t cwd path).2 = none := by
  induction paths with
  | nil => exact nofun
  | cons path paths ih =>
      rw [files] at read
      split at read
      · cases read
      · rename_i groups here
        exact List.forall_mem_cons.mpr ⟨by rw [here], ih read⟩

theorem Traversal.files_prefix (rules : Rules) (t : FileTree) (cwd : String) (paths : List String) :
    (files rules t cwd paths).1 <+: paths.flatMap fun path => (file rules t cwd path).1 := by
  induction paths with
  | nil => exact List.prefix_rfl
  | cons path paths ih =>
      rw [files, List.flatMap_cons]
      split
      · rename_i groups e here
        rw [here]
        exact List.prefix_append _ _
      · rename_i groups here
        rw [here]
        exact (List.prefix_append_right_inj groups).mpr ih

namespace Pipeline

/-- Whether a traversal gives what there is to find at a root. -/
structure RootWork.Gives (root : RootWork) (traversal : Traversal) : Prop where
  first : traversal.groups <+: root.groups
  ok : ∀ files, traversal.result = .ok files →
    root.failures = [] ∧ traversal.groups = root.groups ∧ files = root.files
  error : ∀ e, traversal.result = .error e → e ∈ root.failures

namespace RootWork

def summary (works : List RootWork) : Summary :=
  ⟨works.length, (works.map files).sum, (works.map entries).sum⟩

theorem bytes_texts_nil : Utf8.bytes (texts []) = [] := rfl

variable {root : RootWork} {traversal : Traversal}

theorem Gives.of_ok (result : traversal.result = .ok root.files) (read : root.failures = [])
    (all : traversal.groups = root.groups) : root.Gives traversal where
  first := all ▸ List.prefix_rfl
  ok files returned := by
    cases result.symm.trans returned
    exact ⟨read, all, rfl⟩
  error e returned := by cases result.symm.trans returned

theorem Gives.of_error {e : Failure} (result : traversal.result = .error e)
    (failed : e ∈ root.failures) (first : traversal.groups <+: root.groups) :
    root.Gives traversal where
  first := first
  ok files returned := by cases result.symm.trans returned
  error e returned := by
    cases result.symm.trans returned
    exact failed

variable (rules : Rules) (t : FileTree) (cwd : String)

theorem gives_directory (path : String) :
    (directory ((Listing.ofRoot rules.filter t cwd path).files.map (fileWork rules t cwd))
      (Listing.ofRoot rules.filter t cwd path).failure).Gives
        (Traversal.directory rules t cwd path) := by
  have first := Traversal.files_prefix rules t cwd (Listing.ofRoot rules.filter t cwd path).files
  generalize files : Traversal.files rules t cwd (Listing.ofRoot rules.filter t cwd path).files =
    found at first
  obtain ⟨some, failure⟩ := found
  have begun : some <+: groups (directory
      ((Listing.ofRoot rules.filter t cwd path).files.map (fileWork rules t cwd))
      (Listing.ofRoot rules.filter t cwd path).failure) := by
    rw [groups, List.flatMap_map]
    exact first
  cases listed : (Listing.ofRoot rules.filter t cwd path).failure with
  | some e =>
      refine .of_error (e := e) ?_ (List.mem_append_left _ (List.mem_singleton_self e)) ?_
      · simp only [Traversal.directory, listed]
      · simpa only [Traversal.directory, listed, files] using begun
  | none =>
      cases failure with
      | some e =>
          obtain ⟨file, member, failed⟩ :=
            Traversal.exists_failed rules t cwd (congrArg Prod.snd files)
          refine .of_error (e := e) ?_ (List.mem_append_right _
            (List.mem_filterMap.mpr ⟨_, List.mem_map_of_mem member, failed⟩)) ?_
          · simp only [Traversal.directory, listed, files]
          · simpa only [Traversal.directory, listed, files] using begun
      | none =>
          have read := Traversal.read_of_files rules t cwd (congrArg Prod.snd files)
          refine .of_ok ?_ ?_ ?_
          · simp only [Traversal.directory, listed, files, RootWork.files, List.length_map]
          · rw [failures, Option.toList_none, List.nil_append, List.filterMap_eq_nil_iff,
              List.forall_mem_map]
            exact read
          · have all := Schedule.files_of_read rules t cwd read
            rw [groups, List.flatMap_map]
            simp only [Traversal.directory, listed, all]
            rfl

/-- Traversing a root gives what there is to find at it. -/
theorem gives_ofRoot (path : String) :
    (RootWork.ofRoot rules t cwd path).Gives (Traversal.ofRoot rules t cwd path) := by
  cases at_ : t.stat cwd path with
  | error e =>
      simp only [RootWork.ofRoot, Traversal.ofRoot, at_]
      exact .of_error rfl (List.mem_singleton_self _) List.prefix_rfl
  | ok found =>
      obtain ⟨place, node⟩ := found
      cases node with
      | directory entries =>
          simp only [RootWork.ofRoot, Traversal.ofRoot, at_]
          exact gives_directory rules t cwd path
      | file content =>
          simp only [RootWork.ofRoot, Traversal.ofRoot, at_, fileWork]
          generalize Traversal.file rules t cwd path = read
          obtain ⟨groups, failure⟩ := read
          cases failure with
          | some e => exact .of_error rfl (List.mem_singleton_self _) List.prefix_rfl
          | none => exact .of_ok rfl rfl rfl
      | link target =>
          simp only [RootWork.ofRoot, Traversal.ofRoot, at_]
          exact .of_ok rfl rfl rfl
      | special =>
          simp only [RootWork.ofRoot, Traversal.ofRoot, at_]
          exact .of_ok rfl rfl rfl
      | full =>
          simp only [RootWork.ofRoot, Traversal.ofRoot, at_]
          exact .of_ok rfl rfl rfl

section Written

variable {σ : Type} {view : View σ} {mayRefuse : Prop} {w : CatalogWriter σ}
  {traverse : σ → String → Traversal}

/-- What comes of a root: the sink takes all of its text and is flushed then, or it takes a first
part of it and the root fails, from a failure of its own or from a refusal of the sink. -/
inductive Written (view : View σ) (mayRefuse : Prop) (root : RootWork) (w : CatalogWriter σ) :
    Except Failure Nat × CatalogWriter σ → Prop where
  | ok {after} (read : root.failures = [])
    (grows : view.Grows w.state (Utf8.bytes root.text) after)
    (flushed : view.flushed after = view.taken after) :
    Written view mayRefuse root w (.ok root.files, ⟨w.sink, after, w.entries + root.entries⟩)
  | error {e part after entries} (begun : part <+: Utf8.bytes root.text)
    (grows : view.Grows w.state part after)
    (cause : e ∈ root.failures ∨ mayRefuse ∧ ∃ cause, e = .output cause) :
    Written view mayRefuse root w (.error e, ⟨w.sink, after, entries⟩)

theorem header_prefix_renderRoot (groups : List MessageGroup) :
    Utf8.bytes Catalog.header <+: Utf8.bytes (Catalog.renderRoot groups) := by
  rw [Catalog.renderRoot, Utf8.bytes_append]
  exact List.prefix_append _ _

theorem written_root (keeps : w.sink.Keeps view mayRefuse) (sound : view.sound w.state)
    (path : String) (gives : ∀ state, root.Gives (traverse state path)) :
    root.Written view mayRefuse w (Extraction.root traverse w path) := by
  have header := CatalogWriter.write_written keeps sound Catalog.header
  rw [Extraction.root, CatalogWriter.writeHeader]
  generalize w.write Catalog.header = result at header
  cases header with
  | part begun grows refuses =>
      exact .error (begun.trans (header_prefix_renderRoot _)) grows (.inr ⟨refuses, _, rfl⟩)
  | @all after grows =>
      -- Files are read as they are after the head was written.
      have found := gives after
      simp only
      generalize traverse after path = traversal at found
      have written := (CatalogWriter.writeGroups_written
        (w := ⟨w.sink, after, w.entries + 0⟩) keeps grows.sound traversal.groups).after grows
      rw [← Utf8.bytes_append, ← Catalog.renderRoot, Nat.zero_add] at written
      have some := Catalog.bytes_renderRoot_prefix found.first
      generalize CatalogWriter.writeGroups _ traversal.groups = result at written
      obtain ⟨result, left, w'⟩ := result
      cases written with
      | @part first cause after' entries begun more refuses =>
          refine .error (begun.trans some) more ?_
          cases own : traversal.failureAfter? Extraction.groupBuffer
              (traversal.groups.length - left.length) with
          | some e => exact .inl (found.error e (Traversal.result_of_failureAfter? own))
          | none => exact .inr ⟨refuses, cause, rfl⟩
      | @all after' more =>
          cases result : traversal.result with
          | error e => exact .error some more (.inl (found.error e result))
          | ok files =>
              obtain ⟨read, all, rfl⟩ := found.ok files result
              rw [all] at more ⊢
              obtain ⟨last, same, ⟨flush, flushed⟩ | ⟨refuses, cause, flush⟩⟩ :=
                CatalogWriter.flush_cases
                  (w := ⟨w.sink, after', w.entries + MessageGroup.sizes root.groups⟩) keeps
                  more.sound
              · simp only [flush]
                exact .ok read (more.keep same) flushed
              · simp only [flush]
                exact .error List.prefix_rfl (more.keep same) (.inr ⟨refuses, cause, rfl⟩)

end Written

end RootWork

/-- What an extraction has written when it returns, where `later` are the roots that have not begun:
either all text, which is flushed, or all text of the roots before one that fails, which is flushed,
and a first part of the text of that root. -/
inductive Wrote (works : List RootWork) (mayRefuse : Prop) :
    List RootWork → List UInt8 → List UInt8 → Except Failure Summary → Prop where
  | ok (read : ∀ root ∈ works, root.failures = []) :
    Wrote works mayRefuse [] (Utf8.bytes (RootWork.texts works))
      (Utf8.bytes (RootWork.texts works)) (.ok (RootWork.summary works))
  | error {done root later part flushed e} (order : works = done ++ root :: later)
    (read : ∀ root ∈ done, root.failures = [])
    (kept : Utf8.bytes (RootWork.texts done) <+: flushed) (begun : part <+: Utf8.bytes root.text)
    (cause : e ∈ root.failures ∨ mayRefuse ∧ ∃ cause, e = .output cause) :
    Wrote works mayRefuse later (Utf8.bytes (RootWork.texts done) ++ part) flushed (.error e)

section Roots

variable {σ : Type} {view : View σ} {mayRefuse : Prop} {w w' : CatalogWriter σ}
  {traverse : σ → String → Traversal} {work : String → RootWork} {paths : List String}

theorem roots_ok (keeps : w.sink.Keeps view mayRefuse) (sound : view.sound w.state)
    (settled : view.flushed w.state = view.taken w.state)
    (gives : ∀ path ∈ paths, ∀ state, (work path).Gives (traverse state path)) {files : Nat}
    (returned : Extraction.roots traverse w paths = (.ok files, w')) :
    (∀ root ∈ paths.map work, root.failures = []) ∧
      files = ((paths.map work).map RootWork.files).sum ∧
      w'.entries = w.entries + ((paths.map work).map RootWork.entries).sum ∧
      view.taken w'.state = view.taken w.state ++ Utf8.bytes (RootWork.texts (paths.map work)) ∧
      view.flushed w'.state = view.taken w'.state := by
  induction paths generalizing w files with
  | nil =>
      cases returned
      rw [List.map_nil, RootWork.bytes_texts_nil, List.append_nil]
      exact ⟨List.forall_mem_nil _, rfl, rfl, rfl, settled⟩
  | cons path paths ih =>
      obtain ⟨first, later⟩ := List.forall_mem_cons.mp gives
      have written := RootWork.written_root keeps sound path first
      rw [Extraction.roots] at returned
      generalize Extraction.root traverse w path = result at written returned
      cases written with
      | error begun grows cause => cases returned
      | @ok after read grows flushed =>
          simp only at returned
          split at returned
          · cases returned
          · rename_i more w'' rest
            cases returned
            obtain ⟨others, rfl, entries, taken, last⟩ :=
              ih (w := ⟨w.sink, after, w.entries + (work path).entries⟩) keeps grows.sound flushed
                later rest
            refine ⟨List.forall_mem_cons.mpr ⟨read, others⟩, ?_, ?_, ?_, last⟩
            · rw [List.map_cons, List.map_cons, List.sum_cons]
            · rw [entries, List.map_cons, List.map_cons, List.sum_cons, Nat.add_assoc]
            · rw [taken, grows.taken, List.map_cons, RootWork.texts, Utf8.bytes_append,
                List.append_assoc]

/-- Roots that are not all extracted fail at one of them, whatever comes after it: with a failure of
this root, or with a refusal of the sink. The roots before it are written and flushed. -/
theorem roots_error (keeps : w.sink.Keeps view mayRefuse) (sound : view.sound w.state)
    (settled : view.flushed w.state = view.taken w.state)
    (gives : ∀ path ∈ paths, ∀ state, (work path).Gives (traverse state path)) {e : Failure}
    (returned : Extraction.roots traverse w paths = (.error e, w')) :
    ∃ done path later part, paths = done ++ path :: later ∧
      (∀ others, Extraction.roots traverse w (done ++ path :: others) = (.error e, w')) ∧
      (∀ root ∈ done.map work, root.failures = []) ∧
      view.taken w.state ++ Utf8.bytes (RootWork.texts (done.map work)) <+:
        view.flushed w'.state ∧
      view.taken w'.state =
        view.taken w.state ++ Utf8.bytes (RootWork.texts (done.map work)) ++ part ∧
      part <+: Utf8.bytes (work path).text ∧
      (e ∈ (work path).failures ∨ mayRefuse ∧ ∃ cause, e = .output cause) := by
  induction paths generalizing w with
  | nil => cases returned
  | cons path paths ih =>
      obtain ⟨first, later⟩ := List.forall_mem_cons.mp gives
      have written := RootWork.written_root keeps sound path first
      rw [Extraction.roots] at returned
      generalize here : Extraction.root traverse w path = result at written returned
      cases written with
      | @error _ part after _ begun grows cause =>
          cases returned
          have nothing : view.taken w.state ++ Utf8.bytes (RootWork.texts ([].map work)) =
              view.taken w.state := by
            rw [List.map_nil, RootWork.bytes_texts_nil, List.append_nil]
          refine ⟨[], path, paths, part, rfl, fun others => ?_, List.forall_mem_nil _,
            ?_, ?_, begun, cause⟩
          · rw [List.nil_append, Extraction.roots, here]
          · rw [nothing, ← settled]
            exact grows.flushed
          · rw [nothing]
            exact grows.taken
      | @ok after read grows flushed =>
          simp only at returned
          split at returned
          · rename_i e' w'' rest
            cases returned
            obtain ⟨done, other, left, part, order, same, all, kept, taken, begun, cause⟩ :=
              ih (w := ⟨w.sink, after, w.entries + (work path).entries⟩) keeps grows.sound flushed
                later rest
            have whole : view.taken after ++ Utf8.bytes (RootWork.texts (done.map work)) =
                view.taken w.state ++
                  Utf8.bytes (RootWork.texts ((path :: done).map work)) := by
              rw [grows.taken, List.map_cons, RootWork.texts, Utf8.bytes_append, List.append_assoc]
            refine ⟨path :: done, other, left, part, by rw [order, List.cons_append],
              fun others => ?_, List.forall_mem_cons.mpr ⟨read, all⟩, ?_, ?_, begun, cause⟩
            · simp only [List.cons_append, Extraction.roots, here, same]
            · exact whole ▸ kept
            · exact whole ▸ taken
          · cases returned

/-- Extracting roots one after the other into a sink that keeps what it takes. -/
theorem run_wrote {sink : Sink σ} {state : σ} (keeps : sink.Keeps view mayRefuse)
    (fresh : view.Fresh state)
    (gives : ∀ path ∈ paths, ∀ state, (work path).Gives (traverse state path))
    {result : Except Failure Summary}
    (returned : Extraction.run traverse (.new sink state) paths = (result, w)) :
    ∃ begun later, paths = begun ++ later ∧
      Wrote (paths.map work) mayRefuse (later.map work) (view.taken w.state) (view.flushed w.state)
        result ∧
      ∀ e, result = .error e → ∀ others,
        Extraction.run traverse (.new sink state) (begun ++ others) = (result, w) := by
  have settled : view.flushed state = view.taken state := fresh.flushed.trans fresh.taken.symm
  rw [Extraction.run] at returned
  cases all : Extraction.roots traverse (.new sink state) paths with
  | mk found final =>
      rw [all] at returned
      cases found with
      | ok files =>
          obtain ⟨read, rfl, entries, taken, flushed⟩ :=
            roots_ok keeps fresh.sound settled gives all
          cases returned
          refine ⟨paths, [], (List.append_nil _).symm, ?_, nofun⟩
          have written : Wrote (paths.map work) mayRefuse _ _ _ _ := .ok read
          have nothing : view.taken (CatalogWriter.new sink state).state = [] := fresh.taken
          have none : (CatalogWriter.new sink state).entries = 0 := rfl
          rw [nothing, List.nil_append] at taken
          rw [none, Nat.zero_add] at entries
          rw [RootWork.summary, List.length_map] at written
          rw [flushed, taken, entries]
          exact written
      | error e =>
          obtain ⟨done, path, later, part, order, same, read, kept, taken, first, cause⟩ :=
            roots_error keeps fresh.sound settled gives all
          cases returned
          refine ⟨done ++ [path], later, by simp [order], ?_, fun _ _ others => ?_⟩
          · have nothing : view.taken (CatalogWriter.new sink state).state = [] := fresh.taken
            rw [nothing, List.nil_append] at kept taken
            rw [taken]
            exact .error (by rw [order, List.map_append, List.map_cons]) read kept first cause
          · rw [List.append_assoc, List.singleton_append, Extraction.run, same others]

end Roots

end Pipeline

end MessageCatalog
