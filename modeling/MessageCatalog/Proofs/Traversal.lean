import MessageCatalog.Proofs.Source
import MessageCatalog.Extraction.Pipeline

/-! # Where groups come from

Every group that a traversal gives comes from a line of some file, whether or not the traversal
fails later on.
-/

namespace MessageCatalog

variable {rules : Rules} {t : FileTree} {cwd path : String}

theorem Traversal.fromLine_of_mem_file :
    ∀ g ∈ (Traversal.file rules t cwd path).1, g.FromLine rules path 0 := by
  unfold Traversal.file
  split
  · exact nofun
  · exact Source.fromLine_of_mem_drain

theorem Traversal.pairwise_file :
    (Traversal.file rules t cwd path).1.Pairwise fun a b => a.location.line < b.location.line := by
  unfold Traversal.file
  split
  · exact .nil
  · exact Source.pairwise_drain _

/-- The groups of a root come from lines of files. -/
theorem Pipeline.RootWork.exists_fromLine :
    ∀ g ∈ (RootWork.ofRoot rules t cwd path).groups, ∃ file, g.FromLine rules file 0 := by
  intro g member
  unfold RootWork.ofRoot at member
  split at member
  · cases member
  · exact ⟨path, Traversal.fromLine_of_mem_file g member⟩
  · simp only [RootWork.groups, List.flatMap_map] at member
    obtain ⟨file, _, inside⟩ := List.mem_flatMap.mp member
    exact ⟨file, Traversal.fromLine_of_mem_file g inside⟩
  · cases member

end MessageCatalog
