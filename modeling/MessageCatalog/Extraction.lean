import MessageCatalog.Catalog.Writer
import MessageCatalog.Traversal

/-! # Extractions

Roots in, catalog out: every root gives a header and its groups, and is flushed before the next one
begins. The first root that fails ends the extraction.
-/

namespace MessageCatalog

/-- What an extraction went through. -/
structure Summary where
  roots : Nat
  files : Nat
  entries : Nat
  deriving Repr, DecidableEq

namespace Extraction

variable {σ : Type}

/-- The number of groups that wait for the writer at most. -/
def groupBuffer : Nat := 32

/-- Extract one root and give the number of its files. `traverse` traverses the root as its files
are after the header was written. A writer that fails takes no more groups; if the traversal comes to
a failure of its own then, this one is reported. -/
def root (traverse : σ → String → Traversal) (w : CatalogWriter σ) (path : String) :
    Except Failure Nat × CatalogWriter σ :=
  match w.writeHeader with
  | (.error e, w) => (.error e, w)
  | (.ok (), w) =>
    let traversal := traverse w.state path
    let (written, left, w) := w.writeGroups traversal.groups
    match written, traversal.result with
    | .error e, _ =>
      let taken := traversal.groups.length - left.length
      (.error ((traversal.failureAfter? groupBuffer taken).getD e), w)
    | .ok (), .error e => (.error e, w)
    | .ok (), .ok files =>
      match w.flush with
      | (.error e, w) => (.error e, w)
      | (.ok (), w) => (.ok files, w)

/-- Extract roots in order and give the number of all their files. -/
def roots (traverse : σ → String → Traversal) (w : CatalogWriter σ) :
    List String → Except Failure Nat × CatalogWriter σ
  | [] => (.ok 0, w)
  | path :: paths =>
    match root traverse w path with
    | (.error e, w) => (.error e, w)
    | (.ok files, w) =>
      match roots traverse w paths with
      | (.error e, w) => (.error e, w)
      | (.ok more, w) => (.ok (files + more), w)

def run (traverse : σ → String → Traversal) (w : CatalogWriter σ) (paths : List String) :
    Except Failure Summary × CatalogWriter σ :=
  match roots traverse w paths with
  | (.error e, w) => (.error e, w)
  | (.ok files, w) => (.ok ⟨paths.length, files, w.entries⟩, w)

/-- Extract roots into a store of bytes, with room for `limit` bytes or for any number. -/
def intoStore (limit : Option Nat) (rules : Rules) (t : FileTree) (cwd : String)
    (paths : List String) : Except Failure Summary × CatalogWriter Store :=
  run (fun _ path => Traversal.ofRoot rules t cwd path)
    (CatalogWriter.new Store.sink (Store.empty limit)) paths

def toText (rules : Rules) (t : FileTree) (cwd : String) (paths : List String) :
    Except Failure (String × Summary) :=
  match intoStore none rules t cwd paths with
  | (.error e, _) => .error e
  | (.ok summary, w) => .ok (Utf8.text w.state.bytes, summary)

end Extraction

end MessageCatalog
