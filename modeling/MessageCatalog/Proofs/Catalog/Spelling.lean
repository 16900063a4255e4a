import MessageCatalog.Proofs.Call.Selection
import MessageCatalog.Proofs.Catalog.Lines
import MessageCatalog.Proofs.Literal
import MessageCatalog.Proofs.Pipeline.Outcome
import MessageCatalog.Proofs.Traversal

/-! # How messages are spelled

The literals of calls end where a scan over bytes ends, and are then spelled anew character by
character. Both agree on what is escaped, so that every message of a catalog is one string, and
nothing of it can be taken for another line.
-/

namespace MessageCatalog

namespace Call

variable {name : List UInt8} {function line : String} {literal : Literal}

theorem IsCall.isLiteral_slice {line : List UInt8} {site : Site} (call : IsCall name line site) :
    IsLiteral (slice line site.start site.stop) := by
  obtain ⟨before, blanks, literal, tail, rfl, _, isLiteral, _, position, start, stop⟩ := call
  have shape : before ++ (name ++ byte '(' :: (blanks ++ (literal ++ tail))) =
      (before ++ name ++ byte '(' :: blanks) ++ (literal ++ tail) := by
    simp only [List.append_assoc, List.cons_append]
  have first : site.start = (before ++ name ++ byte '(' :: blanks).length := by
    simp only [List.length_append, List.length_cons]
    omega
  rw [shape, slice_append first stop]
  exact isLiteral

/-- What a scan returns is a literal, and a part of the line. -/
theorem isLiteral_of_mem_literals (found : literal ∈ literals function line) :
    IsLiteral (Utf8.bytes literal.raw) ∧ Utf8.bytes literal.raw ⊆ Utf8.bytes line := by
  obtain ⟨site, member, rfl⟩ := List.mem_map.mp found
  have call := (isCall_of_mem_sitesFrom (Utf8.bytes function) (Utf8.bytes line) 0 site member).1
  rw [bytes_text_slice call]
  refine ⟨call.isLiteral_slice, ?_⟩
  exact ((List.take_sublist _ _).trans (List.drop_sublist _ _)).subset

theorem isString_of_mem_literals (found : literal ∈ literals function line) :
    Literal.IsString literal.normalized ∧
      ('\n' ∉ line.toList → '\n' ∉ literal.normalized.toList) := by
  obtain ⟨isLiteral, inside⟩ := isLiteral_of_mem_literals found
  refine ⟨Literal.isString_normalized isLiteral, fun free member => ?_⟩
  rcases Literal.mem_of_mem_normalized member with quote | escape | raw
  · cases quote
  · cases escape
  · have byte : Source.lineFeed ∈ Utf8.bytes literal.raw :=
      List.mem_flatMap.mpr ⟨'\n', raw, by decide⟩
    exact free (Utf8.mem_of_mem_encode (by decide) (inside byte))

end Call

namespace Catalog

/-- Whether a line is a keyword, one space and one string. -/
def IsKeyword (line : List Char) : Prop :=
  ∃ word ∈ ["msgid", "msgstr"], ∃ text, Literal.IsString text ∧ '\n' ∉ text.toList ∧
    line = (word ++ " " ++ text).toList

def Line.hasKeyword : Line → Bool
  | .msgid _ => true
  | .msgstr _ => true
  | _ => false

/-- Messages are strings on one line each. -/
def Spelled (g : MessageGroup) : Prop :=
  ∀ text ∈ g.texts, Literal.IsString text ∧ '\n' ∉ text.toList

theorem spelled_of_fromLine {function : String} {filter : NameFilter} {base path : String}
    {read : Nat} {g : MessageGroup}
    (from_ : g.FromLine ⟨.call function, filter, base⟩ path read) : Spelled g := by
  obtain ⟨line, free, texts⟩ := from_.texts
  intro text member
  rw [texts] at member
  obtain ⟨literal, found, rfl⟩ := List.mem_map.mp member
  obtain ⟨string, kept⟩ := Call.isString_of_mem_literals found
  exact ⟨string, kept (by rwa [String.toList_ofList])⟩

theorem isKeyword_msgid {text : String} (string : Literal.IsString text)
    (free : '\n' ∉ text.toList) :
    IsKeyword (Line.msgid text).chars ∧ IsKeyword (Line.msgstr text).chars := by
  refine ⟨⟨"msgid", by simp, text, string, free, ?_⟩, ⟨"msgstr", by simp, text, string, free, ?_⟩⟩
  · simp [Line.chars]
  · simp [Line.chars]

theorem isKeyword_headerLines :
    ∀ line ∈ headerLines, line.hasKeyword = true → IsKeyword line.chars := by
  have string : Literal.IsString "\"\"" := Literal.isString_of_body .nil
  obtain ⟨msgid, msgstr⟩ := isKeyword_msgid string (by decide)
  simp only [headerLines, List.forall_mem_cons]
  exact ⟨nofun, fun _ => msgid, fun _ => msgstr, nofun, nofun⟩

theorem Spelled.isKeyword {g : MessageGroup} (spelled : Spelled g) :
    ∀ line ∈ groupLines g, line.hasKeyword = true → IsKeyword line.chars := by
  have later {texts : List String} (inside : texts ⊆ g.texts) :
      ∀ line ∈ laterLines texts, line.hasKeyword = true → IsKeyword line.chars := by
    intro line member
    obtain ⟨text, here, member⟩ := List.mem_flatMap.mp member
    obtain ⟨string, free⟩ := spelled text (inside here)
    obtain ⟨msgid, msgstr⟩ := isKeyword_msgid string free
    simp only [List.mem_cons, List.not_mem_nil, or_false] at member
    rcases member with rfl | rfl | rfl
    · exact nofun
    · exact fun _ => msgid
    · exact fun _ => msgstr
  rw [groupLines]
  split
  · exact nofun
  · rename_i text texts shape
    rw [shape] at later
    obtain ⟨string, free⟩ := spelled text (by simp [shape])
    obtain ⟨msgid, msgstr⟩ := isKeyword_msgid string free
    simp only [List.forall_mem_cons]
    exact ⟨nofun, nofun, fun _ => msgid, fun _ => msgstr, later (List.subset_cons_self text texts)⟩

theorem isKeyword_of_mem_rootLines {roots : List (List MessageGroup)}
    (spelled : ∀ groups ∈ roots, ∀ g ∈ groups, Spelled g) :
    ∀ line ∈ roots.flatMap rootLines, line.hasKeyword = true → IsKeyword line.chars := by
  intro line member
  obtain ⟨groups, inside, member⟩ := List.mem_flatMap.mp member
  rcases List.mem_append.mp member with header | later
  · exact isKeyword_headerLines line header
  · obtain ⟨g, member, line_⟩ := List.mem_flatMap.mp later
    exact (spelled groups inside g member).isKeyword line line_

/-- Only lines that are written for a keyword begin like one. -/
theorem Line.hasKeyword_of_prefix {line : Line} (begins : ['m', 's', 'g'] <+: line.chars) :
    line.hasKeyword = true := by
  cases line <;> simp [Line.chars, List.cons_prefix_cons, Line.hasKeyword] at begins ⊢

end Catalog

namespace Pipeline.RootWork

open Catalog

theorem texts_eq (works : List RootWork) : texts works = renderRoots (works.map groups) := by
  induction works with
  | nil => rfl
  | cons root works ih => rw [texts, ih, List.map_cons, renderRoots, text]

theorem mem_of_works {rules : Rules} {t : FileTree} {cwd : String} {paths : List String} :
    ∀ found ∈ (paths.map (RootWork.ofRoot rules t cwd)).map groups, ∀ g ∈ found,
      ∃ file, g.FromLine rules file 0 := by
  intro found member
  simp only [List.map_map, List.mem_map, Function.comp_apply] at member
  obtain ⟨path, _, rfl⟩ := member
  exact exists_fromLine

end Pipeline.RootWork

namespace Catalog

open Pipeline (RootWork)

/-- Every literal that a scan for calls returns is spelled as one string, from its first byte to its
last, and without a line feed unless the line has one. So in every catalog of calls, whatever the
sources hold, a line for a message is its keyword, one space and one string; and if no path has a
line feed, these are all lines that begin like a keyword. -/
theorem spelled_as_strings (function : String) :
    (∀ line, ∀ literal ∈ Call.literals function line,
      Literal.IsString literal.normalized ∧
        ('\n' ∉ line.toList → '\n' ∉ literal.normalized.toList)) ∧
      ∀ (filter : NameFilter) (base : String) (t : FileTree) (cwd : String) (paths : List String),
        let rules : Rules := ⟨.call function, filter, base⟩
        let works := paths.map (RootWork.ofRoot rules t cwd)
        let lines := works.flatMap fun root => rootLines root.groups
        (∀ text summary, Extraction.toText rules t cwd paths = .ok (text, summary) →
          text = RootWork.texts works) ∧
          (RootWork.texts works).toList = unlines lines ∧
          (∀ line ∈ lines, line.hasKeyword = true → IsKeyword line.chars) ∧
          ((∀ root ∈ works, ∀ g ∈ root.groups, '\n' ∉ g.location.path.toList) →
            ∀ line ∈ splitAt (· = '\n') (RootWork.texts works).toList,
              ['m', 's', 'g'] <+: line → IsKeyword line) := by
  refine ⟨fun line literal => Call.isString_of_mem_literals, fun filter base t cwd paths => ?_⟩
  intro rules works lines
  have origin : ∀ groups ∈ works.map RootWork.groups, ∀ g ∈ groups,
      ∃ file, g.FromLine rules file 0 := RootWork.mem_of_works
  have spelled : ∀ groups ∈ works.map RootWork.groups, ∀ g ∈ groups, Spelled g :=
    fun groups inside g member => (origin groups inside g member).elim fun _ => spelled_of_fromLine
  have same : lines = (works.map RootWork.groups).flatMap rootLines := by
    rw [List.flatMap_map]
  have keywords : ∀ line ∈ lines, line.hasKeyword = true → IsKeyword line.chars := by
    rw [same]
    exact isKeyword_of_mem_rootLines spelled
  refine ⟨fun text summary given => ?_, ?_, keywords, fun free line member begins => ?_⟩
  · have due := Pipeline.due_toText rules t cwd paths
    rw [given] at due
    exact (Pipeline.Due.ok_iff.mp due).2.1
  · rw [RootWork.texts_eq, same, unlines_renderRoots]
  · have readable : ∀ groups ∈ works.map RootWork.groups, ∀ g ∈ groups, Readable g := by
      intro groups inside g member
      obtain ⟨root, here, rfl⟩ := List.mem_map.mp inside
      obtain ⟨file, from_⟩ := origin _ inside g member
      exact ⟨from_.messages, free root here g member, fun text here =>
        (spelled _ inside g member text here).2⟩
    rw [RootWork.texts_eq, splitAt_renderRoots readable, ← same] at member
    rcases List.mem_append.mp member with inside | last
    · obtain ⟨whole, here, rfl⟩ := List.mem_map.mp inside
      exact keywords whole here (Line.hasKeyword_of_prefix begins)
    · cases List.mem_singleton.mp last
      simp at begins

/-- A literal with both quotes and a backslash at its end, in the only file of a tree. -/
theorem spelled_as_strings_file :
    let line := "_( 'it\\'s \"x\" \\\\' , n)"
    let literal : Literal := ⟨"'it\\'s \"x\" \\\\'"⟩
    let t : FileTree := .directory [("a.js", .file (Utf8.bytes line))]
    let text := "\"it's \\\"x\\\" \\\\\""
    let root : RootWork := .file ⟨"/a.js", [⟨⟨"a.js", 1⟩, [text]⟩], none⟩
    literal ∈ Call.literals "_" line ∧ '\n' ∉ line.toList ∧
      Literal.IsString literal.normalized ∧ '\n' ∉ literal.normalized.toList ∧
      (∃ written summary, Extraction.toText (.default "/") t "/" ["/a.js"] = .ok (written, summary) ∧
        written = RootWork.texts [root]) ∧
      (∀ g ∈ root.groups, '\n' ∉ g.location.path.toList) ∧
      IsKeyword ("msgid " ++ text).toList := by
  intro line literal t text root
  have found : literal ∈ Call.literals "_" line := by decide +kernel
  have oneLine : '\n' ∉ line.toList := by decide
  have at_ : t.stat "/" "/a.js" = .ok (["a.js"], .file (Utf8.bytes line)) := by cbv
  have drained : (Source.ofBytes (.default "/") "/a.js" (Utf8.bytes line)).drain =
      ([⟨⟨"a.js", 1⟩, [text]⟩], none) := by decide +kernel
  have works : ["/a.js"].map (RootWork.ofRoot (.default "/") t "/") = [root] := by
    simp only [List.map_singleton, RootWork.ofRoot, Pipeline.fileWork, Traversal.file,
      FileTree.bytesOf, at_, drained]
    rfl
  have due := Pipeline.due_toText (.default "/") t "/" ["/a.js"]
  rw [works] at due
  have given := due.eq_ok (by decide)
  have paths : ∀ g ∈ root.groups, '\n' ∉ g.location.path.toList := by decide
  obtain ⟨strings, catalogs⟩ := spelled_as_strings "_"
  obtain ⟨written, _, _, lines⟩ := catalogs .default "/" t "/" ["/a.js"]
  rw [show ["/a.js"].map (RootWork.ofRoot ⟨.call "_", .default, "/"⟩ t "/") = [root] from works]
    at written lines
  refine ⟨found, oneLine, (strings line literal found).1, (strings line literal found).2 oneLine,
    ⟨_, _, given, written _ _ given⟩, paths, lines (by simpa using paths) _ ?_ ?_⟩
  · decide +kernel
  · decide

end Catalog

end MessageCatalog
