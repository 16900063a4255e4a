import MessageCatalog.Proofs.Catalog.Writing
import MessageCatalog.Proofs.Path

/-! # Lines of a catalog

The text of a catalog as a list of lines, each with what it is for. No line can be taken for one of
another kind, and if no path and no message has a line feed, the lines are found again by cutting
the text at its line feeds.
-/

namespace MessageCatalog.Catalog

/-- A line of a catalog, by what it is for. -/
inductive Line where
  /-- The first line of a header. -/
  | flag
  /-- The last line of a header. -/
  | contentType
  | blank
  | location (l : Location)
  | msgid (text : String)
  | msgstr (text : String)
  deriving Repr, DecidableEq

/-- A line as it is written, without the line feed behind it. -/
def Line.chars : Line → List Char
  | .flag => '#' :: ',' :: " fuzzy".toList
  | .contentType => '"' :: "Content-Type: text/plain; charset=UTF-8\\n\"".toList
  | .blank => []
  | .location l => '#' :: ':' :: ' ' :: l.text.toList
  | .msgid text => 'm' :: 's' :: 'g' :: 'i' :: 'd' :: ' ' :: text.toList
  | .msgstr text => 'm' :: 's' :: 'g' :: 's' :: 't' :: 'r' :: ' ' :: text.toList

def unlines : List Line → List Char
  | [] => []
  | line :: lines => line.chars ++ '\n' :: unlines lines

def headerLines : List Line := [.flag, .msgid "\"\"", .msgstr "\"\"", .contentType]

/-- The lines of messages behind the first one of a group. -/
def laterLines (texts : List String) : List Line :=
  texts.flatMap fun text => [.blank, .msgid text, .msgstr text]

def groupLines (g : MessageGroup) : List Line :=
  match g.texts with
  | [] => []
  | text :: texts => .blank :: .location g.location :: .msgid text :: .msgstr text :: laterLines texts

def rootLines (groups : List MessageGroup) : List Line := headerLines ++ groups.flatMap groupLines

def renderRoots : List (List MessageGroup) → String
  | [] => ""
  | groups :: roots => renderRoot groups ++ renderRoots roots

theorem unlines_append (lines more : List Line) :
    unlines (lines ++ more) = unlines lines ++ unlines more := by
  induction lines with
  | nil => rfl
  | cons line lines ih => simp only [List.cons_append, unlines, ih, List.append_assoc]

theorem unlines_headerLines : unlines headerLines = header.toList := by
  decide +kernel

theorem toList_block (text : String) :
    (block text).toList = unlines [.msgid text, .msgstr text] := by
  simp [block, unlines, Line.chars]

theorem unlines_laterLines (texts : List String) :
    unlines (laterLines texts) = (laterBlocks texts).toList := by
  induction texts with
  | nil => rfl
  | cons text texts ih =>
      rw [laterLines, List.flatMap_cons, unlines_append, ← laterLines, ih]
      simp [laterBlocks, toList_block, unlines, Line.chars]

theorem unlines_groupLines (g : MessageGroup) :
    unlines (groupLines g) = (renderGroup g).toList := by
  cases texts : g.texts with
  | nil => simp [groupLines, renderGroup, texts, unlines]
  | cons text texts =>
      simp [groupLines, renderGroup, texts, unlines, unlines_laterLines, toList_block, Line.chars]

theorem unlines_rootLines (groups : List MessageGroup) :
    unlines (rootLines groups) = (renderRoot groups).toList := by
  rw [rootLines, unlines_append, unlines_headerLines, renderRoot, String.toList_append]
  congr 1
  induction groups with
  | nil => rfl
  | cons g groups ih =>
      rw [List.flatMap_cons, unlines_append, unlines_groupLines, ih, renderGroups,
        String.toList_append]

theorem unlines_renderRoots (roots : List (List MessageGroup)) :
    unlines (roots.flatMap rootLines) = (renderRoots roots).toList := by
  induction roots with
  | nil => rfl
  | cons groups roots ih =>
      rw [List.flatMap_cons, unlines_append, unlines_rootLines, ih, renderRoots,
        String.toList_append]

theorem splitAt_unlines {lines : List Line} (free : ∀ line ∈ lines, '\n' ∉ line.chars) :
    splitAt (· = '\n') (unlines lines) = lines.map Line.chars ++ [[]] := by
  induction lines with
  | nil => rfl
  | cons line lines ih =>
      obtain ⟨first, later⟩ := List.forall_mem_cons.mp free
      have whole : splitAt (· = '\n') line.chars = [line.chars] := by
        refine splitAt_eq_singleton fun c member => decide_eq_false ?_
        rintro rfl
        exact first member
      rw [unlines, splitAt_append (by simp), whole, ih later]
      rfl

/-- Whether the lines of a group can be told apart: it has a message, and neither its path nor a
message has a line feed. -/
structure Readable (g : MessageGroup) : Prop where
  messages : g.texts ≠ []
  path : '\n' ∉ g.location.path.toList
  texts : ∀ text ∈ g.texts, '\n' ∉ text.toList

theorem digit_of_mem_line {l : Location} {c : Char} (member : c ∈ (toString l.line).toList) :
    c.isDigit = true := by
  have digits : (toString l.line).toList = Nat.toDigits 10 l.line := Nat.toList_repr
  rw [digits] at member
  exact Nat.isDigit_of_mem_toDigits (by decide) (by decide) member

theorem lineFeed_not_mem_location {l : Location} (free : '\n' ∉ l.path.toList) :
    '\n' ∉ l.text.toList := by
  rw [Location.text, String.toList_append, String.toList_append]
  simp only [List.mem_append, not_or]
  exact ⟨⟨free, by decide⟩, fun member => absurd (digit_of_mem_line member) (by decide)⟩

theorem lineFeed_not_mem_msgid {text : String} (free : '\n' ∉ text.toList) :
    '\n' ∉ (Line.msgid text).chars ∧ '\n' ∉ (Line.msgstr text).chars := by
  simpa [Line.chars] using free

theorem lineFeed_not_mem_laterLines {texts : List String}
    (free : ∀ text ∈ texts, '\n' ∉ text.toList) :
    ∀ line ∈ laterLines texts, '\n' ∉ line.chars := by
  intro line member
  obtain ⟨text, inside, member⟩ := List.mem_flatMap.mp member
  obtain ⟨msgid, msgstr⟩ := lineFeed_not_mem_msgid (free text inside)
  simp only [List.mem_cons, List.not_mem_nil, or_false] at member
  rcases member with rfl | rfl | rfl
  · exact nofun
  · exact msgid
  · exact msgstr

theorem Readable.lineFeed_not_mem {g : MessageGroup} (readable : Readable g) :
    ∀ line ∈ groupLines g, '\n' ∉ line.chars := by
  have texts := readable.texts
  rw [groupLines]
  split
  · exact nofun
  · rename_i text more shape
    rw [shape] at texts
    obtain ⟨first, later⟩ := List.forall_mem_cons.mp texts
    obtain ⟨msgid, msgstr⟩ := lineFeed_not_mem_msgid first
    have location : '\n' ∉ (Line.location g.location).chars := by
      simpa [Line.chars] using lineFeed_not_mem_location readable.path
    have blank : '\n' ∉ Line.blank.chars := nofun
    simp only [List.forall_mem_cons]
    exact ⟨blank, location, msgid, msgstr, lineFeed_not_mem_laterLines later⟩

/-- The lines of readable groups are found again in the text of their roots. -/
theorem splitAt_renderRoots {roots : List (List MessageGroup)}
    (readable : ∀ groups ∈ roots, ∀ g ∈ groups, Readable g) :
    splitAt (· = '\n') (renderRoots roots).toList =
      (roots.flatMap rootLines).map Line.chars ++ [[]] := by
  have header : ∀ line ∈ headerLines, '\n' ∉ line.chars := by decide
  rw [← unlines_renderRoots]
  refine splitAt_unlines fun line member => ?_
  obtain ⟨groups, inside, member⟩ := List.mem_flatMap.mp member
  rcases List.mem_append.mp member with first | later
  · exact header line first
  · obtain ⟨g, member, line_⟩ := List.mem_flatMap.mp later
    exact (readable groups inside g member).lineFeed_not_mem line line_

end MessageCatalog.Catalog
