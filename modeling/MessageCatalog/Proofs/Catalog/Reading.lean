import MessageCatalog.Proofs.Catalog.Lines

/-! # Reading a catalog again

Nothing in a catalog says how long its parts are. Still its text determines the roots, their groups
and all messages, if no path and no message has a line feed: `Reading.ofLines` reads them from the
lines, beginning with the last one.
-/

namespace MessageCatalog.Catalog

/-! ## Lines are told apart -/

theorem eq_of_append_cons {α : Type} {c : α} {a a' b b' : List α} (last : c ∉ b) (last' : c ∉ b')
    (same : a ++ c :: b = a' ++ c :: b') : a = a' ∧ b = b' := by
  rcases List.append_eq_append_iff.mp same with ⟨between, rfl, rest⟩ | ⟨between, rfl, rest⟩
  · cases between with
    | nil => exact ⟨(List.append_nil a).symm, (List.cons.inj rest).2⟩
    | cons d between =>
        obtain ⟨rfl, rfl⟩ := List.cons.inj rest
        exact absurd (List.mem_append_right between List.mem_cons_self) last
  · cases between with
    | nil => exact ⟨List.append_nil a', (List.cons.inj rest).2.symm⟩
    | cons d between =>
        obtain ⟨rfl, rfl⟩ := List.cons.inj rest
        exact absurd (List.mem_append_right between List.mem_cons_self) last'

/-- The last colon of a location stands before its line number. -/
theorem location_text_injective : Function.Injective Location.text := by
  intro a b same
  have chars := congrArg String.toList same
  simp only [Location.text, String.toList_append, List.append_assoc] at chars
  have free (l : Location) : ':' ∉ (toString l.line).toList := fun member =>
    absurd (digit_of_mem_line member) (by decide)
  obtain ⟨path, digits⟩ := eq_of_append_cons (free a) (free b) chars
  have line := Nat.repr_inj.mp (String.toList_inj.mp digits)
  exact Location.mk.injEq .. ▸ ⟨String.toList_inj.mp path, line⟩

theorem Line.chars_injective : Function.Injective Line.chars := by
  intro a b same
  -- Lines of different kinds differ in their first characters.
  cases a <;> cases b <;> simp [Line.chars, String.toList_inj] at same ⊢
  case location.location => exact location_text_injective same
  case msgid.msgid => exact same
  case msgstr.msgstr => exact same

/-! ## Lines are read -/

/-- What lines say: the messages that go on with the group of the line before, the groups behind
them that go on with its root, and the roots behind these. -/
structure Reading where
  texts : List String
  groups : List MessageGroup
  roots : List (List MessageGroup)
  deriving Repr, DecidableEq

namespace Reading

/-- Read lines. A header begins a root, and a location begins a group. -/
def ofLines : List Line → Reading
  | .flag :: .msgid _ :: .msgstr _ :: .contentType :: lines =>
    let later := ofLines lines
    ⟨[], [], later.groups :: later.roots⟩
  | .blank :: .location l :: .msgid text :: .msgstr _ :: lines =>
    let later := ofLines lines
    ⟨[], ⟨l, text :: later.texts⟩ :: later.groups, later.roots⟩
  | .blank :: .msgid text :: .msgstr _ :: lines =>
    let later := ofLines lines
    ⟨text :: later.texts, later.groups, later.roots⟩
  | _ => ⟨[], [], []⟩

theorem ofLines_laterLines (texts : List String) (lines : List Line) :
    ofLines (laterLines texts ++ lines) =
      { ofLines lines with texts := texts ++ (ofLines lines).texts } := by
  induction texts with
  | nil => rfl
  | cons text texts ih =>
      rw [laterLines, List.flatMap_cons, List.append_assoc, ← laterLines]
      simp only [List.cons_append, List.nil_append, ofLines, ih]

theorem ofLines_groupLines {g : MessageGroup} (messages : g.texts ≠ []) {lines : List Line}
    (ends : (ofLines lines).texts = []) :
    ofLines (groupLines g ++ lines) =
      ⟨[], g :: (ofLines lines).groups, (ofLines lines).roots⟩ := by
  obtain ⟨location, texts⟩ := g
  cases texts with
  | nil => exact absurd rfl messages
  | cons text texts =>
      simp only [groupLines, List.cons_append, ofLines, ofLines_laterLines, ends, List.append_nil]

theorem ofLines_groups {groups : List MessageGroup} (messages : ∀ g ∈ groups, g.texts ≠ [])
    {lines : List Line} (ends : (ofLines lines).texts = []) :
    ofLines (groups.flatMap groupLines ++ lines) =
      ⟨[], groups ++ (ofLines lines).groups, (ofLines lines).roots⟩ := by
  induction groups with
  | nil =>
      rw [List.flatMap_nil, List.nil_append, List.nil_append, ← ends]
  | cons g groups ih =>
      obtain ⟨first, later⟩ := List.forall_mem_cons.mp messages
      rw [List.flatMap_cons, List.append_assoc, ofLines_groupLines first (by rw [ih later]),
        ih later]
      rfl

theorem ofLines_rootLines {roots : List (List MessageGroup)}
    (messages : ∀ groups ∈ roots, ∀ g ∈ groups, g.texts ≠ []) :
    ofLines (roots.flatMap rootLines) = ⟨[], [], roots⟩ := by
  induction roots with
  | nil => rfl
  | cons groups roots ih =>
      obtain ⟨first, later⟩ := List.forall_mem_cons.mp messages
      have ends : (ofLines (roots.flatMap rootLines)).texts = [] := by rw [ih later]
      have inner := ofLines_groups first ends
      rw [ih later, List.append_nil] at inner
      rw [List.flatMap_cons, rootLines, List.append_assoc]
      simp only [headerLines, List.cons_append, List.nil_append, ofLines, inner]

end Reading

/-- The text of roots determines their lines. -/
theorem rootLines_eq_of_renderRoots {roots others : List (List MessageGroup)}
    (readable : ∀ groups ∈ roots, ∀ g ∈ groups, Readable g)
    (readable' : ∀ groups ∈ others, ∀ g ∈ groups, Readable g)
    (same : renderRoots roots = renderRoots others) :
    roots.flatMap rootLines = others.flatMap rootLines := by
  have parts := congrArg (fun text : String => splitAt (· = '\n') text.toList) same
  simp only [splitAt_renderRoots readable, splitAt_renderRoots readable'] at parts
  exact List.map_injective_iff.mpr Line.chars_injective (List.append_cancel_right parts)

/-- The text of a catalog determines its roots, their groups and all that is in them, if every group
has a message and neither paths nor messages have line feeds. -/
theorem renderRoots_inj {roots others : List (List MessageGroup)}
    (readable : ∀ groups ∈ roots, ∀ g ∈ groups, Readable g)
    (readable' : ∀ groups ∈ others, ∀ g ∈ groups, Readable g) :
    renderRoots roots = renderRoots others ↔ roots = others := by
  refine ⟨fun same => ?_, fun same => same ▸ rfl⟩
  have read := congrArg Reading.ofLines (rootLines_eq_of_renderRoots readable readable' same)
  have messages : ∀ groups ∈ roots, ∀ g ∈ groups, g.texts ≠ [] :=
    fun groups member g inside => (readable groups member g inside).messages
  have messages' : ∀ groups ∈ others, ∀ g ∈ groups, g.texts ≠ [] :=
    fun groups member g inside => (readable' groups member g inside).messages
  rw [Reading.ofLines_rootLines messages, Reading.ofLines_rootLines messages'] at read
  exact (Reading.mk.inj read).2.2

/-- Two roots, of which the second one is empty, and a root with two groups. Paths and messages look
like other parts of a catalog. -/
theorem renderRoots_inj_alike :
    let group (path : String) (texts : List String) : MessageGroup := ⟨⟨path, 1⟩, texts⟩
    let roots := [[group "a:1" ["msgid \"\"", "#: a:1:1"]], []]
    let others := [[group "a:1" ["msgid \"\""], group "a" ["#: a:1:1"]]]
    (∀ groups ∈ roots, ∀ g ∈ groups, Readable g) ∧ (∀ groups ∈ others, ∀ g ∈ groups, Readable g) ∧
      renderRoots roots ≠ renderRoots others := by
  intro group roots others
  have readable : ∀ groups ∈ roots, ∀ g ∈ groups, Readable g := by
    simp only [roots, group, List.forall_mem_cons]
    exact ⟨⟨⟨by decide, by decide, by decide⟩, nofun⟩, nofun, nofun⟩
  have readable' : ∀ groups ∈ others, ∀ g ∈ groups, Readable g := by
    simp only [others, group, List.forall_mem_cons]
    exact ⟨⟨⟨by decide, by decide, by decide⟩, ⟨by decide, by decide, by decide⟩, nofun⟩, nofun⟩
  refine ⟨readable, readable', fun same => ?_⟩
  exact absurd ((renderRoots_inj readable readable').mp same) (by decide)

end MessageCatalog.Catalog
