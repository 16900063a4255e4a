import MessageCatalog.Proofs.Source

/-! # Reading a source line by line

A content has lines in exactly one way. Asking a source for groups again and again gives those of
its lines one after the other, each with the number of its line, up to the first line that is no
text. To collect what is left is the same as to ask until there are no more groups or one line fails.
-/

namespace MessageCatalog.Source

/-- The lines of a content: the pieces that line feeds end, each without the line feed and without
one carriage return before it, and what follows the last line feed as it is, unless nothing does. -/
inductive Lines : List UInt8 → List (List UInt8) → Prop where
  | none : Lines [] []
  | last {line : List UInt8} : line ≠ [] → lineFeed ∉ line → Lines line [line]
  | fed {line rest : List UInt8} {lines : List (List UInt8)} : lineFeed ∉ line →
      line.getLast? ≠ some carriageReturn → Lines rest lines →
      Lines (line ++ lineFeed :: rest) (line :: lines)
  | returned {line rest : List UInt8} {lines : List (List UInt8)} : lineFeed ∉ line →
      Lines rest lines → Lines (line ++ carriageReturn :: lineFeed :: rest) (line :: lines)

/-! ## Lines are taken one by one -/

theorem dropReturn_append (line : List UInt8) : dropReturn (line ++ [carriageReturn]) = line := by
  simp [dropReturn]

theorem free_append_return {line : List UInt8} (free : lineFeed ∉ line) :
    lineFeed ∉ line ++ [carriageReturn] :=
  fun member => (List.mem_append.mp member).elim free (by decide)

theorem takeLine_append {line : List UInt8} (free : lineFeed ∉ line) (rest : List UInt8) :
    takeLine (line ++ lineFeed :: rest) = some (dropReturn line, rest) := by
  have front : (line ++ lineFeed :: rest).takeWhile (· ≠ lineFeed) = line := by
    rw [List.takeWhile_append_of_pos fun b member => by simpa using ne_of_mem_of_not_mem member free]
    simp
  simp only [takeLine, front, List.drop_left]

theorem takeLine_last {line : List UInt8} (nonempty : line ≠ []) (free : lineFeed ∉ line) :
    takeLine line = some (line, []) := by
  have front : line.takeWhile (· ≠ lineFeed) = line :=
    List.takeWhile_eq_self_iff.mpr fun b member => by simpa using ne_of_mem_of_not_mem member free
  simp only [takeLine, front, List.drop_length, List.isEmpty_iff, if_neg nonempty]

theorem eq_nil_of_takeLine {bs : List UInt8} (taken : takeLine bs = none) : bs = [] := by
  simp only [takeLine] at taken
  split at taken
  · cases taken
  · split at taken
    · rename_i empty
      exact List.isEmpty_iff.mp empty
    · cases taken

theorem Lines.eq_nil {bs : List UInt8} (cut : Lines bs []) : bs = [] := by
  cases cut
  rfl

theorem Lines.exists_rest {bs line : List UInt8} {lines : List (List UInt8)}
    (cut : Lines bs (line :: lines)) :
    ∃ rest, takeLine bs = some (line, rest) ∧ Lines rest lines := by
  cases cut with
  | last nonempty free => exact ⟨[], takeLine_last nonempty free, .none⟩
  | @fed _ rest _ free solid later =>
      refine ⟨rest, ?_, later⟩
      rw [takeLine_append free, dropReturn, if_neg solid]
  | @returned _ rest _ free later =>
      have taken := takeLine_append (free_append_return free) rest
      rw [dropReturn_append, List.append_assoc] at taken
      exact ⟨rest, taken, later⟩

theorem Lines.cons {bs line rest : List UInt8} {lines : List (List UInt8)}
    (taken : takeLine bs = some (line, rest)) (later : Lines rest lines) :
    Lines bs (line :: lines) := by
  obtain ⟨front, free, rfl, rfl⟩ | ⟨nonempty, free, rfl, rfl⟩ := takeLine_cases taken
  · by_cases returns : front.getLast? = some carriageReturn
    · obtain ⟨line, rfl⟩ := List.getLast?_eq_some_iff.mp returns
      rw [dropReturn_append, List.append_assoc]
      exact .returned (fun member => free (List.mem_append_left _ member)) later
    · rw [dropReturn, if_neg returns]
      exact .fed free returns later
  · cases lines with
    | nil => exact .last nonempty free
    | cons =>
        obtain ⟨_, none, _⟩ := later.exists_rest
        cases none

theorem exists_lines (bs : List UInt8) : ∃ lines, Lines bs lines := by
  cases taken : takeLine bs with
  | none => exact ⟨[], eq_nil_of_takeLine taken ▸ .none⟩
  | some cut =>
      obtain ⟨line, rest⟩ := cut
      obtain ⟨lines, later⟩ := exists_lines rest
      exact ⟨line :: lines, later.cons taken⟩
termination_by bs.length
decreasing_by exact length_lt_of_takeLine taken

theorem Lines.unique {bs : List UInt8} {lines others : List (List UInt8)} (cut : Lines bs lines)
    (cut' : Lines bs others) : lines = others := by
  induction lines generalizing bs others with
  | nil =>
      obtain rfl := cut.eq_nil
      cases others with
      | nil => rfl
      | cons line others =>
          obtain ⟨_, taken, _⟩ := cut'.exists_rest
          cases taken
  | cons line lines ih =>
      obtain ⟨rest, taken, later⟩ := cut.exists_rest
      cases others with
      | nil =>
          obtain rfl := cut'.eq_nil
          cases taken
      | cons other others =>
          obtain ⟨_, taken', later'⟩ := cut'.exists_rest
          cases taken.symm.trans taken'
          rw [ih later later']

/-! ## Asking again and again -/

/-- The source behind so many calls. -/
def advance (s : Source) : Nat → Source
  | 0 => s
  | n + 1 => s.next.2.advance n

def call (s : Source) (n : Nat) : Except Failure (Option MessageGroup) := (s.advance n).next.1

theorem advance_add (s : Source) (m n : Nat) : s.advance (m + n) = (s.advance m).advance n := by
  induction m generalizing s with
  | zero => rw [Nat.zero_add, advance]
  | succ m ih => rw [Nat.succ_add, advance, advance, ih]

theorem call_advance (s : Source) (m n : Nat) : (s.advance m).call n = s.call (m + n) := by
  rw [call, call, advance_add]

theorem call_of_next {s s' : Source} {found : Except Failure (Option MessageGroup)}
    (next : s.next = (found, s')) : s.call 0 = found ∧ ∀ n, s.call (n + 1) = s'.call n :=
  ⟨congrArg Prod.fst next, fun n => by rw [call, advance, next, call]⟩

theorem drain_of_next {s s' : Source} {found : Except Failure (Option MessageGroup)}
    (next : s.next = (found, s')) :
    s.drain = match found with
      | .error e => ([], some e)
      | .ok none => ([], none)
      | .ok (some g) => (g :: s'.drain.1, s'.drain.2) := by
  rw [drain]
  split <;> rename_i again <;> cases next.symm.trans again <;> rfl

/-- Draining gives what the calls give, up to the first one that gives no group. -/
theorem call_of_drain (s : Source) :
    (∀ k < s.drain.1.length, s.call k = .ok s.drain.1[k]?) ∧
      s.call s.drain.1.length = s.drain.2.elim (.ok none) .error := by
  fun_induction drain s with
  | case1 s e s' fails => exact ⟨by simp, (call_of_next fails).1⟩
  | case2 s s' ends => exact ⟨by simp, (call_of_next ends).1⟩
  | case3 s g s' found groups failure rest ih =>
      obtain ⟨first, later⟩ := call_of_next found
      rw [rest] at ih
      refine ⟨fun k inside => ?_, (later groups.length).trans ih.2⟩
      cases k with
      | zero => exact first
      | succ k => exact (later k).trans (ih.1 k (Nat.lt_of_succ_lt_succ inside))

theorem drain_of_calls {s : Source} {groups : List MessageGroup} {failure : Option Failure}
    (before : ∀ k < groups.length, s.call k = .ok groups[k]?)
    (last : s.call groups.length = failure.elim (.ok none) .error) :
    s.drain = (groups, failure) := by
  induction groups generalizing s with
  | nil =>
      rcases next : s.next with ⟨found, s'⟩
      cases (call_of_next next).1.symm.trans last
      cases failure <;> exact drain_of_next next
  | cons g groups ih =>
      rcases next : s.next with ⟨found, s'⟩
      obtain ⟨first, later⟩ := call_of_next next
      cases first.symm.trans (before 0 (Nat.succ_pos _))
      have before' : ∀ k < groups.length, s'.call k = .ok groups[k]? := fun k inside =>
        (later k).symm.trans (before (k + 1) (Nat.succ_lt_succ inside))
      have behind := ih before' ((later _).symm.trans last)
      simp only [drain_of_next next, List.getElem?_cons_zero, behind]

/-- To collect is to ask until there are no more groups. -/
theorem collect_eq_ok_iff {s : Source} {groups : List MessageGroup} :
    s.collect = .ok groups ↔ ∀ k ≤ groups.length, s.call k = .ok groups[k]? := by
  constructor
  · intro collected k inside
    obtain ⟨before, last⟩ := call_of_drain s
    rw [collect] at collected
    split at collected <;> cases collected
    rename_i drained
    rw [drained] at before last
    rcases Nat.lt_or_eq_of_le inside with inside | rfl
    · exact before k inside
    · rw [List.getElem?_eq_none (Nat.le_refl _)]
      exact last
  · intro calls
    have last := calls groups.length (Nat.le_refl _)
    rw [List.getElem?_eq_none (Nat.le_refl _)] at last
    have drained : s.drain = (groups, none) :=
      drain_of_calls (fun k inside => calls k (Nat.le_of_lt inside)) last
    rw [collect, drained]

theorem collect_eq_error_iff {s : Source} {e : Failure} :
    s.collect = .error e ↔ ∃ groups : List MessageGroup,
      (∀ k < groups.length, s.call k = .ok groups[k]?) ∧ s.call groups.length = .error e := by
  constructor
  · intro collected
    obtain ⟨before, last⟩ := call_of_drain s
    rw [collect] at collected
    split at collected <;> cases collected
    rename_i drained
    rw [drained] at before last
    exact ⟨_, before, last⟩
  · rintro ⟨groups, before, last⟩
    have drained : s.drain = (groups, some e) := drain_of_calls before last
    rw [collect, drained]

/-! ## The groups of lines -/

/-- The group of a line, if there are literals in it. -/
def groupAt (rules : Rules) (path line : String) (number : Nat) : Option MessageGroup :=
  let literals := rules.matcher.literals line
  if literals.isEmpty then none
  else some ⟨⟨rules.displayPath path, number⟩, literals.map Literal.normalized⟩

/-- The groups of lines, of which the first one has some number. -/
def groupsFrom (rules : Rules) (path : String) (first : Nat) (lines : List String) :
    List MessageGroup :=
  (lines.zipIdx first).filterMap fun (line, number) => groupAt rules path line number

/-- Whether a source gives some groups one after the other and then reads on as another one. -/
inductive Yields : Source → List MessageGroup → Source → Prop where
  | nil {s s' : Source} : s.next = s'.next → Yields s [] s'
  | cons {s s' s'' : Source} {g : MessageGroup} {groups : List MessageGroup} :
      s.next = (.ok (some g), s') → Yields s' groups s'' → Yields s (g :: groups) s''

theorem Yields.skip {s s' s'' : Source} {groups : List MessageGroup} (same : s.next = s'.next)
    (yields : Yields s' groups s'') : Yields s groups s'' := by
  cases yields with
  | nil same' => exact .nil (same.trans same')
  | cons found later => exact .cons (same.trans found) later

theorem Yields.call {s s' : Source} {groups : List MessageGroup} (yields : Yields s groups s')
    {k : Nat} {g : MessageGroup} (inside : groups[k]? = some g) :
    s.call k = .ok (some g) ∧ (s.advance (k + 1)).linesRead = g.location.line := by
  induction yields generalizing k with
  | nil => cases inside
  | @cons s mid _ g' groups found _ ih =>
      obtain ⟨first, later⟩ := call_of_next found
      cases k with
      | zero =>
          cases inside
          refine ⟨first, ?_⟩
          rw [advance, advance, found]
          exact (fromLine_of_next found).2.2.2
      | succ k =>
          rw [later, advance, found]
          exact ih inside

theorem advance_congr {s s' : Source} (same : s.next = s'.next) (n : Nat) :
    s.advance (n + 1) = s'.advance (n + 1) := by
  rw [advance, advance, same]

theorem call_congr {s s' : Source} (same : s.next = s'.next) (n : Nat) : s.call n = s'.call n := by
  cases n with
  | zero => exact congrArg Prod.fst same
  | succ n => rw [call, call, advance_congr same]

/-- Behind the groups all is as in the other source. -/
theorem Yields.behind {s s' : Source} {groups : List MessageGroup} (yields : Yields s groups s')
    (n : Nat) : s.call (groups.length + n) = s'.call n ∧
      s.advance (groups.length + n + 1) = s'.advance (n + 1) := by
  induction yields with
  | @nil s s' same =>
      rw [List.length_nil, Nat.zero_add]
      exact ⟨call_congr same n, advance_congr same n⟩
  | @cons s mid s' g groups found _ ih =>
      obtain ⟨_, later⟩ := call_of_next found
      rw [List.length_cons, Nat.succ_add, later, advance, found]
      exact ih

theorem groupsFrom_cons (rules : Rules) (path line : String) (first : Nat) (lines : List String) :
    groupsFrom rules path first (line :: lines) =
      (groupAt rules path line first).toList ++ groupsFrom rules path (first + 1) lines := by
  simp only [groupsFrom, List.zipIdx_cons, List.filterMap_cons]
  cases groupAt rules path line first <;> rfl

theorem next_of_isText {s : Source} {line : String} {rest : List UInt8}
    (taken : takeLine s.rest = some (Utf8.bytes line, rest)) :
    s.next = match groupAt s.rules s.path line (s.linesRead + 1) with
      | none => { s with rest := rest, linesRead := s.linesRead + 1 }.next
      | some g => (.ok (some g), { s with rest := rest, linesRead := s.linesRead + 1 }) := by
  rw [next_of_takeLine taken]
  simp only [Utf8.decode_bytes, texts, String.ofList_toList, groupAt]
  cases s.rules.matcher.literals line <;> rfl

theorem next_of_not_isText {s : Source} {line rest : List UInt8}
    (taken : takeLine s.rest = some (line, rest)) (noText : ¬ IsText line) :
    ∃ e, s.next = (.error (.read s.path (.line e)), { s with rest := rest }) := by
  rw [next_of_takeLine taken]
  cases decoded : Utf8.decode line with
  | ok cs => exact absurd ⟨cs, (Utf8.encode_of_decode decoded).symm⟩ noText
  | error e => exact ⟨e, rfl⟩

/-- The groups of lines that are texts are given before all that is behind them. -/
theorem exists_yields {lines : List String} {behind : List (List UInt8)} {s : Source}
    (cut : Lines s.rest (lines.map Utf8.bytes ++ behind)) :
    ∃ rest, Lines rest behind ∧ Yields s (groupsFrom s.rules s.path (s.linesRead + 1) lines)
      { s with rest := rest, linesRead := s.linesRead + lines.length } := by
  induction lines generalizing s with
  | nil => exact ⟨s.rest, cut, .nil rfl⟩
  | cons line lines ih =>
      obtain ⟨rest, taken, later⟩ := cut.exists_rest
      obtain ⟨last, cut', yields⟩ :=
        @ih { s with rest := rest, linesRead := s.linesRead + 1 } later
      refine ⟨last, cut', ?_⟩
      have found := next_of_isText taken
      rw [groupsFrom_cons, List.length_cons, Nat.add_comm lines.length, ← Nat.add_assoc]
      cases group : groupAt s.rules s.path line (s.linesRead + 1) with
      | none => exact yields.skip (by rw [found, group])
      | some g => exact .cons (by rw [found, group]) yields

/-- Whether a source gives some groups and then no more, with so many lines read at the end. -/
structure Gives (s : Source) (groups : List MessageGroup) (read : Nat) : Prop where
  call : ∀ i, s.call i = .ok groups[i]?
  linesRead : ∀ i, (s.advance (i + 1)).linesRead = (groups[i]?.map (·.location.line)).getD read
  collect : ∀ i, (s.advance i).collect = .ok (groups.drop i)

/-- Whether a source gives some groups and then fails, with so many lines read until then. -/
structure Breaks (s : Source) (groups : List MessageGroup) (read : Nat) (e : Failure) : Prop where
  call : ∀ i < groups.length, s.call i = .ok groups[i]?
  fails : s.call groups.length = .error e
  linesRead : ∀ i ≤ groups.length,
    (s.advance (i + 1)).linesRead = (groups[i]?.map (·.location.line)).getD read
  collect : ∀ i ≤ groups.length, (s.advance i).collect = .error e

theorem Yields.call_getElem? {s s' : Source} {groups : List MessageGroup}
    (yields : Yields s groups s') {i : Nat} (inside : i < groups.length) :
    s.call i = .ok groups[i]? ∧
      ∀ read, (s.advance (i + 1)).linesRead = (groups[i]?.map (·.location.line)).getD read := by
  rw [List.getElem?_eq_getElem inside]
  obtain ⟨found, read⟩ := yields.call (List.getElem?_eq_getElem inside)
  exact ⟨found, fun _ => read⟩

theorem advance_of_next_none {s : Source} (ends : s.next = (.ok none, s)) (n : Nat) :
    s.advance n = s := by
  induction n with
  | zero => rfl
  | succ n ih => rw [advance, ends, ih]

theorem Yields.gives {s s' : Source} {groups : List MessageGroup} (yields : Yields s groups s')
    (ends : s'.rest = []) : s.Gives groups s'.linesRead := by
  have last := next_of_takeLine_none ((congrArg takeLine ends).trans rfl)
  have call : ∀ i, s.call i = .ok groups[i]? := fun i => by
    rcases Nat.lt_or_ge i groups.length with inside | outside
    · exact (yields.call_getElem? inside).1
    · obtain ⟨n, rfl⟩ := Nat.exists_eq_add_of_le outside
      rw [(yields.behind n).1, Source.call, advance_of_next_none last, last,
        List.getElem?_eq_none outside]
  refine ⟨call, fun i => ?_, fun i => ?_⟩
  · rcases Nat.lt_or_ge i groups.length with inside | outside
    · exact (yields.call_getElem? inside).2 _
    · obtain ⟨n, rfl⟩ := Nat.exists_eq_add_of_le outside
      rw [(yields.behind n).2, advance_of_next_none last, List.getElem?_eq_none outside]
      rfl
  · refine collect_eq_ok_iff.mpr fun k _ => ?_
    rw [call_advance, call, List.getElem?_drop]

theorem Yields.breaks {s s' after : Source} {groups : List MessageGroup} {e : Failure}
    (yields : Yields s groups s') (fails : s'.next = (.error e, after)) :
    s.Breaks groups after.linesRead e ∧ s.advance (groups.length + 1) = after := by
  have call : ∀ i < groups.length, s.call i = .ok groups[i]? := fun i inside =>
    (yields.call_getElem? inside).1
  have broken : s.call groups.length = .error e :=
    ((yields.behind 0).1).trans (call_of_next fails).1
  have stands : s.advance (groups.length + 1) = after := by
    rw [(yields.behind 0).2, advance, advance, fails]
  refine ⟨⟨call, broken, fun i inside => ?_, fun i inside => ?_⟩, stands⟩
  · rcases Nat.lt_or_eq_of_le inside with inside | rfl
    · exact (yields.call_getElem? inside).2 _
    · rw [stands, List.getElem?_eq_none (Nat.le_refl _)]
      rfl
  · refine collect_eq_error_iff.mpr ⟨groups.drop i, fun k more => ?_, ?_⟩
    · rw [List.length_drop] at more
      rw [call_advance, call _ (by omega), List.getElem?_drop]
    · rw [List.length_drop, call_advance, Nat.add_sub_cancel' inside, broken]

/-- A source gives the groups of its lines, up to the first line that is no text. Such a line fails
and is not counted, and reading goes on behind it. To collect is to ask again and again, wherever the
source stands. -/
theorem reads_lines (rules : Rules) (path : String) (content : List UInt8) :
    (∃! pieces, Lines content pieces) ∧
      (∀ lines : List String, Lines content (lines.map Utf8.bytes) →
        (ofBytes rules path content).Gives (groupsFrom rules path 1 lines) lines.length) ∧
      (∀ (lines : List String) (bad : List UInt8) (behind : List (List UInt8)),
        Lines content (lines.map Utf8.bytes ++ bad :: behind) → ¬ IsText bad →
          ∃ e rest, (ofBytes rules path content).Breaks (groupsFrom rules path 1 lines) lines.length
              (.read path (.line e)) ∧
            (ofBytes rules path content).advance ((groupsFrom rules path 1 lines).length + 1) =
              ⟨rules, path, rest, lines.length⟩ ∧ Lines rest behind) ∧
      ∀ i, let s := (ofBytes rules path content).advance i
        (∀ groups, s.collect = .ok groups ↔ ∀ k ≤ groups.length, s.call k = .ok groups[k]?) ∧
        ∀ e, s.collect = .error e ↔ ∃ groups : List MessageGroup,
          (∀ k < groups.length, s.call k = .ok groups[k]?) ∧ s.call groups.length = .error e := by
  refine ⟨?_, fun lines cut => ?_, fun lines bad behind cut noText => ?_, fun i =>
    ⟨fun _ => collect_eq_ok_iff, fun _ => collect_eq_error_iff⟩⟩
  · obtain ⟨pieces, cut⟩ := exists_lines content
    exact ⟨pieces, cut, fun _ other => other.unique cut⟩
  · rw [← List.append_nil (lines.map _)] at cut
    obtain ⟨rest, ends, yields⟩ := exists_yields (s := ofBytes rules path content) cut
    rw [← Nat.zero_add lines.length]
    exact yields.gives ends.eq_nil
  · obtain ⟨rest, cut', yields⟩ := exists_yields (s := ofBytes rules path content) cut
    obtain ⟨last, taken, later⟩ := cut'.exists_rest
    obtain ⟨e, fails⟩ :=
      next_of_not_isText (s := ⟨rules, path, rest, 0 + lines.length⟩) taken noText
    obtain ⟨breaks, stands⟩ := yields.breaks fails
    rw [Nat.zero_add] at breaks stands
    exact ⟨e, last, breaks, stands, later⟩

/-- The lines end in different ways, one of them has no literals, and one that is no text follows. -/
theorem reads_lines_until_broken :
    let rules : Rules := ⟨.call "t", .default, "/project"⟩
    let groups := [⟨⟨"a.js", 1⟩, ["\"one\""]⟩, ⟨⟨"a.js", 3⟩, ["\"two\"", "\"three\""]⟩]
    let content := Utf8.bytes "t('one')\r\n\nt('two') t('three')\n"
    (ofBytes rules "/project/a.js" content).Gives groups 3 ∧
      ∃ e, (ofBytes rules "/project/a.js" (content ++ [0xFF])).Breaks groups 3
        (.read "/project/a.js" (.line e)) := by
  intro rules groups content
  let lines := ["t('one')", "", "t('two') t('three')"]
  have found : groupsFrom rules "/project/a.js" 1 lines = groups := by decide +kernel
  have cut : ∀ {rest : List UInt8} {pieces : List (List UInt8)}, Lines rest pieces →
      Lines (content ++ rest) (lines.map Utf8.bytes ++ pieces) := fun later =>
    @Lines.returned (Utf8.bytes "t('one')") _ _ (by decide)
      (@Lines.fed [] _ _ (by decide) (by decide)
        (@Lines.fed (Utf8.bytes "t('two') t('three')") _ _ (by decide) (by decide) later))
  have noText : ¬ IsText [0xFF] := by
    rintro ⟨cs, same⟩
    have fails : (Utf8.decode [0xFF]).toOption = none := by decide +kernel
    rw [same, Utf8.decode, Utf8.decodeFrom_encode] at fails
    cases fails
  obtain ⟨_, gives, _⟩ := reads_lines rules "/project/a.js" content
  obtain ⟨_, _, breaks, _⟩ := reads_lines rules "/project/a.js" (content ++ [0xFF])
  obtain ⟨e, _, broken, _⟩ := breaks lines [0xFF] [] (cut (.last (by decide) (by decide))) noText
  exact ⟨found ▸ gives lines (by simpa using cut .none), e, found ▸ broken⟩

end MessageCatalog.Source
