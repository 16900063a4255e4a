import MessageCatalog.Proofs.Utf8
import MessageCatalog.Source

/-! # What sources give

Every group of a source comes from one of its lines: it has the messages of that line and is shown
at its number. The numbers grow, as the lines are read one after the other. The lines of a text are
texts, so that all of it is read.
-/

namespace MessageCatalog

/-- Whether a group comes from a line of the source at `path`, behind the first `read` lines. -/
structure MessageGroup.FromLine (rules : Rules) (path : String) (read : Nat) (g : MessageGroup) :
    Prop where
  texts : ∃ line, '\n' ∉ line ∧ g.texts = Source.texts rules line
  messages : g.texts ≠ []
  path : g.location.path = rules.displayPath path
  line : read < g.location.line

namespace Source

theorem mem_of_mem_dropReturn {b : UInt8} {line : List UInt8} (member : b ∈ dropReturn line) :
    b ∈ line := by
  unfold dropReturn at member
  split at member
  · exact List.mem_of_mem_dropLast member
  · exact member

theorem lineFeed_not_mem_takeWhile (bs : List UInt8) : lineFeed ∉ bs.takeWhile (· ≠ lineFeed) :=
  fun member => by simpa using List.all_eq_true.mp List.all_takeWhile lineFeed member

theorem split_of_drop {bs more : List UInt8} {b : UInt8}
    (behind : bs.drop (bs.takeWhile (· ≠ lineFeed)).length = b :: more) :
    b = lineFeed ∧ bs = bs.takeWhile (· ≠ lineFeed) ++ b :: more := by
  have split := List.takeWhile_append_dropWhile (p := (· ≠ lineFeed)) (l := bs)
  have rest : bs.dropWhile (· ≠ lineFeed) = b :: more :=
    (List.drop_left.symm.trans (congrArg (List.drop _) split)).trans behind
  have stops := List.head?_dropWhile_not (· ≠ lineFeed) bs
  rw [rest] at stops split
  exact ⟨by simpa using stops, split.symm⟩

/-- A line is what stands before the first line feed, without a return, or all that is left. -/
theorem takeLine_cases {bs line rest : List UInt8} (taken : takeLine bs = some (line, rest)) :
    (∃ front, lineFeed ∉ front ∧ bs = front ++ lineFeed :: rest ∧ line = dropReturn front) ∨
      (line ≠ [] ∧ lineFeed ∉ line ∧ bs = line ∧ rest = []) := by
  have free := lineFeed_not_mem_takeWhile bs
  simp only [takeLine] at taken
  split at taken
  · rename_i behind
    cases taken
    obtain ⟨rfl, split⟩ := split_of_drop behind
    exact .inl ⟨_, free, split, rfl⟩
  · rename_i whole
    split at taken
    · cases taken
    · rename_i nonempty
      cases taken
      -- Without a line feed the whole text is the line.
      have all : bs.takeWhile (· ≠ lineFeed) = bs :=
        (List.takeWhile_prefix _).eq_of_length_le (List.drop_eq_nil_iff.mp whole)
      rw [all] at free
      exact .inr ⟨by simpa using nonempty, free, rfl, rfl⟩

theorem lineFeed_not_mem_of_takeLine {bs line rest : List UInt8}
    (taken : takeLine bs = some (line, rest)) : lineFeed ∉ line := by
  obtain ⟨front, free, _, rfl⟩ | ⟨_, free, _⟩ := takeLine_cases taken
  · exact fun member => free (mem_of_mem_dropReturn member)
  · exact free

theorem lineFeed_not_mem_of_decode {line : List UInt8} {cs : List Char}
    (decoded : Utf8.decode line = .ok cs) (free : lineFeed ∉ line) : '\n' ∉ cs := by
  intro member
  refine free ?_
  rw [← Utf8.encode_of_decode decoded]
  exact List.mem_flatMap.mpr ⟨'\n', member, by decide⟩

theorem next_of_takeLine_none {s : Source} (none : takeLine s.rest = none) :
    s.next = (.ok .none, s) := by
  rw [next]
  split <;> rename_i again <;> cases none.symm.trans again
  rfl

theorem next_of_takeLine {s : Source} {line rest : List UInt8}
    (taken : takeLine s.rest = some (line, rest)) :
    s.next = match Utf8.decode line with
      | .error e => (.error (.read s.path (.line e)), { s with rest := rest })
      | .ok cs =>
        match texts s.rules cs with
        | [] => { s with rest := rest, linesRead := s.linesRead + 1 }.next
        | text :: more => (.ok (some ⟨⟨s.rules.displayPath s.path, s.linesRead + 1⟩, text :: more⟩),
            { s with rest := rest, linesRead := s.linesRead + 1 }) := by
  rw [next]
  split <;> rename_i again <;> cases taken.symm.trans again
  rfl

/-- Reading on gives a group of a further line, and the source stands right behind that line. -/
theorem fromLine_of_next {s s' : Source} {g : MessageGroup} (found : s.next = (.ok (some g), s')) :
    g.FromLine s.rules s.path s.linesRead ∧ s'.rules = s.rules ∧ s'.path = s.path ∧
      s'.linesRead = g.location.line := by
  fun_induction next s with
  | case1 => cases found
  | case2 => cases found
  | case3 s line rest taken cs decoded number none ih =>
      obtain ⟨from_, same⟩ := ih found
      exact ⟨{ from_ with line := Nat.lt_of_succ_lt from_.line }, same⟩
  | case4 s line rest taken cs decoded number text more texts =>
      cases found
      have free := lineFeed_not_mem_of_decode decoded (lineFeed_not_mem_of_takeLine taken)
      exact ⟨⟨⟨cs, free, texts.symm⟩, by simp, rfl, Nat.lt_succ_self _⟩, rfl, rfl, rfl⟩

theorem fromLine_of_mem_drain {s : Source} :
    ∀ g ∈ s.drain.1, g.FromLine s.rules s.path s.linesRead := by
  fun_induction drain s with
  | case1 => exact nofun
  | case2 => exact nofun
  | case3 s g s' found groups failure rest ih =>
      obtain ⟨from_, rules, path, read⟩ := fromLine_of_next found
      rw [rest, rules, path, read] at ih
      refine List.forall_mem_cons.mpr ⟨from_, fun later member => ?_⟩
      have behind := ih later member
      exact { behind with line := from_.line.trans behind.line }

/-- The groups of a source stand in the order of their lines. -/
theorem pairwise_drain (s : Source) :
    s.drain.1.Pairwise fun a b => a.location.line < b.location.line := by
  fun_induction drain s with
  | case1 => exact .nil
  | case2 => exact .nil
  | case3 s g s' found groups failure rest ih =>
      obtain ⟨_, _, _, read⟩ := fromLine_of_next found
      have behind := fromLine_of_mem_drain (s := s')
      rw [rest, read] at behind
      rw [rest] at ih
      exact .cons (fun later member => (behind later member).line) ih

/-- The path of a source plays a part in how its groups are shown alone. -/
theorem next_of_shown {s s' : Source} {g : Option MessageGroup} {path : String}
    (shown : s.rules.displayPath path = s.rules.displayPath s.path)
    (found : s.next = (.ok g, s')) :
    { s with path := path }.next = (.ok g, { s' with path := path }) := by
  fun_induction next s with
  | case1 s none =>
      cases found
      exact next_of_takeLine_none none
  | case2 => cases found
  | case3 s line rest taken cs decoded number none ih =>
      refine (next_of_takeLine (s := { s with path := path }) taken).trans ?_
      simp only [decoded, none]
      exact ih shown found
  | case4 s line rest taken cs decoded number text more texts =>
      cases found
      refine (next_of_takeLine (s := { s with path := path }) taken).trans ?_
      simp only [decoded, texts, shown, number]

theorem drain_of_shown {s : Source} {groups : List MessageGroup} {path : String}
    (shown : s.rules.displayPath path = s.rules.displayPath s.path)
    (read : s.drain = (groups, none)) : { s with path := path }.drain = (groups, none) := by
  fun_induction drain s generalizing groups with
  | case1 => cases read
  | case2 s s' found =>
      cases read
      rw [drain]
      split <;> rename_i again <;> cases (next_of_shown shown found).symm.trans again
      rfl
  | case3 s g s' found more failure rest ih =>
      cases read
      obtain ⟨_, rules, place, _⟩ := fromLine_of_next found
      have shown' : s'.rules.displayPath path = s'.rules.displayPath s'.path := by
        rw [rules, place, shown]
      rw [drain]
      split <;> rename_i again <;> cases (next_of_shown shown found).symm.trans again
      rw [ih shown' rest]

/-! ## Texts -/

def IsText (bs : List UInt8) : Prop := ∃ cs, bs = Utf8.encode cs

theorem isText_dropReturn {line : List UInt8} (text : IsText line) : IsText (dropReturn line) := by
  obtain ⟨cs, rfl⟩ := text
  unfold dropReturn
  split
  · rename_i last
    have split := (List.dropLast_append_getLast? _ last).symm
    obtain ⟨front, _, _, before, _⟩ := Utf8.exists_split (by decide) split
    exact ⟨front, before⟩
  · exact ⟨cs, rfl⟩

/-- A text is cut into texts: no character is cut through at a line feed. -/
theorem isText_of_takeLine {bs line rest : List UInt8} (text : IsText bs)
    (taken : takeLine bs = some (line, rest)) : IsText line ∧ IsText rest := by
  obtain ⟨before, _, split, rfl⟩ | ⟨_, _, rfl, rfl⟩ := takeLine_cases taken
  · obtain ⟨cs, rfl⟩ := text
    obtain ⟨front, back, _, rfl, rfl⟩ := Utf8.exists_split (by decide) split
    exact ⟨isText_dropReturn ⟨front, rfl⟩, back, rfl⟩
  · exact ⟨text, [], rfl⟩

theorem exists_next_of_isText {s : Source} (text : IsText s.rest) :
    ∃ found s', s.next = (.ok found, s') ∧ IsText s'.rest := by
  fun_induction next s with
  | case1 s => exact ⟨none, s, rfl, text⟩
  | case2 s line rest taken e fails =>
      obtain ⟨⟨cs, rfl⟩, _⟩ := isText_of_takeLine text taken
      cases fails.symm.trans (Utf8.decodeFrom_encode 0 cs)
  | case3 s line rest taken cs decoded number none ih => exact ih (isText_of_takeLine text taken).2
  | case4 s line rest taken cs decoded number first more texts =>
      exact ⟨_, _, rfl, (isText_of_takeLine text taken).2⟩

theorem drain_of_isText {s : Source} (text : IsText s.rest) : s.drain.2 = none := by
  fun_induction drain s with
  | case1 s e s' fails =>
      obtain ⟨_, _, found, _⟩ := exists_next_of_isText text
      cases fails.symm.trans found
  | case2 => rfl
  | case3 s g s' found groups failure rest ih =>
      obtain ⟨_, _, next, later⟩ := exists_next_of_isText text
      cases found.symm.trans next
      rw [rest] at ih
      exact ih later

theorem drain_ofBytes (rules : Rules) (path text : String) :
    (ofBytes rules path (Utf8.bytes text)).drain.2 = none :=
  drain_of_isText ⟨text.toList, rfl⟩

end Source

end MessageCatalog
