import MessageCatalog.Proofs.Call.LineEnd
import MessageCatalog.Proofs.Source.Lines
import MessageCatalog.Proofs.Utf8.Followed

/-! # Returns before line feeds

A return before a line feed is no part of the line, unless another one stood there before. Then it
is a blank at the end of the line, which changes no literal. A line that is no text fails with it as
it does without it, and at the same place; but a character that the end of the line breaks off is
malformed if a return follows.
-/

namespace MessageCatalog.Source

/-- Whether a content becomes another one if a return is put before some of its line feeds. -/
inductive Returned : List UInt8 → List UInt8 → Prop where
  | nil : Returned [] []
  | keep (b : UInt8) {bs bs' : List UInt8} : Returned bs bs' → Returned (b :: bs) (b :: bs')
  | put {bs bs' : List UInt8} : Returned bs bs' →
      Returned (lineFeed :: bs) (carriageReturn :: lineFeed :: bs')

/-- Whether a content has a line with a return and a line feed behind it, and then some rest. -/
inductive EndsInReturn : List UInt8 → List UInt8 → List UInt8 → Prop where
  | here {line rest : List UInt8} : lineFeed ∉ line →
      EndsInReturn (line ++ carriageReturn :: lineFeed :: rest) line rest
  | later {other bs line rest : List UInt8} : lineFeed ∉ other → EndsInReturn bs line rest →
      EndsInReturn (other ++ lineFeed :: bs) line rest

/-- Whether an outcome is as another one, behind which a source has some rest of its content left.
If the line before the rest ends in a return and is broken off inside a character, it is enough that
both fail there at the same place. -/
inductive Alike {α : Type} (content rest : List UInt8) :
    Except Failure α → Except Failure α → Prop where
  | same (outcome : Except Failure α) : Alike content rest outcome outcome
  | brokenOff {path : String} {line : List UInt8} {index : Nat} : EndsInReturn content line rest →
      Utf8.decode line = .error ⟨index, .truncated⟩ →
      Alike content rest (.error (.read path (.line ⟨index, .truncated⟩)))
        (.error (.read path (.line ⟨index, .malformed (line.length - index)⟩)))

/-! ## Lines with and without a return -/

theorem Returned.split {front rest bs' : List UInt8}
    (returned : Returned (front ++ lineFeed :: rest) bs') (free : lineFeed ∉ front) :
    ∃ rest', Returned rest rest' ∧ (bs' = front ++ lineFeed :: rest' ∨
      bs' = front ++ carriageReturn :: lineFeed :: rest') := by
  induction front generalizing bs' with
  | nil =>
      cases returned with
      | @keep _ _ rest' later => exact ⟨rest', later, .inl rfl⟩
      | @put _ rest' later => exact ⟨rest', later, .inr rfl⟩
  | cons b front ih =>
      cases returned with
      | keep _ later =>
          obtain ⟨rest', returned, rfl | rfl⟩ := ih later (List.not_mem_of_not_mem_cons free)
          · exact ⟨rest', returned, .inl rfl⟩
          · exact ⟨rest', returned, .inr rfl⟩
      | put => exact absurd List.mem_cons_self free

theorem Returned.eq_of_free {line bs' : List UInt8} (returned : Returned line bs')
    (free : lineFeed ∉ line) : bs' = line := by
  induction returned with
  | nil => rfl
  | keep b later ih => rw [ih (List.not_mem_of_not_mem_cons free)]
  | put => exact absurd List.mem_cons_self free

theorem Returned.kept {bs bs' : List UInt8} (front : List UInt8) (later : Returned bs bs') :
    Returned (front ++ bs) (front ++ bs') := by
  induction front with
  | nil => exact later
  | cons b front ih => exact .keep b ih

/-- With the returns the same line is taken, or one with a return behind it. -/
theorem Returned.takeLine {bs bs' line rest : List UInt8} (returned : Returned bs bs')
    (taken : takeLine bs = some (line, rest)) :
    ∃ line' rest', Source.takeLine bs' = some (line', rest') ∧ Returned rest rest' ∧
      (line' = line ∨ line' = line ++ [carriageReturn] ∧ EndsInReturn bs line rest) := by
  obtain ⟨front, free, rfl, rfl⟩ | ⟨nonempty, free, rfl, rfl⟩ := takeLine_cases taken
  · obtain ⟨rest', later, rfl | rfl⟩ := returned.split free
    · exact ⟨_, rest', takeLine_append free rest', later, .inl rfl⟩
    · have taken' := takeLine_append (free_append_return free) rest'
      rw [dropReturn_append, List.append_assoc] at taken'
      refine ⟨front, rest', taken', later, ?_⟩
      by_cases returns : front.getLast? = some carriageReturn
      · obtain ⟨line, rfl⟩ := List.getLast?_eq_some_iff.mp returns
        rw [dropReturn_append, List.append_assoc]
        exact .inr ⟨rfl, .here fun member => free (List.mem_append_left _ member)⟩
      · exact .inl (if_neg returns).symm
  · rw [returned.eq_of_free free]
    exact ⟨_, [], takeLine_last nonempty free, .nil, .inl rfl⟩

theorem EndsInReturn.of_takeLine {bs line rest broken left : List UInt8}
    (taken : takeLine bs = some (line, rest)) (ends : EndsInReturn rest broken left) :
    EndsInReturn bs broken left := by
  obtain ⟨front, free, rfl, _⟩ | ⟨_, _, _, rfl⟩ := takeLine_cases taken
  · exact .later free ends
  · generalize none : ([] : List UInt8) = bs at ends
    cases ends with
    | here => simp at none
    | later => simp at none

/-! ## Reading on beside the other source -/

theorem texts_return {rules : Rules} {function : String} (calls : rules.matcher = .call function)
    (cs : List Char) : texts rules (cs ++ ['\r']) = texts rules cs := by
  have blank : ∀ c ∈ (String.ofList ['\r']).toList, c ∈ [' ', '\t', '\n', '\x0c', '\r'] := by simp
  have same := Call.literals_append_blanks function (String.ofList cs) blank
  rw [← String.ofList_append] at same
  simp only [texts, calls, Matcher.literals, same]

theorem decode_return (line : List UInt8) :
    Utf8.decode (line ++ [carriageReturn]) =
      ((Utf8.decode line).map (· ++ ['\r'])).mapError (Utf8.Invalid.followed line.length) := by
  have decoded := Utf8.decodeFrom_append (show carriageReturn < 0x80 by decide) 0 line
  rwa [Nat.zero_add] at decoded

/-- Whether bytes are what may be left of another source, with more returns than one has. -/
structure Beside (content : List UInt8) (s : Source) (bs' : List UInt8) : Prop where
  returned : Returned s.rest bs'
  left : ∀ line rest, EndsInReturn s.rest line rest → EndsInReturn content line rest
  calls : ∃ function, s.rules.matcher = .call function

theorem Beside.takeLine {content bs' : List UInt8} {s : Source} (beside : Beside content s bs')
    {line rest : List UInt8} (taken : takeLine s.rest = some (line, rest)) :
    ∃ line' rest', Source.takeLine bs' = some (line', rest') ∧
      (line' = line ∨ line' = line ++ [carriageReturn] ∧ EndsInReturn content line rest) ∧
      ∀ read, Beside content { s with rest := rest, linesRead := read } rest' := by
  obtain ⟨line', rest', taken', later, same⟩ := beside.returned.takeLine taken
  exact ⟨line', rest', taken', same.imp_right (.imp_right (beside.left line rest)), fun _ =>
    ⟨later, fun _ _ ends => beside.left _ _ (ends.of_takeLine taken), beside.calls⟩⟩

theorem Beside.exists_texts {content bs' : List UInt8} {s : Source} (beside : Beside content s bs')
    {line line' rest : List UInt8} {cs : List Char}
    (same : line' = line ∨ line' = line ++ [carriageReturn] ∧ EndsInReturn content line rest)
    (decoded : Utf8.decode line = .ok cs) :
    ∃ cs', Utf8.decode line' = .ok cs' ∧ texts s.rules cs' = texts s.rules cs := by
  obtain rfl | ⟨rfl, _⟩ := same
  · exact ⟨cs, decoded, rfl⟩
  · obtain ⟨function, calls⟩ := beside.calls
    exact ⟨cs ++ ['\r'], by rw [decode_return, decoded]; rfl, texts_return calls cs⟩

/-- Reading on gives the like, and the sources stand beside each other again. -/
theorem next_of_beside {content : List UInt8} {s s' : Source}
    {found : Except Failure (Option MessageGroup)} (next : s.next = (found, s')) :
    ∀ bs', Beside content s bs' →
      ∃ found' rest', { s with rest := bs' }.next = (found', { s' with rest := rest' }) ∧
        Alike content s'.rest found found' ∧ Beside content s' rest' := by
  fun_induction Source.next s with
  | case1 s none =>
      intro bs' beside
      obtain ⟨rfl, rfl⟩ := Prod.mk.inj next
      have last := beside.returned
      rw [eq_nil_of_takeLine none] at last
      obtain rfl := last.eq_of_free (by simp)
      exact ⟨_, [], next_of_takeLine_none (s := { s with rest := [] }) rfl, .same _, beside⟩
  | case2 s line rest taken e fails =>
      intro bs' beside
      cases next
      obtain ⟨line', rest', taken', same, later⟩ := beside.takeLine taken
      have next' := next_of_takeLine (s := { s with rest := bs' }) taken'
      obtain rfl | ⟨rfl, ends⟩ := same
      · rw [fails] at next'
        exact ⟨_, rest', next', .same _, later s.linesRead⟩
      · rw [decode_return, fails] at next'
        refine ⟨_, rest', next', ?_, later s.linesRead⟩
        obtain ⟨index, _ | _⟩ := e
        · exact .same _
        · exact .brokenOff ends fails
  | case3 s line rest taken cs decoded number none ih =>
      intro bs' beside
      obtain ⟨line', rest', taken', same, later⟩ := beside.takeLine taken
      obtain ⟨cs', decoded', texts'⟩ := beside.exists_texts same decoded
      obtain ⟨found', last, next', alike, beside'⟩ := ih next rest' (later number)
      refine ⟨found', last, ?_, alike, beside'⟩
      rw [next_of_takeLine (s := { s with rest := bs' }) taken']
      simp only [decoded', texts', none]
      exact next'
  | case4 s line rest taken cs decoded number text more texts =>
      intro bs' beside
      cases next
      obtain ⟨line', rest', taken', same, later⟩ := beside.takeLine taken
      obtain ⟨cs', decoded', texts'⟩ := beside.exists_texts same decoded
      refine ⟨_, rest', ?_, .same _, later number⟩
      rw [next_of_takeLine (s := { s with rest := bs' }) taken']
      simp only [decoded', texts', texts, number]

theorem Beside.advance {content bs' : List UInt8} {s : Source} (beside : Beside content s bs')
    (n : Nat) : ∃ rest', { s with rest := bs' }.advance n = { s.advance n with rest := rest' } ∧
      Beside content (s.advance n) rest' := by
  induction n generalizing s bs' with
  | zero => exact ⟨bs', rfl, beside⟩
  | succ n ih =>
      obtain ⟨_, rest', next, _, later⟩ := next_of_beside (Prod.eta s.next).symm bs' beside
      rw [Source.advance, next]
      exact ih later

theorem Beside.call {content bs' : List UInt8} {s : Source} (beside : Beside content s bs')
    (n : Nat) :
    Alike content (s.advance (n + 1)).rest (s.call n) ({ s with rest := bs' }.call n) := by
  obtain ⟨rest', stands, later⟩ := beside.advance n
  obtain ⟨_, _, next, alike, _⟩ := next_of_beside (Prod.eta (s.advance n).next).symm rest' later
  rw [Source.call, Source.call, stands, next, advance_add]
  exact alike

section Outcomes

variable {content rest : List UInt8}

theorem Alike.eq_of_ok {α : Type} {a : α} {outcome : Except Failure α}
    (alike : Alike content rest (.ok a) outcome) : outcome = .ok a := by
  cases alike
  rfl

theorem Alike.exists_of_error {α : Type} (β : Type) {e : Failure} {outcome : Except Failure α}
    (alike : Alike content rest (.error e) outcome) :
    ∃ e', outcome = .error e' ∧ Alike content rest (.error e) (.error e' : Except Failure β) := by
  cases alike with
  | same => exact ⟨e, rfl, .same _⟩
  | brokenOff ends broken => exact ⟨_, rfl, .brokenOff ends broken⟩

end Outcomes

theorem Beside.collect {content bs' : List UInt8} {s : Source} (beside : Beside content s bs') :
    Alike content (s.advance (s.drain.1.length + 1)).rest s.collect
      { s with rest := bs' }.collect := by
  obtain ⟨before, last⟩ := call_of_drain s
  have alike := beside.call s.drain.1.length
  have before' : ∀ k < s.drain.1.length, { s with rest := bs' }.call k = .ok s.drain.1[k]? :=
    fun k inside => (before k inside ▸ beside.call k).eq_of_ok
  rw [last] at alike
  rw [Source.collect, Source.collect]
  rcases drained : s.drain with ⟨groups, _ | e⟩
  · rw [drained] at alike before'
    have drained' : { s with rest := bs' }.drain = (groups, none) :=
      drain_of_calls before' alike.eq_of_ok
    rw [drained']
    exact .same _
  · rw [drained] at alike before'
    obtain ⟨e', last', alike'⟩ := alike.exists_of_error (List MessageGroup)
    have drained' : { s with rest := bs' }.drain = (groups, some e') := drain_of_calls before' last'
    rw [drained']
    exact alike'

/-- Returns before line feeds change nothing that a source gives if literals are found in calls, as
blanks behind a line change none of its literals. A line that is no text fails at the same place, but
how it fails is told otherwise if it ends in a return inside a character. -/
theorem alike_of_returned (function : String) (filter : NameFilter) (base path : String)
    {content content' : List UInt8} (returned : Returned content content') :
    let s := ofBytes ⟨.call function, filter, base⟩ path content
    let s' := ofBytes ⟨.call function, filter, base⟩ path content'
    (∀ i, let left := s.advance i
      Alike content (s.advance (i + 1)).rest (s.call i) (s'.call i) ∧
      (s'.advance i).linesRead = (s.advance i).linesRead ∧
      Alike content (left.advance (left.drain.1.length + 1)).rest left.collect
        (s'.advance i).collect) ∧
    ∀ line blanks : String, (∀ c ∈ blanks.toList, c ∈ [' ', '\t', '\n', '\x0c', '\r']) →
      Call.literals function (line ++ blanks) = Call.literals function line := by
  intro s s'
  have beside : Beside content s content' := ⟨returned, fun _ _ ends => ends, function, rfl⟩
  refine ⟨fun i => ?_, fun line _ blank => Call.literals_append_blanks function line blank⟩
  obtain ⟨rest', stands, later⟩ := beside.advance i
  have stands' : s'.advance i = { s.advance i with rest := rest' } := stands
  rw [stands']
  exact ⟨beside.call i, rfl, later.collect⟩

/-- A line with a call gets a return, and a broken one gets another return. -/
theorem alike_of_returned_broken :
    let rules : Rules := ⟨.call "t", .default, "/project"⟩
    let content := Utf8.bytes "t('a')\n" ++ [0xE4, carriageReturn, lineFeed]
    let content' := Utf8.bytes "t('a')\r\n" ++ [0xE4, carriageReturn, carriageReturn, lineFeed]
    let s := ofBytes rules "/project/a.js" content
    let s' := ofBytes rules "/project/a.js" content'
    Returned content content' ∧
      (∀ i, Alike content (s.advance (i + 1)).rest (s.call i) (s'.call i)) ∧
      Alike content (s.advance (s.drain.1.length + 1)).rest s.collect s'.collect ∧
      (∀ c ∈ " \r".toList, c ∈ [' ', '\t', '\n', '\x0c', '\r']) ∧
      Call.literals "t" ("t('a')" ++ " \r") = Call.literals "t" "t('a')" := by
  intro rules content content' s s'
  have broken : Returned [0xE4, carriageReturn, lineFeed]
      [0xE4, carriageReturn, carriageReturn, lineFeed] := .keep _ (.keep _ (.put .nil))
  have returned : Returned content content' := .kept (Utf8.bytes "t('a')") (.put broken)
  have blank : ∀ c ∈ " \r".toList, c ∈ [' ', '\t', '\n', '\x0c', '\r'] := by simp
  obtain ⟨outcomes, literals⟩ := alike_of_returned "t" .default "/project" "/project/a.js" returned
  exact ⟨returned, fun i => (outcomes i).1, (outcomes 0).2.2, blank, literals _ _ blank⟩

/-- With another return at its end, a line that is broken off inside a character is malformed. -/
theorem call_of_broken_off :
    let rules : Rules := ⟨.call "t", .default, "/project"⟩
    let content := [0xE4, carriageReturn, lineFeed]
    let content' := [0xE4, carriageReturn, carriageReturn, lineFeed]
    let brokenOff : Utf8.Invalid := ⟨0, .truncated⟩
    let malformed : Utf8.Invalid := ⟨0, .malformed 1⟩
    Returned content content' ∧ brokenOff.message ≠ malformed.message ∧
      (ofBytes rules "/project/src/app.js" content).call 0 =
        .error (.read "/project/src/app.js" (.line brokenOff)) ∧
      (ofBytes rules "/project/src/app.js" content').call 0 =
        .error (.read "/project/src/app.js" (.line malformed)) := by
  intro rules content content' brokenOff malformed
  exact ⟨.keep _ (.keep _ (.put .nil)), by decide +kernel, by decide +kernel, by decide +kernel⟩

end MessageCatalog.Source
