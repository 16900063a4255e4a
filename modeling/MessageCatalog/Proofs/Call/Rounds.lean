import MessageCatalog.Proofs.Call.Selection
import MessageCatalog.Proofs.Literal

/-! # The rounds of a scan

A scan goes through a line in rounds: each looks for the next occurrence of the name, takes the call
there, if it is one, and tells where the next round begins. Its positions count bytes, and a
backslash takes one byte along, which may be the first of several of a character. Still the scan
never cuts through a character: what it looks for begins and ends with whole characters, and so do
the literals that it finds, which are just those that can be read character by character.
-/

namespace MessageCatalog

namespace Utf8

/-- Whether a byte position of a text is not inside a character. -/
def IsBoundary (cs : List Char) (position : Nat) : Prop :=
  ∃ front back, cs = front ++ back ∧ position = (encode front).length

/-- Whether `inner` are the characters of a text from one byte position up to another one. There are
such characters only if neither position is inside a character or beyond the end. -/
def Spans (cs : List Char) (start stop : Nat) (inner : List Char) : Prop :=
  ∃ front back, cs = front ++ (inner ++ back) ∧ start = (encode front).length ∧
    stop = start + (encode inner).length

variable {cs inner : List Char} {position start stop : Nat}

theorem isBoundary_zero (cs : List Char) : IsBoundary cs 0 := ⟨[], cs, rfl, rfl⟩

theorem IsBoundary.le_length (boundary : IsBoundary cs position) :
    position ≤ (encode cs).length := by
  obtain ⟨front, back, rfl, rfl⟩ := boundary
  rw [encode_append, List.length_append]
  exact Nat.le_add_right _ _

theorem Spans.isBoundary (spans : Spans cs start stop inner) : IsBoundary cs stop := by
  obtain ⟨front, back, rfl, rfl, rfl⟩ := spans
  exact ⟨front ++ inner, back, (List.append_assoc _ _ _).symm,
    by rw [encode_append, List.length_append]⟩

theorem spans_of_encode_prefix (some : inner ≠ [])
    (found : encode inner <+: (encode cs).drop start) :
    Spans cs start (start + (encode inner).length) inner := by
  obtain ⟨front, back, rfl, rfl, rest, rfl⟩ := exists_of_encode_prefix some found
  exact ⟨front, rest, rfl, rfl, rfl⟩

theorem Spans.drop (spans : Spans cs start stop inner) :
    ∃ back, (encode cs).drop start = encode inner ++ encode back := by
  obtain ⟨front, back, rfl, rfl, rfl⟩ := spans
  exact ⟨back, by rw [encode_append, encode_append, List.drop_left]⟩

end Utf8

open Utf8 (IsBoundary Spans)

/-- A quoted literal, character by character: a quote, escapes of one character each and characters
other than the quote and the backslash, and the quote again. -/
def Literal.IsQuoted (cs : List Char) : Prop :=
  ∃ quote body, (quote = '"' ∨ quote = '\'') ∧ cs = quote :: (body ++ [quote]) ∧
    Literal.Body quote body

namespace Call

open Literal (IsQuoted)

variable {cs inner : List Char} {start stop stop' : Nat}

/-! ## Literals, character by character -/

theorem isLiteral_encode_iff : IsLiteral (Utf8.encode inner) ↔ IsQuoted inner :=
  Literal.isLiteral_iff

theorem IsLiteral.spans {literal rest : List UInt8} (isLiteral : IsLiteral literal)
    (found : (Utf8.encode cs).drop start = literal ++ rest) :
    ∃ inner, Spans cs start (start + literal.length) inner ∧ IsQuoted inner := by
  have whole : Utf8.encode cs = (Utf8.encode cs).take start ++ (literal ++ rest) := by
    rw [← found, List.take_append_drop]
  obtain ⟨inner, rfl⟩ := isLiteral.exists_encode whole
  have quoted := isLiteral_encode_iff.mp isLiteral
  have some : inner ≠ [] := by
    obtain ⟨_, _, _, rfl, _⟩ := quoted
    exact List.cons_ne_nil _ _
  exact ⟨inner, Utf8.spans_of_encode_prefix some ⟨rest, found.symm⟩, quoted⟩

/-- The scanner finds the end of a literal where one can be read character by character. -/
theorem scanLiteral_iff :
    scanLiteral (Utf8.encode cs) start = some stop ↔
      ∃ inner, Spans cs start stop inner ∧ IsQuoted inner := by
  constructor
  · intro scanned
    obtain ⟨n, found, rfl⟩ := Option.map_eq_some_iff.mp scanned
    obtain ⟨literal, rest, split, isLiteral, rfl⟩ := exists_literal found
    exact isLiteral.spans split
  · rintro ⟨inner, spans, quoted⟩
    obtain ⟨back, rest⟩ := spans.drop
    obtain ⟨_, _, _, _, rfl⟩ := spans
    rw [scanLiteral, rest, literalLength?_append (isLiteral_encode_iff.mpr quoted)]
    rfl

theorem stop_unique (spans : Spans cs start stop inner) (quoted : IsQuoted inner)
    {other : List Char} (spans' : Spans cs start stop' other) (quoted' : IsQuoted other) :
    stop = stop' := by
  have scanned := scanLiteral_iff.mpr ⟨inner, spans, quoted⟩
  exact Option.some.inj (scanned.symm.trans (scanLiteral_iff.mpr ⟨other, spans', quoted'⟩))

/-! ## Rounds -/

/-- The first position from `first` on where the name and a parenthesis stand. -/
def occurrence? (name line : List UInt8) (first : Nat) : Option Nat :=
  (List.range' first (line.length - first)).find? fun position =>
    (name ++ [byte '(']).isPrefixOf (line.drop position)

/-- What a round that begins at position `first` comes to: the call that it takes, if the next
occurrence of the name is one, and the position where the next round begins. The rounds are over
where the name occurs no more. -/
def round? (name line : List UInt8) (first : Nat) : Option (Option Site × Nat) :=
  (occurrence? name line first).map fun position =>
    let behind := position + name.length + 1
    let start := behind + ((line.drop behind).takeWhile isBlank).length
    match scanLiteral line start with
    | some stop =>
      if closesCall (line.drop stop) then (some ⟨position, start, stop⟩, stop) else (none, behind)
    | none => (none, behind)

/-- All rounds from a position on, by the positions that they begin at, and the calls they take. -/
inductive Rounds (name line : List UInt8) : Nat → List Nat → List Site → Prop where
  | last {first : Nat} : round? name line first = none → Rounds name line first [first] []
  | next {first next : Nat} {taken : Option Site} {firsts : List Nat} {chosen : List Site} :
    round? name line first = some (taken, next) → Rounds name line next firsts chosen →
    Rounds name line first (first :: firsts) (taken.toList ++ chosen)

variable {name line : List UInt8} {first position next : Nat} {taken : Option Site}
  {firsts others : List Nat} {chosen chosen' : List Site}

theorem named_of_occurrence? (found : occurrence? name line first = some position) :
    first ≤ position ∧ position < line.length ∧
      (name ++ [byte '(']).isPrefixOf (line.drop position) = true := by
  obtain ⟨named, member, _⟩ := List.find?_range'_eq_some.mp found
  rw [List.mem_range'_1] at member
  exact ⟨member.1, by omega, named⟩

/-- The scan passes over all positions before an occurrence of the name. -/
theorem sitesFrom_occurrence (name line : List UInt8) (first : Nat) :
    sitesFrom name first (line.drop first) =
      match occurrence? name line first with
      | some position => sitesFrom name position (line.drop position)
      | none => [] := by
  induction left : line.length - first generalizing first with
  | zero =>
      rw [List.drop_eq_nil_of_le (by omega), occurrence?, left, sitesFrom]
      rfl
  | succ left' ih =>
      have inside : first < line.length := by omega
      rw [occurrence?, left, List.range'_succ, List.find?_cons]
      cases named : (name ++ [byte '(']).isPrefixOf (line.drop first) with
      | true => rfl
      | false =>
          have rest : line.length - (first + 1) = left' := by omega
          have later := ih (first + 1) rest
          rw [occurrence?, rest] at later
          rw [sitesFrom_pass inside named, later]

theorem argumentsAt_eq_drop (inside : position + name.length + 1 ≤ line.length) :
    let behind := position + name.length + 1
    let start := behind + ((line.drop behind).takeWhile isBlank).length
    argumentsAt name line position = line.drop start ∧
      line.length - (argumentsAt name line position).length = start := by
  intro behind start
  have split : (line.drop behind).takeWhile isBlank ++ argumentsAt name line position =
      line.drop behind := List.takeWhile_append_dropWhile
  have length := congrArg List.length split
  rw [List.length_append, List.length_drop] at length
  have behind' : ((line.drop behind).takeWhile isBlank ++ argumentsAt name line position).drop
      ((line.drop behind).takeWhile isBlank).length = argumentsAt name line position := List.drop_left
  rw [split, List.drop_drop] at behind'
  exact ⟨behind'.symm, by omega⟩

/-- A round takes the call at the next occurrence, and ends behind its literal or behind the
parenthesis. -/
theorem round?_eq (name line : List UInt8) (first : Nat) :
    round? name line first = (occurrence? name line first).map fun position =>
      (callAt? name line position, ((callAt? name line position).map Site.stop).getD
        (position + name.length + 1)) := by
  rw [round?]
  refine Option.map_congr fun position found => ?_
  obtain ⟨_, _, named⟩ := named_of_occurrence? found
  obtain ⟨before, rest, split, length⟩ := exists_name named
  have inside : position + name.length + 1 ≤ line.length := by
    rw [split, length]
    simp
  obtain ⟨arguments, start⟩ := argumentsAt_eq_drop inside
  rw [callAt?, if_pos named, start]
  dsimp only
  rw [scanLiteral, ← arguments, firstLiteral?]
  cases literalLength? (argumentsAt name line position) with
  | none => rfl
  | some n =>
      have rest := congrArg (List.drop n) arguments
      rw [List.drop_drop] at rest
      simp only [Option.map_some, ← rest]
      split <;> rfl

/-- How a round ends. -/
inductive Ending (name line : List UInt8) (first : Nat) : Option Site → Nat → Prop where
  | call {site : Site} : callAt? name line site.position = some site → first ≤ site.position →
    Ending name line first (some site) site.stop
  | pass {position : Nat} : callAt? name line position = none → first ≤ position →
    position < line.length → (name ++ [byte '(']).isPrefixOf (line.drop position) = true →
    Ending name line first none (position + name.length + 1)

theorem ending_of_round? (round : round? name line first = some (taken, next)) :
    Ending name line first taken next ∧ sitesFrom name first (line.drop first) =
      taken.toList ++ sitesFrom name next (line.drop next) := by
  rw [round?_eq] at round
  obtain ⟨position, found, ends⟩ := Option.map_eq_some_iff.mp round
  obtain ⟨later, inside, named⟩ := named_of_occurrence? found
  rw [sitesFrom_occurrence, found]
  cases call : callAt? name line position with
  | some site =>
      rw [call] at ends
      cases ends
      obtain rfl := callAt?_position call
      exact ⟨.call call later, sitesFrom_call call⟩
  | none =>
      rw [call] at ends
      cases ends
      refine ⟨.pass call later inside named, ?_⟩
      have resumed := sitesFrom_resume inside call
      rw [resumeAt, if_pos named] at resumed
      exact resumed

theorem sitesFrom_of_round?_none (nothing : round? name line first = none) :
    sitesFrom name first (line.drop first) = [] := by
  rw [round?, Option.map_eq_none_iff] at nothing
  rw [sitesFrom_occurrence, nothing]

theorem Ending.lt (ending : Ending name line first taken next) :
    first < next ∧ next ≤ line.length := by
  cases ending with
  | call found later =>
      have call := isCall_iff.mpr found
      exact ⟨later.trans_lt call.position_lt_stop, call.stop_le_length⟩
  | pass _ later _ named =>
      obtain ⟨before, rest, split, length⟩ := exists_name named
      rw [split, length]
      simp
      omega

/-- The rounds come to an end, and take the calls that the scan finds. -/
theorem exists_rounds (name : List UInt8) (inside : first ≤ line.length) :
    ∃ firsts, Rounds name line first firsts (sitesFrom name first (line.drop first)) := by
  -- The induction is on the bytes that are left, since every round leaves fewer.
  induction left : line.length - first using Nat.strongRecOn generalizing first with
  | ind left ih =>
      cases round : round? name line first with
      | none =>
          rw [sitesFrom_of_round?_none round]
          exact ⟨[first], .last round⟩
      | some ends =>
          obtain ⟨taken, next⟩ := ends
          obtain ⟨ending, found⟩ := ending_of_round? round
          obtain ⟨further, inside'⟩ := ending.lt
          obtain ⟨firsts, rounds⟩ := ih _ (by omega) inside' rfl
          rw [found]
          exact ⟨first :: firsts, .next round rounds⟩

namespace Rounds

theorem unique (rounds : Rounds name line first firsts chosen)
    (rounds' : Rounds name line first others chosen') : firsts = others ∧ chosen = chosen' := by
  induction rounds generalizing others chosen' with
  | last nothing =>
      cases rounds' with
      | last => exact ⟨rfl, rfl⟩
      | next round => cases nothing.symm.trans round
  | next round _ ih =>
      cases rounds' with
      | last nothing => cases nothing.symm.trans round
      | next round' rounds' =>
          cases round.symm.trans round'
          obtain ⟨rfl, rfl⟩ := ih rounds'
          exact ⟨rfl, rfl⟩

theorem length_le (rounds : Rounds name line first firsts chosen) (inside : first ≤ line.length) :
    first + firsts.length ≤ line.length + 1 := by
  induction rounds with
  | last => exact Nat.succ_le_succ inside
  | next round _ ih =>
      obtain ⟨further, inside'⟩ := (ending_of_round? round).1.lt
      have rest := ih inside'
      rw [List.length_cons]
      omega

end Rounds

/-! ## Characters -/

section Characters

variable {function line : String}

theorem IsCall.spans {name : List UInt8} {site : Site} (call : IsCall name (Utf8.bytes line) site) :
    ∃ inner, Spans line.toList site.start site.stop inner ∧ IsQuoted inner := by
  obtain ⟨before, blanks, literal, tail, split, _, isLiteral, _, position, start, stop⟩ := call
  have split' : Utf8.bytes line = (before ++ name ++ byte '(' :: blanks) ++ (literal ++ tail) := by
    rw [split]
    simp only [List.append_assoc, List.cons_append]
  have first : site.start = (before ++ name ++ byte '(' :: blanks).length := by
    simp only [List.length_append, List.length_cons]
    omega
  have found : (Utf8.encode line.toList).drop site.start = literal ++ tail := by
    rw [← Utf8.bytes, split', first, List.drop_left]
  rw [stop]
  exact isLiteral.spans found

theorem Ending.isBoundary
    (ending : Ending (Utf8.bytes function) (Utf8.bytes line) first taken next) :
    IsBoundary line.toList next := by
  cases ending with
  | call found _ =>
      obtain ⟨_, spans, _⟩ := (isCall_iff.mpr found).spans
      exact spans.isBoundary
  | @pass position _ _ _ named =>
      have whole : Utf8.encode (function.toList ++ ['(']) = Utf8.bytes function ++ [byte '('] := by
        rw [Utf8.encode_append, Utf8.bytes]
        rfl
      rw [← whole, List.isPrefixOf_iff_prefix] at named
      have spans := Utf8.spans_of_encode_prefix (List.append_ne_nil_of_right_ne_nil _ (by simp)) named
      rw [whole, List.length_append, List.length_singleton, ← Nat.add_assoc] at spans
      exact spans.isBoundary

theorem Rounds.forall_isBoundary
    (rounds : Rounds (Utf8.bytes function) (Utf8.bytes line) first firsts chosen)
    (boundary : IsBoundary line.toList first) : ∀ first ∈ firsts, IsBoundary line.toList first := by
  induction rounds with
  | last => exact List.forall_mem_singleton.mpr boundary
  | next round _ ih =>
      exact List.forall_mem_cons.mpr ⟨boundary, ih (ending_of_round? round).1.isBoundary⟩

end Characters

theorem text_slice_of_spans {line : String} (spans : Spans line.toList start stop inner) :
    Utf8.text (slice (Utf8.bytes line) start stop) = String.ofList inner := by
  obtain ⟨front, back, whole, first, last⟩ := spans
  rw [Utf8.bytes, whole, Utf8.encode_append, Utf8.encode_append, slice_append first last,
    Utf8.text_encode]

/-- The scanner is right on characters. It finds the end of a literal at a position of a line just
where one can be read from there character by character, which then has one end, within the line and
not inside a character; at a position inside a character none begins. And the scan for calls cuts
the line between characters only: it comes to an end after no more rounds than the line has bytes
and one, and all that it takes from the line are rests that begin with a whole character, and
literals that can be read character by character. -/
theorem scans_characters (function line : String) :
    (∀ start stop, scanLiteral (Utf8.bytes line) start = some stop ↔
      ∃ inner, Spans line.toList start stop inner ∧ IsQuoted inner) ∧
    (∀ start stop, scanLiteral (Utf8.bytes line) start = some stop →
      stop ≤ (Utf8.bytes line).length ∧ IsBoundary line.toList stop ∧
        ∀ other inner, Spans line.toList start other inner → IsQuoted inner → other = stop) ∧
    ∃ firsts,
      Rounds (Utf8.bytes function) (Utf8.bytes line) 0 firsts
        (sites (Utf8.bytes function) (Utf8.bytes line)) ∧
      (∀ others chosen, Rounds (Utf8.bytes function) (Utf8.bytes line) 0 others chosen →
        others = firsts) ∧
      firsts.length ≤ (Utf8.bytes line).length + 1 ∧
      (∀ first ∈ firsts, first ≤ (Utf8.bytes line).length ∧ IsBoundary line.toList first) ∧
      ∀ site ∈ sites (Utf8.bytes function) (Utf8.bytes line), ∃ inner,
        Spans line.toList site.start site.stop inner ∧ IsQuoted inner ∧
        Utf8.text (slice (Utf8.bytes line) site.start site.stop) = String.ofList inner := by
  refine ⟨fun start stop => scanLiteral_iff, fun start stop scanned => ?_, ?_⟩
  · obtain ⟨inner, spans, quoted⟩ := scanLiteral_iff.mp scanned
    exact ⟨spans.isBoundary.le_length, spans.isBoundary, fun other inner' spans' quoted' =>
      stop_unique spans' quoted' spans quoted⟩
  · obtain ⟨firsts, rounds⟩ := exists_rounds (Utf8.bytes function)
      (Nat.zero_le (Utf8.bytes line).length)
    rw [List.drop_zero, ← sites] at rounds
    have boundaries := rounds.forall_isBoundary (Utf8.isBoundary_zero line.toList)
    have bounded := rounds.length_le (Nat.zero_le _)
    rw [Nat.zero_add] at bounded
    refine ⟨firsts, rounds, fun others chosen rounds' => (rounds'.unique rounds).1, bounded,
      fun first among => ⟨(boundaries first among).le_length, boundaries first among⟩,
      fun site among => ?_⟩
    have call := (isCall_of_mem_sitesFrom (Utf8.bytes function) (Utf8.bytes line) 0 site among).1
    obtain ⟨inner, spans, quoted⟩ := call.spans
    exact ⟨inner, spans, quoted, text_slice_of_spans spans⟩

-- The backslash takes the first of the two bytes of its character along.
example : scanLiteral (Utf8.bytes "'\\é'") 0 = some 5 := by decide +kernel

end Call

end MessageCatalog
