import MessageCatalog.Proofs.Call.Closing
import MessageCatalog.Proofs.Utf8

/-! # Which calls a scan finds

The calls of a line may stand inside the literals or behind the literals of others. A scan finds
the leftmost ones that do not overlap the literals found before. The argument goes over the
positions from left to right: `callAt?` tells what stands at a position, and `sitesFrom` takes it or
goes on to the next position that may hold a call.
-/

namespace MessageCatalog.Call

/-- A call of `name`: the name and an opening parenthesis, blanks, a literal, and a text that closes
the call. -/
def IsCall (name line : List UInt8) (site : Site) : Prop :=
  ∃ before blanks literal tail,
    line = before ++ (name ++ byte '(' :: (blanks ++ (literal ++ tail))) ∧
      (∀ b ∈ blanks, Blank b) ∧ IsLiteral literal ∧ closesCall tail = true ∧
      site.position = before.length ∧
      site.start = site.position + name.length + 1 + blanks.length ∧
      site.stop = site.start + literal.length

/-- The leftmost calls that do not overlap: every other call starts before the end of the literal of
one to its left. -/
structure IsSelection (name line : List UInt8) (chosen : List Site) : Prop where
  sound : ∀ site ∈ chosen, IsCall name line site
  increasing : chosen.Pairwise fun a b => a.position < b.position
  apart : chosen.Pairwise fun a b => a.stop ≤ b.position
  complete : ∀ site, IsCall name line site →
    site ∈ chosen ∨ ∃ earlier ∈ chosen, earlier.position < site.position ∧
      site.position < earlier.stop

/-- What follows the name, the parenthesis and blanks, for a name at some position. -/
def argumentsAt (name line : List UInt8) (position : Nat) : List UInt8 :=
  skipBlanks (line.drop (position + name.length + 1))

/-- The call at a position, if there is one. -/
def callAt? (name line : List UInt8) (position : Nat) : Option Site :=
  if (name ++ [byte '(']).isPrefixOf (line.drop position) then
    let start := line.length - (argumentsAt name line position).length
    (firstLiteral? (argumentsAt name line position)).map fun n => ⟨position, start, start + n⟩
  else none

variable {name line : List UInt8}

theorem firstLiteral?_append {literal : List UInt8} (isLiteral : IsLiteral literal)
    (tail : List UInt8) :
    firstLiteral? (literal ++ tail) = if closesCall tail then some literal.length else none := by
  simp only [firstLiteral?, literalLength?_append isLiteral, List.drop_left]

theorem firstLiteral?_iff {arguments : List UInt8} {n : Nat} :
    firstLiteral? arguments = some n ↔ ∃ literal tail, arguments = literal ++ tail ∧
      IsLiteral literal ∧ closesCall tail = true ∧ n = literal.length := by
  constructor
  · intro found
    simp only [firstLiteral?] at found
    split at found
    · rename_i m scanned
      obtain ⟨literal, tail, rfl, isLiteral, rfl⟩ := exists_literal scanned
      split at found
      · rename_i closes
        cases found
        rw [List.drop_left] at closes
        exact ⟨literal, tail, rfl, isLiteral, closes, rfl⟩
      · cases found
    · cases found
  · rintro ⟨literal, tail, rfl, isLiteral, closes, rfl⟩
    rw [firstLiteral?_append isLiteral, if_pos closes]

theorem drop_name (before name rest : List UInt8) :
    (before ++ (name ++ byte '(' :: rest)).drop (before.length + name.length + 1) = rest := by
  have split : before ++ (name ++ byte '(' :: rest) = (before ++ name ++ [byte '(']) ++ rest := by
    simp
  rw [split, List.drop_left']
  simp [Nat.add_assoc]

theorem argumentsAt_append {name before blanks literal : List UInt8}
    (blank : ∀ b ∈ blanks, Blank b) (isLiteral : IsLiteral literal) (tail : List UInt8) :
    argumentsAt name (before ++ (name ++ byte '(' :: (blanks ++ (literal ++ tail)))) before.length =
      literal ++ tail := by
  rw [argumentsAt, drop_name, skipBlanks_append blank, skipBlanks_literal isLiteral]

theorem callAt?_append {name before blanks literal : List UInt8} (blank : ∀ b ∈ blanks, Blank b)
    (isLiteral : IsLiteral literal) (tail : List UInt8) :
    callAt? name (before ++ (name ++ byte '(' :: (blanks ++ (literal ++ tail)))) before.length =
      if closesCall tail then
        let start := before.length + name.length + 1 + blanks.length
        some ⟨before.length, start, start + literal.length⟩
      else none := by
  have named : (name ++ [byte '(']).isPrefixOf ((before ++ (name ++ byte '(' ::
      (blanks ++ (literal ++ tail)))).drop before.length) = true := by
    rw [List.drop_left, List.isPrefixOf_iff_prefix]
    exact ⟨blanks ++ (literal ++ tail), by simp⟩
  have start : (before ++ (name ++ byte '(' :: (blanks ++ (literal ++ tail)))).length -
      (literal ++ tail).length = before.length + name.length + 1 + blanks.length := by
    simp only [List.length_append, List.length_cons]
    omega
  rw [callAt?, if_pos named, argumentsAt_append blank isLiteral, firstLiteral?_append isLiteral,
    start]
  split <;> rfl

theorem exists_name {position : Nat}
    (named : (name ++ [byte '(']).isPrefixOf (line.drop position) = true) :
    ∃ before rest, line = before ++ (name ++ byte '(' :: rest) ∧ position = before.length := by
  obtain ⟨rest, split⟩ := List.isPrefixOf_iff_prefix.mp named
  have inside : position < line.length := by
    have length := congrArg List.length split
    simp only [List.length_append, List.length_singleton, List.length_drop] at length
    omega
  refine ⟨line.take position, rest, ?_, (List.length_take_of_le (Nat.le_of_lt inside)).symm⟩
  rw [← List.singleton_append, ← List.append_assoc name, split, List.take_append_drop]

theorem isCall_iff {site : Site} :
    IsCall name line site ↔ callAt? name line site.position = some site := by
  constructor
  · rintro ⟨before, blanks, literal, tail, rfl, blank, isLiteral, closes, position, start, stop⟩
    rw [position, callAt?_append blank isLiteral, if_pos closes]
    simp only [← position, ← start, ← stop]
  · intro found
    simp only [callAt?] at found
    split at found
    · rename_i named
      obtain ⟨n, first, same⟩ := Option.map_eq_some_iff.mp found
      obtain ⟨before, rest, split, position⟩ := exists_name named
      obtain ⟨literal, tail, arguments, isLiteral, closes, rfl⟩ := firstLiteral?_iff.mp first
      obtain ⟨blanks, spaced, blank⟩ := exists_blanks rest
      have skipped : skipBlanks rest = literal ++ tail := by
        rw [← arguments, argumentsAt, split, position, drop_name]
      rw [skipped] at spaced
      have start : line.length - (literal ++ tail).length =
          before.length + name.length + 1 + blanks.length := by
        rw [split, spaced]
        simp only [List.length_append, List.length_cons]
        omega
      rw [arguments, start] at same
      refine ⟨before, blanks, literal, tail, spaced ▸ split, blank, isLiteral, closes, position,
        ?_, ?_⟩
      · rw [position, ← same]
      · rw [← same]
    · cases found

/-! ## The scan -/

theorem argumentsAt_suffix (name line : List UInt8) (position : Nat) :
    argumentsAt name line position <:+ line.drop position := by
  rw [argumentsAt, Nat.add_assoc, ← List.drop_drop]
  exact (List.dropWhile_suffix _).trans (List.drop_suffix _ _)

theorem argumentsAt_eq (name line : List UInt8) (position : Nat) :
    argumentsAt name line position =
      skipBlanks ((line.drop position).drop (name.length + 1)) := by
  rw [argumentsAt, List.drop_drop, Nat.add_assoc]

theorem sitesFrom_named (offset : Nat) (named : (name ++ [byte '(']).isPrefixOf line = true) :
    let arguments := skipBlanks (line.drop (name.length + 1))
    let start := offset + (line.length - arguments.length)
    sitesFrom name offset line =
      match firstLiteral? arguments with
      | some n => ⟨offset, start, start + n⟩ :: sitesFrom name (start + n) (arguments.drop n)
      | none => sitesFrom name (offset + name.length + 1) (line.drop (name.length + 1)) := by
  cases line with
  | nil => simp at named
  | cons b rest =>
      rw [sitesFrom]
      exact if_pos named

theorem sitesFrom_pass {position : Nat} (inside : position < line.length)
    (absent : (name ++ [byte '(']).isPrefixOf (line.drop position) = false) :
    sitesFrom name position (line.drop position) =
      sitesFrom name (position + 1) (line.drop (position + 1)) := by
  rw [List.drop_eq_getElem_cons inside] at absent ⊢
  rw [sitesFrom]
  simp only [absent, Bool.false_eq_true, if_false]

theorem callAt?_position {position : Nat} {site : Site}
    (found : callAt? name line position = some site) : position = site.position := by
  simp only [callAt?] at found
  split at found
  · obtain ⟨n, _, rfl⟩ := Option.map_eq_some_iff.mp found
    rfl
  · cases found

theorem callAt?_eq_some_iff {position : Nat} {site : Site} :
    callAt? name line position = some site ↔ position = site.position ∧ IsCall name line site := by
  constructor
  · intro found
    obtain rfl := callAt?_position found
    exact ⟨rfl, isCall_iff.mpr found⟩
  · rintro ⟨rfl, call⟩
    exact isCall_iff.mp call

theorem sitesFrom_call {position : Nat} {site : Site}
    (found : callAt? name line position = some site) :
    sitesFrom name position (line.drop position) =
      site :: sitesFrom name site.stop (line.drop site.stop) := by
  simp only [callAt?] at found
  split at found
  · rename_i named
    obtain ⟨n, first, rfl⟩ := Option.map_eq_some_iff.mp found
    obtain ⟨before, rest, split, length⟩ := exists_name named
    have suffix := argumentsAt_suffix name line position
    have shorter := suffix.length_le
    have inside : position ≤ line.length := by simp [split, length]
    rw [List.length_drop] at shorter
    have start : position + (line.length - position - (argumentsAt name line position).length) =
        line.length - (argumentsAt name line position).length := by omega
    have behind : (argumentsAt name line position).drop n =
        line.drop (line.length - (argumentsAt name line position).length + n) := by
      rw [← List.drop_drop,
        ← List.suffix_iff_eq_drop.mp (suffix.trans (List.drop_suffix position line))]
    rw [sitesFrom_named position named, ← argumentsAt_eq, first]
    simp only [List.length_drop, start, behind]
  · cases found

theorem callAt?_inside {position passed : Nat} (simple : byte '(' ∉ name)
    (named : (name ++ [byte '(']).isPrefixOf (line.drop position) = true)
    (low : position < passed) (high : passed < position + name.length + 1) :
    callAt? name line passed = none := by
  obtain ⟨before, rest, split, rfl⟩ := exists_name named
  refine if_neg fun other => simple ?_
  obtain ⟨after, again⟩ := List.isPrefixOf_iff_prefix.mp other
  have parenthesis : (line)[before.length + name.length]? = some (byte '(') := by
    rw [split, ← List.append_assoc, List.getElem?_append_right (by simp)]
    simp
  have inside : before.length + name.length = passed + (before.length + name.length - passed) := by
    omega
  rw [inside, ← List.getElem?_drop, ← again, List.append_assoc,
    List.getElem?_append_left (by omega)] at parenthesis
  exact List.mem_of_getElem? parenthesis

theorem IsCall.position_lt_stop {site : Site}
    (call : IsCall name line site) : site.position < site.stop := by
  obtain ⟨_, _, _, _, _, _, _, _, _, start, stop⟩ := call
  omega

/-- Where the scan goes on if no call stands at a position. -/
def resumeAt (name line : List UInt8) (position : Nat) : Nat :=
  if (name ++ [byte '(']).isPrefixOf (line.drop position) then position + name.length + 1
  else position + 1

theorem lt_resumeAt (name line : List UInt8) (position : Nat) :
    position < resumeAt name line position := by
  unfold resumeAt
  split <;> omega

theorem sitesFrom_resume {position : Nat} (inside : position < line.length)
    (absent : callAt? name line position = none) :
    sitesFrom name position (line.drop position) =
      sitesFrom name (resumeAt name line position) (line.drop (resumeAt name line position)) := by
  cases named : (name ++ [byte '(']).isPrefixOf (line.drop position) with
  | true =>
      have first : firstLiteral? (argumentsAt name line position) = none := by
        simpa only [callAt?, named, if_true, Option.map_eq_none_iff] using absent
      rw [sitesFrom_named position named, ← argumentsAt_eq, first]
      simp only [resumeAt, named, if_true, List.drop_drop, Nat.add_assoc]
  | false =>
      simp only [resumeAt, named, Bool.false_eq_true, if_false]
      exact sitesFrom_pass inside named

/-- The scan passes over no call if the name has no parenthesis. -/
theorem callAt?_passed {position passed : Nat} (simple : byte '(' ∉ name)
    (absent : callAt? name line position = none) (low : position ≤ passed)
    (high : passed < resumeAt name line position) : callAt? name line passed = none := by
  rcases Nat.eq_or_lt_of_le low with rfl | later
  · exact absent
  · unfold resumeAt at high
    split at high
    · rename_i named
      exact callAt?_inside simple named later high
    · omega

theorem isCall_of_mem_sitesFrom (name line : List UInt8) (first : Nat) :
    ∀ site ∈ sitesFrom name first (line.drop first),
      IsCall name line site ∧ first ≤ site.position := by
  induction left : line.length - first using Nat.strongRecOn generalizing first with
  | ind left ih =>
      rcases Nat.lt_or_ge first line.length with inside | behind
      · cases found : callAt? name line first with
        | some site =>
            have position := callAt?_position found
            subst position
            have call := isCall_iff.mpr found
            have further := call.position_lt_stop
            rw [sitesFrom_call found]
            refine List.forall_mem_cons.mpr ⟨⟨call, Nat.le_refl _⟩, fun other member => ?_⟩
            obtain ⟨call', behind⟩ := ih _ (by omega) site.stop rfl other member
            exact ⟨call', by omega⟩
        | none =>
            have further := lt_resumeAt name line first
            rw [sitesFrom_resume inside found]
            intro site member
            obtain ⟨call, behind⟩ := ih _ (by omega) _ rfl site member
            exact ⟨call, by omega⟩
      · rw [List.drop_eq_nil_of_le behind, sitesFrom]
        exact List.forall_mem_nil _

/-- What a scan from position `first` on takes: the first call there and, from the end of its
literal on, the same again. -/
inductive Leftmost (name line : List UInt8) : Nat → List Site → Prop where
  | done {first : Nat} : (∀ passed, first ≤ passed → callAt? name line passed = none) →
    Leftmost name line first []
  | call {first : Nat} {site : Site} {chosen : List Site} : first ≤ site.position →
    callAt? name line site.position = some site →
    (∀ passed, first ≤ passed → passed < site.position → callAt? name line passed = none) →
    Leftmost name line site.stop chosen → Leftmost name line first (site :: chosen)

theorem Leftmost.pass {first next : Nat} {chosen : List Site} (later : first ≤ next)
    (absent : ∀ passed, first ≤ passed → passed < next → callAt? name line passed = none)
    (leftmost : Leftmost name line next chosen) : Leftmost name line first chosen := by
  cases leftmost with
  | done none =>
      refine .done fun passed low => ?_
      rcases Nat.lt_or_ge passed next with before | behind
      · exact absent passed low before
      · exact none passed behind
  | call start found none rest =>
      refine .call (Nat.le_trans later start) found (fun passed low high => ?_) rest
      rcases Nat.lt_or_ge passed next with before | behind
      · exact absent passed low before
      · exact none passed behind high

theorem callAt?_of_length_le {position : Nat}
    (behind : line.length ≤ position) : callAt? name line position = none := by
  rw [callAt?, List.drop_eq_nil_of_le behind]
  simp

theorem IsCall.stop_le_length {site : Site}
    (call : IsCall name line site) : site.stop ≤ line.length := by
  obtain ⟨_, _, _, _, rfl, _, _, _, position, start, stop⟩ := call
  simp only [List.length_append, List.length_cons]
  omega

/-- The scan takes what it should. -/
theorem leftmost_sitesFrom {name : List UInt8} (simple : byte '(' ∉ name) (line : List UInt8)
    (first : Nat) : Leftmost name line first (sitesFrom name first (line.drop first)) := by
  -- The induction is on the bytes that are left, since the scan jumps.
  induction left : line.length - first using Nat.strongRecOn generalizing first with
  | ind left ih =>
      rcases Nat.lt_or_ge first line.length with inside | behind
      · cases found : callAt? name line first with
        | some site =>
            have position := callAt?_position found
            subst position
            have further := (isCall_iff.mpr found).position_lt_stop
            rw [sitesFrom_call found]
            exact .call (Nat.le_refl _) found (fun passed low high => by omega)
              (ih _ (by omega) _ rfl)
        | none =>
            have further := lt_resumeAt name line first
            rw [sitesFrom_resume inside found]
            exact (ih _ (by omega) _ rfl).pass (Nat.le_of_lt further) fun passed =>
              callAt?_passed simple found
      · rw [List.drop_eq_nil_of_le behind, sitesFrom]
        exact .done fun passed low => callAt?_of_length_le (Nat.le_trans behind low)

/-! ## The selection -/

section Selection

variable {first : Nat} {chosen other : List Site}

theorem Leftmost.sound (leftmost : Leftmost name line first chosen) :
    ∀ site ∈ chosen, IsCall name line site := by
  induction leftmost with
  | done => simp
  | call _ found _ _ ih => exact List.forall_mem_cons.mpr ⟨isCall_iff.mpr found, ih⟩

theorem Leftmost.behind (leftmost : Leftmost name line first chosen) :
    ∀ site ∈ chosen, first ≤ site.position := by
  induction leftmost with
  | done => simp
  | call start found _ _ ih =>
      refine List.forall_mem_cons.mpr ⟨start, fun site inside => ?_⟩
      have := (isCall_iff.mpr found).position_lt_stop
      have := ih site inside
      omega

theorem Leftmost.apart (leftmost : Leftmost name line first chosen) :
    chosen.Pairwise fun a b => a.stop ≤ b.position := by
  induction leftmost with
  | done => exact .nil
  | call _ _ _ rest ih => exact .cons rest.behind ih

theorem Leftmost.complete (leftmost : Leftmost name line first chosen) {site : Site}
    (call : IsCall name line site) (start : first ≤ site.position) :
    site ∈ chosen ∨ ∃ earlier ∈ chosen, earlier.position < site.position ∧
      site.position < earlier.stop := by
  induction leftmost with
  | done none =>
      have found := isCall_iff.mp call
      rw [none _ start] at found
      cases found
  | @call first head chosen _ found none _ ih =>
      have found' := isCall_iff.mp call
      rcases Nat.lt_trichotomy site.position head.position with before | same | later
      · rw [none _ start before] at found'
        cases found'
      · rw [same, found] at found'
        cases found'
        exact .inl List.mem_cons_self
      · rcases Nat.lt_or_ge site.position head.stop with overlaps | behind
        · exact .inr ⟨head, List.mem_cons_self, later, overlaps⟩
        · rcases ih behind with inside | ⟨earlier, inside, overlap⟩
          · exact .inl (.tail _ inside)
          · exact .inr ⟨earlier, .tail _ inside, overlap⟩

theorem isSelection_sites (simple : byte '(' ∉ name) (line : List UInt8) :
    IsSelection name line (sites name line) := by
  have leftmost := leftmost_sitesFrom simple line 0
  rw [List.drop_zero] at leftmost
  refine ⟨leftmost.sound, ?_, leftmost.apart, fun site call => leftmost.complete call (Nat.zero_le _)⟩
  refine leftmost.apart.imp_of_mem fun member _ apart => ?_
  exact Nat.lt_of_lt_of_le (leftmost.sound _ member).position_lt_stop apart

theorem IsSelection.stop_le (selection : IsSelection name line chosen) {site later : Site}
    (member : site ∈ chosen) (member' : later ∈ chosen) (order : site.position < later.position) :
    site.stop ≤ later.position := by
  obtain ⟨i, inside, rfl⟩ := List.mem_iff_getElem.mp member
  obtain ⟨j, inside', rfl⟩ := List.mem_iff_getElem.mp member'
  have increasing := List.pairwise_iff_getElem.mp selection.increasing
  rcases Nat.lt_trichotomy i j with before | rfl | after
  · exact List.pairwise_iff_getElem.mp selection.apart i j inside inside' before
  · exact absurd order (Nat.lt_irrefl _)
  · exact absurd order (Nat.lt_asymm (increasing j i inside' inside after))

/-- What one selection takes, the other one takes: the leftmost site that it leaves out would have
to overlap an earlier one, which both take. -/
theorem IsSelection.subset (selection : IsSelection name line chosen)
    (selection' : IsSelection name line other) : ∀ site ∈ chosen, site ∈ other := by
  intro site member
  induction position : site.position using Nat.strongRecOn generalizing site chosen other with
  | ind position ih =>
      subst position
      rcases selection'.complete site (selection.sound site member) with
        taken | ⟨earlier, taken, before, overlaps⟩
      · exact taken
      · have shared := ih _ before selection' selection earlier taken rfl
        exact absurd (selection.stop_le shared member before) (Nat.not_le.mpr overlaps)

theorem IsSelection.unique (selection : IsSelection name line chosen)
    (selection' : IsSelection name line other) : chosen = other := by
  have distinct : ∀ {sites : List Site},
      sites.Pairwise (fun a b => a.position < b.position) → sites.Nodup :=
    fun increasing => increasing.imp fun order => by
      rintro rfl
      exact Nat.lt_irrefl _ order
  refine List.Perm.eq_of_pairwise (fun a b _ _ before after => ?_) selection.increasing
    selection'.increasing ?_
  · exact absurd before (Nat.lt_asymm after)
  · refine (List.perm_ext_iff_of_nodup (distinct selection.increasing)
      (distinct selection'.increasing)).mpr fun site => ?_
    exact ⟨selection.subset selection' site, selection'.subset selection site⟩

end Selection

/-! ## The texts -/

theorem Quote.ascii {quote : UInt8} (isQuote : Quote quote) : quote < 0x80 := by
  rcases isQuote with rfl | rfl <;> decide

theorem Quote.encode {quote : UInt8} (isQuote : Quote quote) :
    Utf8.encode [Char.ofNat quote.toNat] = [quote] := by
  rcases isQuote with rfl | rfl <;> decide

/-- A literal in a text is a text itself, as quotes do not stand inside characters. -/
theorem IsLiteral.exists_encode {literal before after : List UInt8} (isLiteral : IsLiteral literal)
    {cs : List Char} (split : Utf8.encode cs = before ++ (literal ++ after)) :
    ∃ inner, literal = Utf8.encode inner := by
  cases isLiteral with
  | @quoted quote units isQuote _ =>
      rw [List.cons_append] at split
      obtain ⟨_, back, rfl, _, rest⟩ := Utf8.exists_split isQuote.ascii split
      rw [List.append_assoc, List.singleton_append] at rest
      obtain ⟨inner, last, rfl, units_eq, _⟩ := Utf8.exists_split isQuote.ascii rest.symm
      refine ⟨[Char.ofNat quote.toNat] ++ (inner ++ [Char.ofNat quote.toNat]), ?_⟩
      rw [Utf8.encode_append, Utf8.encode_append, isQuote.encode, ← units_eq]
      rfl

theorem slice_append {before middle after : List UInt8} {start stop : Nat}
    (first : start = before.length) (last : stop = start + middle.length) :
    slice (before ++ (middle ++ after)) start stop = middle := by
  subst first last
  rw [slice, List.drop_left, Nat.add_sub_cancel_left, List.take_left]

theorem bytes_text_slice {name : List UInt8} {line : String} {site : Site}
    (call : IsCall name (Utf8.bytes line) site) :
    Utf8.bytes (Utf8.text (slice (Utf8.bytes line) site.start site.stop)) =
      slice (Utf8.bytes line) site.start site.stop := by
  obtain ⟨before, blanks, literal, tail, split, _, isLiteral, _, position, start, stop⟩ := call
  have split' : Utf8.bytes line = (before ++ name ++ byte '(' :: blanks) ++ (literal ++ tail) := by
    rw [split]
    simp only [List.append_assoc, List.cons_append]
  have first : site.start = (before ++ name ++ byte '(' :: blanks).length := by
    simp only [List.length_append, List.length_cons]
    omega
  obtain ⟨inner, rfl⟩ := isLiteral.exists_encode split'
  rw [split', slice_append first stop, Utf8.bytes, Utf8.text_encode, String.toList_ofList]

theorem not_mem_bytes {function : String} (simple : '(' ∉ function.toList) :
    byte '(' ∉ Utf8.bytes function :=
  fun member => simple (Utf8.mem_of_mem_encode (by decide) member)

/-- The literals of a line are those of its leftmost calls that do not overlap: there is exactly one
such selection of calls, and the scan returns the texts of its literals in order. -/
theorem literals_leftmost (function line : String) (simple : '(' ∉ function.toList) :
    ∃ chosen, IsSelection (Utf8.bytes function) (Utf8.bytes line) chosen ∧
      (∀ other, IsSelection (Utf8.bytes function) (Utf8.bytes line) other → other = chosen) ∧
      (literals function line).map (fun literal => Utf8.bytes literal.raw) =
        chosen.map fun site => slice (Utf8.bytes line) site.start site.stop := by
  have selection := isSelection_sites (not_mem_bytes simple) (Utf8.bytes line)
  refine ⟨_, selection, fun other selection' => selection'.unique selection, ?_⟩
  rw [literals, List.map_map]
  exact List.map_congr_left fun site member => bytes_text_slice (selection.sound site member)

/-- A call inside a call that fails is found, and so is the one behind it. -/
theorem literals_leftmost_nested :
    literals "t" "t(t('a')) + t('b')" = [⟨"'a'"⟩, ⟨"'b'"⟩] ∧ '(' ∉ "t".toList ∧
      ∃ chosen, IsSelection (Utf8.bytes "t") (Utf8.bytes "t(t('a')) + t('b')") chosen ∧
        (∀ other, IsSelection (Utf8.bytes "t") (Utf8.bytes "t(t('a')) + t('b')") other →
          other = chosen) ∧
        (literals "t" "t(t('a')) + t('b')").map (fun literal => Utf8.bytes literal.raw) =
          chosen.map fun site =>
            slice (Utf8.bytes "t(t('a')) + t('b')") site.start site.stop :=
  ⟨by decide +kernel, by decide, literals_leftmost _ _ (by decide)⟩

end MessageCatalog.Call
