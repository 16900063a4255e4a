import MessageCatalog.Proofs.Call.Selection
import MessageCatalog.Proofs.Literal

/-! # Messages in source lines

A message may be written in single or in double quotes. Both spellings come back from a call as they
are written, and both have the same canonical spelling, from which the message can be read again.
-/

namespace MessageCatalog.Call

/-- Backslashes before the backslashes and the quotes of one kind. -/
def escape (quote : Char) (message : List Char) : List Char :=
  message.flatMap fun c => if c = '\\' ∨ c = quote then ['\\', c] else [c]

/-- The literal of a message in quotes of one kind. -/
def quoted (quote : Char) (message : String) : String :=
  String.ofList (quote :: (escape quote message.toList ++ [quote]))

/-- The message whose escapes stand before a closing double quote, with nothing behind that. Only
backslashes and double quotes may be escaped. -/
def readEscaped? : List Char → Option (List Char)
  | [] => none
  | '"' :: rest => if rest.isEmpty then some [] else none
  | '\\' :: rest =>
    match rest with
    | [] => none
    | c :: rest =>
      if c = '\\' ∨ c = '"' then (readEscaped? rest).map (c :: ·) else none
  | c :: rest => (readEscaped? rest).map (c :: ·)

/-- The message of a literal in double quotes. -/
def message? (literal : String) : Option String :=
  match literal.toList with
  | '"' :: rest => (readEscaped? rest).map String.ofList
  | _ => none

theorem escape_cons_special {quote c : Char} (special : c = '\\' ∨ c = quote) (message : List Char) :
    escape quote (c :: message) = '\\' :: c :: escape quote message := by
  simp only [escape, List.flatMap_cons, if_pos special, List.cons_append, List.nil_append]

theorem escape_cons_plain {quote c : Char} (plain : ¬ (c = '\\' ∨ c = quote))
    (message : List Char) : escape quote (c :: message) = c :: escape quote message := by
  simp only [escape, List.flatMap_cons, if_neg plain, List.cons_append, List.nil_append]

/-! ## The canonical spelling -/

theorem requote_escape (message : List Char) :
    Literal.requote (escape '\'' message) = escape '"' message := by
  induction message with
  | nil => rfl
  | cons c message ih =>
      by_cases backslash : c = '\\'
      · subst backslash
        rw [escape_cons_special (.inl rfl), escape_cons_special (.inl rfl), Literal.requote, ih]
        rfl
      by_cases single : c = '\''
      · subst single
        rw [escape_cons_special (.inr rfl), escape_cons_plain (by decide), Literal.requote, ih]
        rfl
      by_cases double : c = '"'
      · subst double
        rw [escape_cons_plain (by decide), escape_cons_special (.inr rfl), Literal.requote, ih]
      · rw [escape_cons_plain (by simp [backslash, single]),
          escape_cons_plain (by simp [backslash, double]), Literal.requote_plain backslash double,
          ih]

theorem normalized_quoted {quote : Char} (isQuote : quote = '"' ∨ quote = '\'') (message : String) :
    (Literal.mk (quoted quote message)).normalized = quoted '"' message := by
  rw [Literal.normalized, quoted, String.toList_ofList, quoted]
  rcases isQuote with rfl | rfl
  · rfl
  · rw [Literal.normalizeChars_single, requote_escape]

theorem readEscaped?_plain {c : Char} (noEscape : c ≠ '\\') (noQuote : c ≠ '"')
    (rest : List Char) : readEscaped? (c :: rest) = (readEscaped? rest).map (c :: ·) := by
  rw [readEscaped?.eq_def]
  split <;> simp_all

theorem readEscaped?_escape (message : List Char) :
    readEscaped? (escape '"' message ++ ['"']) = some message := by
  induction message with
  | nil => rfl
  | cons c message ih =>
      by_cases special : c = '\\' ∨ c = '"'
      · rw [escape_cons_special special, List.cons_append, List.cons_append, readEscaped?]
        simp only [special, if_true, ih, Option.map_some]
      · obtain ⟨noEscape, noQuote⟩ := not_or.mp special
        rw [escape_cons_plain special, List.cons_append, readEscaped?_plain noEscape noQuote, ih,
          Option.map_some]

theorem message?_quoted (message : String) : message? (quoted '"' message) = some message := by
  simp only [message?, quoted, String.toList_ofList, readEscaped?_escape, Option.map_some,
    String.ofList_toList]

/-! ## The literal -/

theorem body_escape (quote : Char) (message : List Char) :
    Literal.Body quote (escape quote message) := by
  induction message with
  | nil => exact .nil
  | cons c message ih =>
      by_cases special : c = '\\' ∨ c = quote
      · rw [escape_cons_special special]
        exact .escaped ih
      · rw [escape_cons_plain special]
        obtain ⟨noEscape, noQuote⟩ := not_or.mp special
        exact .plain noQuote noEscape ih

theorem isLiteral_quoted {quote : Char} (isQuote : quote = '"' ∨ quote = '\'')
    (message : String) : IsLiteral (Utf8.bytes (quoted quote message)) := by
  rw [Utf8.bytes, quoted, String.toList_ofList]
  exact Literal.isLiteral_iff.mpr ⟨quote, _, isQuote, rfl, body_escape quote message.toList⟩

/-! ## The scan -/

section Scan

variable {name line : List UInt8}

theorem sitesFrom_absent {first next : Nat} (later : first ≤ next) (inside : next ≤ line.length)
    (absent : ∀ passed, first ≤ passed → passed < next →
      ¬ name ++ [byte '('] <+: line.drop passed) :
    sitesFrom name first (line.drop first) = sitesFrom name next (line.drop next) := by
  induction later with
  | refl => rfl
  | @step next later ih =>
      rw [ih (Nat.le_of_succ_le inside) fun passed low high =>
        absent passed low (Nat.lt_succ_of_lt high)]
      refine sitesFrom_pass inside (Bool.eq_false_iff.mpr fun named => ?_)
      exact absent next later (Nat.lt_succ_self next) (List.isPrefixOf_iff_prefix.mp named)

/-- The only call of a line is found, if the name stands nowhere before it and behind its
literal. -/
theorem sites_single {site : Site} (call : IsCall name line site)
    (before : ∀ passed < site.position, ¬ name ++ [byte '('] <+: line.drop passed)
    (behind : ∀ passed, site.stop ≤ passed → ¬ name ++ [byte '('] <+: line.drop passed) :
    sites name line = [site] := by
  have last := call.stop_le_length
  have inside := Nat.le_trans (Nat.le_of_lt call.position_lt_stop) last
  have start : sites name line = sitesFrom name site.position (line.drop site.position) := by
    rw [← sitesFrom_absent (Nat.zero_le _) inside (fun passed _ => before passed), List.drop_zero,
      sites]
  have rest : sitesFrom name site.stop (line.drop site.stop) = [] := by
    rw [sitesFrom_absent last (Nat.le_refl _) (fun passed low _ => behind passed low),
      List.drop_length, sitesFrom]
  rw [start, sitesFrom_call (isCall_iff.mp call), rest]

end Scan

/-! ## The round trip -/

def callLine (before function blanks literal tail : String) : String :=
  before ++ function ++ "(" ++ blanks ++ literal ++ tail

/-- Whether the name of `function` and a parenthesis stand at a character of a text. -/
def OpensAt (function text : String) (position : Nat) : Prop :=
  function.toList ++ ['('] <+: text.toList.drop position

instance (function text : String) (position : Nat) : Decidable (OpensAt function text position) :=
  inferInstanceAs (Decidable (_ <+: _))

theorem OpensAt.lt_length {function text : String} {position : Nat}
    (opens : OpensAt function text position) : position < text.length := by
  refine Nat.lt_of_not_le fun behind => ?_
  rw [OpensAt, List.drop_eq_nil_of_le (String.length_toList ▸ behind)] at opens
  simp at opens

theorem bytes_callLine (before function blanks literal tail : String) :
    Utf8.bytes (callLine before function blanks literal tail) =
      Utf8.bytes before ++ (Utf8.bytes function ++ byte '(' ::
        (Utf8.bytes blanks ++ (Utf8.bytes literal ++ Utf8.bytes tail))) := by
  have parenthesis : Utf8.bytes "(" = [byte '('] := by decide
  simp only [callLine, Utf8.bytes_append, parenthesis, List.append_assoc, List.cons_append,
    List.nil_append]

theorem exists_opensAt {function text : String} {n : Nat}
    (named : Utf8.bytes function ++ [byte '('] <+: (Utf8.bytes text).drop n) :
    ∃ front back, text.toList = front ++ back ∧ n = (Utf8.encode front).length ∧
      OpensAt function text front.length := by
  have encoded : Utf8.bytes function ++ [byte '('] = Utf8.encode (function.toList ++ ['(']) := by
    rw [Utf8.encode_append]
    rfl
  rw [encoded] at named
  obtain ⟨front, back, split, length, opens⟩ := Utf8.exists_of_encode_prefix (by simp) named
  refine ⟨front, back, split, length, ?_⟩
  rw [OpensAt, split, List.drop_left]
  exact opens

theorem blank_of_mem_bytes {blanks : String}
    (blank : ∀ c ∈ blanks.toList, c ∈ [' ', '\t', '\n', '\x0c', '\r']) :
    ∀ b ∈ Utf8.bytes blanks, Blank b := by
  intro b member
  obtain ⟨c, inside, encoded⟩ := List.mem_flatMap.mp member
  have bytes : [' ', '\t', '\n', '\x0c', '\r'].all
      (fun c => (String.utf8EncodeChar c).all isBlank) = true := by decide
  exact isBlank_iff.mp (List.all_eq_true.mp (List.all_eq_true.mp bytes c (blank c inside)) b encoded)

def callSite (before function blanks literal : String) : Site where
  position := (Utf8.bytes before).length
  start := (Utf8.bytes (before ++ function ++ "(" ++ blanks)).length
  stop := (Utf8.bytes (before ++ function ++ "(" ++ blanks ++ literal)).length

section CallLine

variable {before function blanks literal tail : String}

theorem isCall_callLine (blank : ∀ c ∈ blanks.toList, c ∈ [' ', '\t', '\n', '\x0c', '\r'])
    (isLiteral : IsLiteral (Utf8.bytes literal)) (closes : closesCall (Utf8.bytes tail) = true) :
    IsCall (Utf8.bytes function) (Utf8.bytes (callLine before function blanks literal tail))
      (callSite before function blanks literal) := by
  refine ⟨_, _, _, _, bytes_callLine before function blanks literal tail, blank_of_mem_bytes blank,
    isLiteral, closes, rfl, ?_, ?_⟩
  · simp only [callSite, Utf8.bytes_append, List.length_append]
    rfl
  · rw [callSite, Utf8.bytes_append _ literal, List.length_append]

theorem slice_callSite :
    slice (Utf8.bytes (callLine before function blanks literal tail))
      (callSite before function blanks literal).start
      (callSite before function blanks literal).stop = Utf8.bytes literal := by
  rw [callLine, Utf8.bytes_append, Utf8.bytes_append _ literal, List.append_assoc]
  refine slice_append rfl ?_
  rw [callSite, Utf8.bytes_append _ literal, List.length_append]

theorem absent_before (only : ∀ position < before.length,
      ¬ OpensAt function (callLine before function blanks literal tail) position) :
    ∀ passed < (callSite before function blanks literal).position,
      ¬ Utf8.bytes function ++ [byte '('] <+:
        (Utf8.bytes (callLine before function blanks literal tail)).drop passed := by
  intro passed earlier named
  obtain ⟨front, back, same, rfl, opens⟩ := exists_opensAt named
  have shared : front ++ back =
      before.toList ++ (function ++ "(" ++ blanks ++ literal ++ tail).toList := by
    rw [← same]
    simp only [callLine, String.toList_append, List.append_assoc]
  have shorter := Utf8.length_lt_of_encode shared earlier
  rw [String.length_toList] at shorter
  exact only front.length shorter opens

theorem absent_behind (last : ∀ position < tail.length, ¬ OpensAt function tail position) :
    ∀ passed, (callSite before function blanks literal).stop ≤ passed →
      ¬ Utf8.bytes function ++ [byte '('] <+:
        (Utf8.bytes (callLine before function blanks literal tail)).drop passed := by
  intro passed later named
  obtain ⟨further, rfl⟩ := Nat.exists_eq_add_of_le later
  rw [callLine, Utf8.bytes_append, callSite, List.drop_length_add_append] at named
  obtain ⟨front, _, _, _, opens⟩ := exists_opensAt named
  exact last front.length opens.lt_length opens

/-- A line holds one call if the name opens no other call before it and behind its literal. -/
theorem literals_callLine (only : ∀ position < before.length,
      ¬ OpensAt function (callLine before function blanks literal tail) position)
    (blank : ∀ c ∈ blanks.toList, c ∈ [' ', '\t', '\n', '\x0c', '\r'])
    (isLiteral : IsLiteral (Utf8.bytes literal)) (closes : closesCall (Utf8.bytes tail) = true)
    (last : ∀ position < tail.length, ¬ OpensAt function tail position) :
    literals function (callLine before function blanks literal tail) = [⟨literal⟩] := by
  have found := sites_single (isCall_callLine blank isLiteral closes) (absent_before only)
    (absent_behind last)
  rw [literals, found, List.map_singleton, slice_callSite, Utf8.bytes, Utf8.text_encode,
    String.ofList_toList]

end CallLine

/-- A message comes back from either of its spellings, behind any text and before any tail in which
the name does not open another call. -/
theorem literals_quoted (before function blanks message tail : String) (quote : Char)
    (isQuote : quote = '"' ∨ quote = '\'')
    (only : ∀ position < before.length,
      ¬ OpensAt function (callLine before function blanks (quoted quote message) tail) position)
    (blank : ∀ c ∈ blanks.toList, c ∈ [' ', '\t', '\n', '\x0c', '\r'])
    (closes : closesCall (Utf8.bytes tail) = true)
    (last : ∀ position < tail.length, ¬ OpensAt function tail position) :
    literals function (callLine before function blanks (quoted quote message) tail) =
        [⟨quoted quote message⟩] ∧
      (Literal.mk (quoted quote message)).normalized = quoted '"' message ∧
      message? (quoted '"' message) = some message := by
  refine ⟨?_, normalized_quoted isQuote message, message?_quoted message⟩
  exact literals_callLine only blank (isLiteral_quoted isQuote message) closes last

/-- A message with both quotes, a backslash and the name of the function. -/
theorem literals_quoted_single :
    callLine "x = " "t" " " (quoted '\'' "it's \"t(\\1)\"") ", n)" =
        "x = t( 'it\\'s \"t(\\\\1)\"', n)" ∧
      literals "t" (callLine "x = " "t" " " (quoted '\'' "it's \"t(\\1)\"") ", n)") =
        [⟨quoted '\'' "it's \"t(\\1)\""⟩] ∧
      (Literal.mk (quoted '\'' "it's \"t(\\1)\"")).normalized = quoted '"' "it's \"t(\\1)\"" ∧
      message? (quoted '"' "it's \"t(\\1)\"") = some "it's \"t(\\1)\"" :=
  ⟨by decide +kernel, literals_quoted "x = " "t" " " "it's \"t(\\1)\"" ", n)" '\'' (.inr rfl)
    (by decide +kernel) (by simp) (by decide +kernel) (by decide +kernel)⟩

end MessageCatalog.Call
