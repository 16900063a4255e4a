import MessageCatalog.Json.Printer
import MessageCatalog.Proofs.Json.Tokens

/-! # Reading what was printed

Strings, counts and lists of strings are read as what they were printed for, whatever characters
are in the strings, as long as a count has no more than 64 bits.
-/

namespace MessageCatalog.Json

variable {P : List Char → Prop}

/-! ## Strings -/

theorem reads_escape_simple {letter c : Char} (simple : simpleEscape? letter = some c) :
    Reads escape (Then [letter] P) c P := by
  apply (reads_peek letter [] P).bind
  unfold simpleEscape? at simple
  split at simple <;> cases simple <;> exact (reads_eat _ P).map fun _ => _

theorem reads_hexEscape {a b : Char} {n : Nat} (value : hexValue '0' '0' a b = some n) :
    Reads hexEscape (Then ['0', '0', a, b] P) n P := by
  rintro _ mark ⟨rest, rfl, holds⟩
  refine ⟨rest, ⟨mark.line, mark.column + 4⟩, ?_, holds⟩
  simp [hexEscape, value, bind, StateT.bind, Except.bind, get, getThe, MonadStateOf.get, StateT.get,
    set, StateT.set, pure, StateT.pure, Except.pure]

theorem reads_escape_unicode {a b : Char} {n : Nat} (value : hexValue '0' '0' a b = some n)
    (small : n < 0x20) : Reads escape (Then ['u', '0', '0', a, b] P) (Char.ofNat n) P := by
  apply (reads_peek 'u' _ P).bind
  rw [then_cons]
  apply (reads_eat 'u' _).bind
  apply (reads_hexEscape value).bind
  have trailing : isTrailing n = false := by
    simp only [isTrailing, Bool.and_eq_false_iff, decide_eq_false_iff_not]
    omega
  have leading : isLeading n = false := by
    simp only [isLeading, Bool.and_eq_false_iff, decide_eq_false_iff_not]
    omega
  rw [if_neg (by simp [trailing]), if_neg (by simp [leading])]
  exact .pure _ P

theorem hexValue_hex_of_lt : ∀ n < 0x10, hexValue '0' '0' '0' (Nat.digitChar n) = some n := by
  decide

theorem hexValue_hex_of_le : ∀ n < 0x10,
    hexValue '0' '0' (Nat.digitChar 1) (Nat.digitChar n) = some (0x10 + n) := by
  decide

/-- A character is printed as an escape that is read as the character, or as itself. -/
theorem escapeChar_cases (c : Char) (P : List Char → Prop) :
    (∃ spelled, escapeChar c = '\\' :: spelled ∧ Reads escape (Then spelled P) c P) ∨
      escapeChar c = [c] ∧ c ≠ '"' ∧ c ≠ '\\' ∧ ¬c.toNat < 0x20 := by
  unfold escapeChar
  by_cases quoted : c = '"' ∨ c = '\\'
  · rw [if_pos quoted]
    refine .inl ⟨[c], rfl, reads_escape_simple ?_⟩
    rcases quoted with rfl | rfl <;> rfl
  rw [if_neg quoted]
  by_cases backspace : c = Char.ofNat 8
  · rw [if_pos backspace, backspace]
    exact .inl ⟨['b'], rfl, reads_escape_simple rfl⟩
  rw [if_neg backspace]
  by_cases formFeed : c = Char.ofNat 12
  · rw [if_pos formFeed, formFeed]
    exact .inl ⟨['f'], rfl, reads_escape_simple rfl⟩
  rw [if_neg formFeed]
  by_cases lineFeed : c = '\n'
  · rw [if_pos lineFeed, lineFeed]
    exact .inl ⟨['n'], rfl, reads_escape_simple rfl⟩
  rw [if_neg lineFeed]
  by_cases return_ : c = '\r'
  · rw [if_pos return_, return_]
    exact .inl ⟨['r'], rfl, reads_escape_simple rfl⟩
  rw [if_neg return_]
  by_cases tab : c = '\t'
  · rw [if_pos tab, tab]
    exact .inl ⟨['t'], rfl, reads_escape_simple rfl⟩
  rw [if_neg tab]
  by_cases ones : c.toNat < 0x10
  · rw [if_pos ones]
    have read := reads_escape_unicode (P := P) (hexValue_hex_of_lt c.toNat ones) (by omega)
    rw [Char.ofNat_toNat] at read
    refine .inl ⟨_, ?_, read⟩
    rw [Quoted.hex, Nat.toDigits_of_lt_base ones]
    rfl
  rw [if_neg ones]
  by_cases control : c.toNat < 0x20
  · rw [if_pos control]
    obtain ⟨n, spelled⟩ := Nat.exists_eq_add_of_le (Nat.le_of_not_lt ones)
    have read := reads_escape_unicode (P := P) (hexValue_hex_of_le n (by omega)) (by omega)
    rw [← spelled, Char.ofNat_toNat] at read
    refine .inl ⟨_, ?_, read⟩
    have first : c.toNat / 16 = 1 := by omega
    have second : c.toNat % 16 = n := by omega
    rw [Quoted.hex, Nat.toDigits_of_base_le (by decide) (Nat.le_of_not_lt ones), first, second,
      Nat.toDigits_of_lt_base (by omega)]
    rfl
  rw [if_neg control]
  rw [not_or] at quoted
  exact .inr ⟨rfl, quoted.1, quoted.2, control⟩

theorem reads_stringRest (cs : List Char) {fuel : Nat} {taken : List Char}
    (enough : cs.length < fuel) :
    Reads (stringRest fuel taken) (Then (cs.flatMap escapeChar) (Then ['"'] P))
      (String.ofList (taken.reverse ++ cs)) P := by
  induction cs generalizing fuel taken with
  | nil =>
      obtain ⟨fuel, rfl⟩ := Nat.exists_eq_succ_of_ne_zero (Nat.ne_zero_of_lt enough)
      rw [List.flatMap_nil, then_nil, List.append_nil]
      apply (reads_peek '"' [] P).bind
      exact (reads_eat '"' P).map fun _ => _
  | cons c cs ih =>
      obtain ⟨fuel, rfl⟩ := Nat.exists_eq_succ_of_ne_zero (Nat.ne_zero_of_lt enough)
      have rest := @ih fuel (c :: taken) (by simpa using enough)
      rw [List.reverse_cons, List.append_assoc, List.singleton_append] at rest
      rw [List.flatMap_cons, then_append]
      rcases escapeChar_cases c (Then (cs.flatMap escapeChar) (Then ['"'] P)) with
        ⟨spelled, printed, read⟩ | ⟨printed, quote, backslash, printable⟩
      · rw [printed]
        apply (reads_peek '\\' _ _).bind
        rw [then_cons]
        exact (reads_eat '\\' _).bind (read.bind rest)
      · rw [printed]
        apply (reads_peek c [] _).bind
        simp only [quote, backslash, printable, ↓reduceIte]
        exact (reads_eat c _).bind rest

theorem printString_eq (s : String) :
    printString s = ['"'] ++ (s.toList.flatMap escapeChar ++ ['"']) := rfl

theorem length_le_flatMap_escapeChar (cs : List Char) :
    cs.length ≤ (cs.flatMap escapeChar).length := by
  induction cs with
  | nil => exact Nat.le_refl 0
  | cons c cs ih =>
      have positive : 0 < (escapeChar c).length := by
        rcases escapeChar_cases c (fun _ => True) with ⟨_, printed, _⟩ | ⟨printed, _⟩ <;>
          simp [printed]
      simp only [List.length_cons, List.flatMap_cons, List.length_append]
      omega

theorem reads_string (s : String) : Reads string (Then (printString s) P) s P := by
  rw [printString_eq, then_append, then_append]
  apply (reads_eat '"' _).bind
  apply Reads.get
  rintro ⟨text, mark⟩ holds
  have enough : s.toList.length < text.length + 1 := by
    obtain ⟨rest, rfl, _⟩ := holds
    have := length_le_flatMap_escapeChar s.toList
    simp only [List.length_append]
    omega
  have read := @reads_stringRest P s.toList _ [] enough
  rw [List.reverse_nil, List.nil_append, String.ofList_toList] at read
  exact read.here holds

theorem reads_readString (s : String) (tokens : List (List Char)) :
    Reads readString (Spaced (printString s :: tokens)) s (Spaced tokens) := by
  apply (reads_peekToken _ (by decide) tokens).bind
  exact reads_string s

theorem reads_readOptional (s : String) (tokens : List (List Char)) :
    Reads readOptional (Spaced (printString s :: tokens)) (some s) (Spaced tokens) := by
  apply (reads_peekToken _ (by decide) tokens).bind
  exact ((reads_readString s tokens).map some).mono (fun _ => Then.spaced) fun _ left => left

/-! ## Counts -/

/-- Texts that do not go on with a number. -/
def EndsNumber (P : List Char → Prop) : Prop :=
  ∀ text, P text → ∀ c ∈ text.head?, c.isDigit = false ∧ c ≠ '.' ∧ c ≠ 'e' ∧ c ≠ 'E'

theorem endsNumber_spaced {c : Char} {cs : List Char} {tokens : List (List Char)}
    (stops : c.isDigit = false ∧ c ≠ '.' ∧ c ≠ 'e' ∧ c ≠ 'E') :
    EndsNumber (Spaced ((c :: cs) :: tokens)) := by
  intro text spaced d head
  cases spaced with
  | blank here more =>
      cases head
      unfold isBlank at here
      simp only [Bool.or_eq_true, decide_eq_true_eq] at here
      rcases here with ((rfl | rfl) | rfl) | rfl <;> decide
  | token token more =>
      cases head
      exact stops

theorem le_ofDigitChars (ds : List Char) (value : Nat) : value ≤ Nat.ofDigitChars 10 ds value := by
  induction ds generalizing value with
  | nil => exact Nat.le_refl value
  | cons d ds ih =>
      rw [Nat.ofDigitChars_cons]
      have := ih (10 * value + (d.toNat - '0'.toNat))
      omega

theorem reads_digits (ends : EndsNumber P) {ds : List Char} (digit : ∀ d ∈ ds, d.isDigit = true)
    {fuel value count : Nat} (enough : ds.length ≤ fuel)
    (small : Nat.ofDigitChars 10 ds value ≤ maxNatural) :
    Reads (digits fuel value count 0) (Then ds P)
      (Nat.ofDigitChars 10 ds value, count + ds.length, 0) P := by
  induction ds generalizing fuel value count with
  | nil =>
      rw [then_nil, Nat.ofDigitChars_nil]
      cases fuel with
      | zero => exact .pure _ P
      | succ fuel =>
          apply Reads.peek
          intro text holds
          cases text with
          | nil => exact (Reads.pure _ P).here holds
          | cons c text =>
              have stops := (ends _ holds c rfl).1
              simp only [List.head?_cons, stops, Bool.false_eq_true, ↓reduceIte]
              exact (Reads.pure _ P).here holds
  | cons d ds ih =>
      obtain ⟨first, others⟩ := List.forall_mem_cons.mp digit
      obtain ⟨fuel, rfl⟩ := Nat.exists_eq_succ_of_ne_zero (Nat.ne_zero_of_lt enough)
      rw [Nat.ofDigitChars_cons] at small ⊢
      have within := (le_ofDigitChars ds _).trans small
      apply (reads_peek d ds P).bind
      simp only [first, within, and_self, ↓reduceIte]
      rw [then_cons]
      apply (reads_eat d _).bind
      have rest := @ih others fuel _ (count + 1) (by simpa using enough) small
      rwa [List.length_cons, Nat.add_comm ds.length, ← Nat.add_assoc]

theorem reads_allDigits (ends : EndsNumber P) {ds : List Char}
    (digit : ∀ d ∈ ds, d.isDigit = true) {value : Nat}
    (small : Nat.ofDigitChars 10 ds value ≤ maxNatural) :
    Reads (allDigits value) (Then ds P) (Nat.ofDigitChars 10 ds value, ds.length, 0) P := by
  apply Reads.get
  rintro ⟨text, mark⟩ holds
  have enough : ds.length ≤ text.length := by
    obtain ⟨rest, rfl, _⟩ := holds
    simp
  have read := @reads_digits P ends ds digit _ value 0 enough small
  rw [Nat.zero_add] at read
  exact read.here holds

theorem head?_toDigits_ne {n : Nat} (some : n ≠ 0) :
    (Nat.toDigits 10 n).head? ≠ Option.some '0' := by
  induction n using Nat.strong_induction_on with
  | _ n ih =>
      by_cases small : n < 10
      · have digits : ∀ n < 10, n ≠ 0 → Nat.digitChar n ≠ '0' := by decide
        rw [Nat.toDigits_of_lt_base small]
        simpa using digits n small some
      · have tens : n / 10 ≠ 0 := by omega
        have head := ih (n / 10) (by omega) tens
        rw [Nat.toDigits_of_base_le (by decide) (by omega)]
        have some := Nat.toDigits_ne_nil (n := n / 10) (b := 10)
        rwa [List.head?_append_of_ne_nil _ some]

theorem reads_firstDigit {d : Char} (digit : d.isDigit = true) (ds : List Char) :
    Reads firstDigit (Then (d :: ds) P) (d.toNat - '0'.toNat) (Then ds P) := by
  apply (reads_peek d ds P).bind
  simp only [digit, ↓reduceIte]
  rw [then_cons]
  exact (reads_eat d _).map fun _ => d.toNat - '0'.toNat

theorem EndsNumber.head?_ne (ends : EndsNumber P) {text : List Char} (holds : P text) :
    text.head? ≠ some '.' ∧ text.head? ≠ some 'e' ∧ text.head? ≠ some 'E' ∧
      text.head?.any Char.isDigit = false := by
  cases head : text.head? with
  | none => simp
  | some c =>
      obtain ⟨digit, point, small, capital⟩ := ends text holds c head
      simp [digit, point, small, capital]

theorem reads_atExponent (ends : EndsNumber P) : Reads atExponent P false P := by
  apply Reads.peek
  intro text holds
  obtain ⟨-, small, capital, -⟩ := ends.head?_ne holds
  simp only [small, capital, decide_false, Bool.or_self]
  exact (Reads.pure false P).here holds

theorem reads_number (ends : EndsNumber P) {n : Nat} (small : n ≤ maxNatural) :
    Reads (number true) (Then (Nat.toDigits 10 n) P) (.natural n) P := by
  have digit : ∀ d ∈ Nat.toDigits 10 n, d.isDigit = true := by
    intro d member
    exact Nat.isDigit_of_mem_toDigits (by decide) (by decide) member
  have value : Nat.ofDigitChars 10 (Nat.toDigits 10 n) 0 = n :=
    Nat.ofDigitChars_toDigits (by decide) (by decide)
  have leading := @head?_toDigits_ne n
  obtain ⟨d, ds, spelled⟩ := List.exists_cons_of_ne_nil (@Nat.toDigits_ne_nil n 10)
  rw [spelled] at digit value leading ⊢
  obtain ⟨first, others⟩ := List.forall_mem_cons.mp digit
  rw [Nat.ofDigitChars_cons, Nat.mul_zero, Nat.zero_add] at value
  rw [← value] at small
  apply (reads_firstDigit first ds).bind
  apply Reads.peek
  intro text holds
  -- A zero in front is the whole number.
  have alone : ¬(d.toNat - '0'.toNat = 0 ∧ text.head?.any Char.isDigit = true) := by
    rintro ⟨none, more⟩
    have low := (Char.isDigit_iff_toNat.mp first).1
    have zero : d = '0' := Char.toNat_inj.mp (by omega)
    have whole : n = 0 := by
      by_contra some
      exact leading some (by rw [zero]; rfl)
    subst whole
    obtain ⟨-, rfl⟩ := List.cons.inj spelled
    rw [then_nil] at holds
    rw [(ends.head?_ne holds).2.2.2] at more
    cases more
  rw [if_neg alone]
  apply ((reads_allDigits ends others small).here holds).bind
  apply Reads.peek
  intro text holds
  simp only [(ends.head?_ne holds).1, ↓reduceIte]
  apply ((reads_atExponent ends).here holds).bind
  rw [value]
  exact Reads.pure _ P

theorem isBlank_of_isDigit {c : Char} (digit : c.isDigit = true) : isBlank c = false := by
  have low := (Char.isDigit_iff_toNat.mp digit).1
  unfold isBlank
  by_contra blank
  simp only [Bool.not_eq_false, Bool.or_eq_true, decide_eq_true_eq] at blank
  rcases blank with ((rfl | rfl) | rfl) | rfl <;> simp at low

theorem reads_readCount {tokens : List (List Char)} (ends : EndsNumber (Spaced tokens)) {n : Nat}
    (small : n ≤ maxNatural) :
    Reads readCount (Spaced (Nat.toDigits 10 n :: tokens)) n (Spaced tokens) := by
  obtain ⟨d, ds, spelled⟩ := List.exists_cons_of_ne_nil (@Nat.toDigits_ne_nil n 10)
  have digit : d.isDigit = true :=
    @Nat.isDigit_of_mem_toDigits 10 n d (by decide) (by decide) (by simp [spelled])
  have read := reads_number ends small
  rw [spelled] at read ⊢
  apply (reads_peekToken ds (isBlank_of_isDigit digit) tokens).bind
  split
  · rename_i none
    cases none
  · rename_i minus
    cases minus
    cases digit
  · rename_i same
    cases same
    simp only [digit, ↓reduceIte]
    exact read.bind (.pure n _)

/-! ## Lists of strings -/

/-- The tokens of items with a comma in front of each but the first. -/
def listed : Bool → List (List (List Char)) → List (List Char)
  | _, [] => []
  | isFirst, item :: items => (if isFirst then [] else [[',']]) ++ item ++ listed false items

def stringTokens (isFirst : Bool) (ss : List String) : List (List Char) :=
  listed isFirst (ss.map fun s => [printString s])

theorem reads_nextElement_end (isFirst : Bool) (tokens : List (List Char)) :
    Reads (nextElement isFirst) (Spaced ([']'] :: tokens)) false (Spaced ([']'] :: tokens)) := by
  apply (reads_peekToken [] (by decide) tokens).bind
  exact (Reads.pure false _).mono (fun _ left => left) fun _ left => left.spaced

theorem reads_nextElement {c : Char} (cs : List Char) (solid : isBlank c = false) (more : c ≠ ']')
    (isFirst : Bool) (tokens : List (List Char)) :
    Reads (nextElement isFirst) (Spaced ((if isFirst then [] else [[',']]) ++ (c :: cs) :: tokens))
      true (Spaced ((c :: cs) :: tokens)) := by
  have left : ∀ text, Then (c :: cs) (Spaced tokens) text → Spaced ((c :: cs) :: tokens) text :=
    fun _ => Then.spaced
  cases isFirst with
  | true =>
      apply (reads_peekToken cs solid tokens).bind
      split
      · rename_i none
        cases none
      · rename_i same
        cases same
        exact absurd rfl more
      · exact (Reads.pure true _).mono (fun _ holds => holds) left
  | false =>
      apply (reads_peekToken [] (by decide) _).bind
      apply (reads_eat ',' _).bind
      apply (reads_peekToken cs solid tokens).bind
      split
      · rename_i none
        cases none
      · rename_i same
        cases same
        exact absurd rfl more
      · exact (Reads.pure true _).mono (fun _ holds => holds) left

theorem stringTokens_cons (isFirst : Bool) (s : String) (ss : List String)
    (tokens : List (List Char)) :
    stringTokens isFirst (s :: ss) ++ tokens =
      (if isFirst then [] else [[',']]) ++ printString s :: (stringTokens false ss ++ tokens) := by
  simp [stringTokens, listed]

theorem reads_readStringsRest (ss : List String) {fuel : Nat} {taken : List String}
    (enough : ss.length < fuel) (tokens : List (List Char)) :
    Reads (readStringsRest fuel taken)
      (Spaced (stringTokens taken.isEmpty ss ++ [']'] :: tokens)) (taken.reverse ++ ss)
      (Spaced ([']'] :: tokens)) := by
  induction ss generalizing fuel taken with
  | nil =>
      obtain ⟨fuel, rfl⟩ := Nat.exists_eq_succ_of_ne_zero (Nat.ne_zero_of_lt enough)
      rw [List.append_nil]
      apply (reads_nextElement_end _ tokens).bind
      exact .pure _ _
  | cons s ss ih =>
      obtain ⟨fuel, rfl⟩ := Nat.exists_eq_succ_of_ne_zero (Nat.ne_zero_of_lt enough)
      have rest := @ih fuel (s :: taken) (by simpa using enough)
      rw [List.reverse_cons, List.append_assoc, List.singleton_append] at rest
      rw [stringTokens_cons]
      apply (reads_nextElement _ (by decide) (by decide) _ _).bind
      rw [if_pos rfl]
      exact (reads_readString s _).bind rest

theorem reads_endList (tokens : List (List Char)) :
    Reads endList (Spaced ([']'] :: tokens)) () (Spaced tokens) := by
  apply (reads_peekToken [] (by decide) tokens).bind
  exact reads_eat ']' _

theorem length_listed {items : List (List (List Char))} (some : ∀ item ∈ items, item ≠ [])
    (isFirst : Bool) : items.length ≤ (listed isFirst items).length := by
  induction items generalizing isFirst with
  | nil => exact Nat.zero_le _
  | cons item items ih =>
      obtain ⟨first, others⟩ := List.forall_mem_cons.mp some
      have positive := List.length_pos_iff.mpr first
      have := ih others false
      simp only [listed, List.length_cons, List.length_append]
      omega

theorem ne_nil_of_mem_listed {items : List (List (List Char))}
    (solid : ∀ item ∈ items, ∀ t ∈ item, t ≠ []) (isFirst : Bool) :
    ∀ t ∈ listed isFirst items, t ≠ [] := by
  induction items generalizing isFirst with
  | nil => exact nofun
  | cons item items ih =>
      obtain ⟨first, others⟩ := List.forall_mem_cons.mp solid
      intro t member
      simp only [listed, List.mem_append] at member
      rcases member with (comma | here) | later
      · cases isFirst with
        | true => cases comma
        | false =>
            rw [List.mem_singleton.mp comma]
            exact List.cons_ne_nil _ _
      · exact first t here
      · exact ih others false t later

theorem length_le_of_listed {items : List (List (List Char))} {tokens : List (List Char)}
    {text : List Char} (some : ∀ item ∈ items, item ≠ [])
    (solid : ∀ item ∈ items, ∀ t ∈ item, t ≠ []) {isFirst : Bool}
    (spaced : Spaced (listed isFirst items ++ tokens) text) : items.length ≤ text.length :=
  (length_listed some isFirst).trans (spaced.length_le (ne_nil_of_mem_listed solid isFirst))

theorem reads_readStrings (ss : List String) (tokens : List (List Char)) :
    Reads readStrings (Spaced (['['] :: (stringTokens true ss ++ [']'] :: tokens))) ss
      (Spaced tokens) := by
  apply (reads_peekToken [] (by decide) _).bind
  apply (reads_eat '[' _).bind
  apply Reads.get
  rintro ⟨text, mark⟩ spaced
  have enough : ss.length ≤ text.length := by
    have items := length_le_of_listed (by simp) (by simp [printString]) spaced
    rwa [List.length_map] at items
  have rest := @reads_readStringsRest ss _ [] (Nat.lt_succ_of_le enough) tokens
  apply (rest.here spaced).bind
  exact (reads_endList tokens).map fun _ => ss

end MessageCatalog.Json
