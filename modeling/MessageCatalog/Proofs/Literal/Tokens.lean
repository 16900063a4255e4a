import MessageCatalog.Proofs.Literal

/-! # What literals mean

The body of a literal is a sequence of characters and escapes, in which an escaped quote means the
quote itself. The canonical spelling means the same as the literal. A literal in single quotes has no
other choice for its canonical spelling than what it means, so that two of them have the same one if
and only if they mean the same.
-/

namespace MessageCatalog.Literal

open Call (IsLiteral)

/-- What a character of a body means, or a backslash and the character behind it. -/
inductive Token where
  | plain (c : Char)
  | escaped (c : Char)
  deriving Repr, DecidableEq

namespace Token

/-- What a backslash and a character mean. A quote of either kind means the same without its
backslash. -/
def ofEscape (c : Char) : Token := if c = '\'' ∨ c = '"' then .plain c else .escaped c

/-- What a body means. Escapes are paired up from the left. -/
def ofBody : List Char → List Token
  | [] => []
  | '\\' :: c :: rest => ofEscape c :: ofBody rest
  | c :: rest => .plain c :: ofBody rest

def spelling : Token → List Char
  | .plain c => if c = '"' then ['\\', '"'] else [c]
  | .escaped c => ['\\', c]

theorem ofBody_plain {c : Char} (noEscape : c ≠ '\\') (rest : List Char) :
    ofBody (c :: rest) = .plain c :: ofBody rest := by
  rw [ofBody.eq_def]
  split
  · contradiction
  · rename_i same
    cases same
    exact absurd rfl noEscape
  · rename_i same
    cases same
    rfl

/-- A body between single quotes is respelled as its tokens are. -/
theorem requote_eq_flatMap {body : List Char} (isBody : Body '\'' body) :
    requote body = (ofBody body).flatMap spelling := by
  induction isBody with
  | nil => rfl
  | @escaped c rest _ ih =>
      rw [requote, ofBody, List.flatMap_cons, ← ih, ofEscape]
      by_cases single : c = '\''
      · subst single
        rfl
      by_cases double : c = '"'
      · subst double
        rfl
      · rw [if_neg single, if_neg (not_or.mpr ⟨single, double⟩)]
        rfl
  | @plain c rest _ noEscape _ ih =>
      rw [ofBody_plain noEscape, List.flatMap_cons, ← ih]
      by_cases double : c = '"'
      · subst double
        rfl
      · rw [requote_plain noEscape double, spelling, if_neg double, List.singleton_append]

theorem ofBody_requote {body : List Char} (isBody : Body '\'' body) :
    ofBody (requote body) = ofBody body := by
  induction isBody with
  | nil => rfl
  | @escaped c rest _ ih =>
      rw [requote]
      by_cases single : c = '\''
      · subst single
        rw [if_pos rfl, ofBody_plain (by decide), ih]
        rfl
      · rw [if_neg single, ofBody, ofBody, ih]
  | @plain c rest _ noEscape _ ih =>
      by_cases double : c = '"'
      · subst double
        rw [requote, ofBody, ih, ofBody_plain noEscape]
        rfl
      · rw [requote_plain noEscape double, ofBody_plain noEscape, ofBody_plain noEscape, ih]

end Token

/-- Whether the scan that begins at the first character of a literal takes all of it. -/
def IsWhole (l : Literal) : Prop :=
  Call.scanLiteral (Utf8.bytes l.raw) 0 = some (Utf8.bytes l.raw).length

instance (l : Literal) : Decidable l.IsWhole := inferInstanceAs (Decidable (_ = _))

def IsSingleQuoted (l : Literal) : Prop := l.raw.toList.head? = some '\''

instance (l : Literal) : Decidable l.IsSingleQuoted := inferInstanceAs (Decidable (_ = _))

/-- What a literal means: what stands between its first and its last character. -/
def tokens (l : Literal) : List Token := Token.ofBody l.raw.toList.tail.dropLast

/-- The literal that a catalog shows in place of another one. -/
def canonical (l : Literal) : Literal := ⟨l.normalized⟩

theorem isWhole_iff {l : Literal} : l.IsWhole ↔ IsLiteral (Utf8.bytes l.raw) := by
  rw [IsWhole, Call.scanLiteral, List.drop_zero]
  constructor
  · intro scanned
    obtain ⟨n, found, length⟩ := Option.map_eq_some_iff.mp scanned
    obtain ⟨literal, rest, bytes, isLiteral, rfl⟩ := Call.exists_literal found
    rw [bytes, List.length_append] at length
    obtain rfl : rest = [] := List.length_eq_zero_iff.mp (by omega)
    rwa [bytes, List.append_nil]
  · intro isLiteral
    have length := Call.literalLength?_append isLiteral []
    rw [List.append_nil] at length
    rw [length, Option.map_some, Nat.zero_add]

theorem tokens_quoted {quote : Char} {body : List Char} {l : Literal}
    (raw : l.raw.toList = quote :: (body ++ [quote])) : l.tokens = Token.ofBody body := by
  rw [tokens, raw, List.tail_cons, List.dropLast_concat]

theorem toList_normalized_single {body : List Char} {l : Literal}
    (raw : l.raw.toList = '\'' :: (body ++ ['\''])) (isBody : Body '\'' body) :
    l.normalized.toList = '"' :: (l.tokens.flatMap Token.spelling ++ ['"']) := by
  rw [normalized, String.toList_ofList, raw, normalizeChars_single, tokens_quoted raw,
    Token.requote_eq_flatMap isBody]

theorem exists_body {l : Literal} (whole : l.IsWhole) :
    ∃ quote body, (quote = '"' ∨ quote = '\'') ∧ l.raw.toList = quote :: (body ++ [quote]) ∧
      Body quote body := isLiteral_iff.mp (isWhole_iff.mp whole)

theorem IsSingleQuoted.exists_body {l : Literal} (single : l.IsSingleQuoted) (whole : l.IsWhole) :
    ∃ body, l.raw.toList = '\'' :: (body ++ ['\'']) ∧ Body '\'' body := by
  obtain ⟨quote, body, _, raw, isBody⟩ := Literal.exists_body whole
  rw [IsSingleQuoted, raw, List.head?_cons] at single
  obtain rfl := Option.some.inj single
  exact ⟨body, raw, isBody⟩

/-- The canonical spelling of a literal means the same. -/
theorem tokens_canonical {l : Literal} (whole : l.IsWhole) : l.canonical.tokens = l.tokens := by
  obtain ⟨quote, body, isQuote, raw, isBody⟩ := exists_body whole
  have spelled : l.canonical.raw.toList = normalizeChars l.raw.toList := by
    rw [canonical, normalized, String.toList_ofList]
  rw [raw] at spelled
  rcases isQuote with rfl | rfl
  · exact (tokens_quoted spelled).trans (tokens_quoted raw).symm
  · rw [normalizeChars_single] at spelled
    rw [tokens_quoted spelled, tokens_quoted raw, Token.ofBody_requote isBody]

/-- For every literal that a scan takes as a whole, in quotes of either kind, the canonical spelling
is such a literal, too, and means the same. Of two literals in single quotes the canonical spellings
are equal if and only if both mean the same. -/
theorem normalized_keeps_meaning {l : Literal} (whole : l.IsWhole) :
    l.canonical.IsWhole ∧ l.canonical.tokens = l.tokens ∧
      ∀ other : Literal, other.IsWhole → l.IsSingleQuoted → other.IsSingleQuoted →
        (l.normalized = other.normalized ↔ l.tokens = other.tokens) := by
  have string := isString_normalized (isWhole_iff.mp whole)
  refine ⟨string.scanned, tokens_canonical whole, fun other whole' single single' => ?_⟩
  constructor
  · intro same
    have canonical : l.canonical = other.canonical := congrArg Literal.mk same
    rw [← tokens_canonical whole, canonical, tokens_canonical whole']
  · intro same
    obtain ⟨body, raw, isBody⟩ := single.exists_body whole
    obtain ⟨body', raw', isBody'⟩ := single'.exists_body whole'
    rw [← String.toList_inj, toList_normalized_single raw isBody,
      toList_normalized_single raw' isBody', same]

/-- A bare double quote and an escaped one, each before an escaped backslash. -/
theorem normalized_keeps_meaning_double_quote :
    let l : Literal := ⟨"'\"\\\\'"⟩
    let other : Literal := ⟨"'\\\"\\\\'"⟩
    l.IsWhole ∧ other.IsWhole ∧ l.IsSingleQuoted ∧ other.IsSingleQuoted ∧
      l.tokens = [.plain '"', .escaped '\\'] ∧ l.normalized = other.normalized := by
  intro l other
  have whole : l.IsWhole := by decide +kernel
  have whole' : other.IsWhole := by decide +kernel
  have same : l.tokens = other.tokens := by decide +kernel
  have single : l.IsSingleQuoted := by decide +kernel
  have single' : other.IsSingleQuoted := by decide +kernel
  exact ⟨whole, whole', single, single', by decide +kernel,
    ((normalized_keeps_meaning whole).2.2 other whole' single single').mpr same⟩

end MessageCatalog.Literal
