import MessageCatalog.Proofs.Call.Grammar
import MessageCatalog.Proofs.Utf8

/-! # Bodies of literals

What stands between the quotes of a literal, character by character. Quotes and backslashes are
single bytes, and a byte that a backslash takes along may begin a longer character but never end
the literal, so that a scan over bytes finds the same bodies. The canonical spelling of a scanned
literal is one double-quoted string, from its first character to its last.
-/

namespace MessageCatalog

namespace Call

theorem Units.exists_escaped {quote : UInt8} {rest : List UInt8}
    (units : Units quote (byte '\\' :: rest)) : ∃ b more, rest = b :: more ∧ Units quote more := by
  cases units with
  | escaped units => exact ⟨_, _, rfl, units⟩
  | plain _ noEscape _ => exact absurd rfl noEscape

theorem Units.tail {quote b : UInt8} {rest : List UInt8} (noEscape : b ≠ byte '\\')
    (units : Units quote (b :: rest)) : b ≠ quote ∧ Units quote rest := by
  cases units with
  | escaped units => exact absurd rfl noEscape
  | plain other _ units => exact ⟨other, units⟩

theorem Units.of_append {quote : UInt8} {plain rest : List UInt8}
    (noEscape : ∀ b ∈ plain, b ≠ byte '\\') (units : Units quote (plain ++ rest)) :
    Units quote rest := by
  induction plain with
  | nil => exact units
  | cons b plain ih =>
      obtain ⟨first, others⟩ := List.forall_mem_cons.mp noEscape
      exact ih others (units.tail first).2

theorem Units.append_plain {quote : UInt8} {plain rest : List UInt8}
    (other : ∀ b ∈ plain, b ≠ quote ∧ b ≠ byte '\\') (body : Units quote rest) :
    Units quote (plain ++ rest) := by
  induction plain with
  | nil => exact body
  | cons b plain ih =>
      obtain ⟨⟨noQuote, noEscape⟩, others⟩ := List.forall_mem_cons.mp other
      exact .plain noQuote noEscape (ih others)

end Call

namespace Literal

open Call (byte Quote Units IsLiteral)

/-- What may stand between two quotes: escapes, each a backslash with any character, and characters
other than the quote and the backslash. -/
inductive Body (quote : Char) : List Char → Prop where
  | nil : Body quote []
  | escaped {c : Char} {rest : List Char} : Body quote rest → Body quote ('\\' :: c :: rest)
  | plain {c : Char} {rest : List Char} : c ≠ quote → c ≠ '\\' → Body quote rest →
    Body quote (c :: rest)

/-- A double-quoted string and nothing else: no double quote stands in it without a backslash, and
the scan that begins at its first character ends behind its last one. -/
structure IsString (text : String) : Prop where
  body : ∃ body, text.toList = '"' :: (body ++ ['"']) ∧ Body '"' body
  scanned : Call.scanLiteral (Utf8.bytes text) 0 = some (Utf8.bytes text).length

section Bytes

variable {quote q : Char}

theorem toNat_byte (ascii : q.toNat ≤ 0x7F) : (byte q).toNat = q.toNat :=
  UInt8.toNat_ofNat_of_lt' (by simp only [UInt8.size]; omega)

theorem byte_lt (ascii : q.toNat ≤ 0x7F) : byte q < 0x80 := by
  simp only [UInt8.lt_iff_toNat_lt, toNat_byte ascii, UInt8.reduceToNat]
  omega

theorem ne_byte_of_ne (ascii : q.toNat ≤ 0x7F) {c : Char} (other : c ≠ q) :
    ∀ b ∈ String.utf8EncodeChar c, b ≠ byte q := by
  rintro b member rfl
  have same := Utf8.eq_of_mem_utf8EncodeChar member (byte_lt ascii)
  rw [toNat_byte ascii, Char.ofNat_toNat] at same
  exact other same

theorem ne_byte_of_isContinuation (ascii : q.toNat ≤ 0x7F) {b : UInt8}
    (continues : Utf8.isContinuation b = true) : b ≠ byte q := by
  rintro rfl
  exact Utf8.not_ascii_of_isContinuation continues (byte_lt ascii)

theorem units_of_body (ascii : quote.toNat ≤ 0x7F) {body : List Char} (isBody : Body quote body) :
    Units (byte quote) (Utf8.encode body) := by
  induction isBody with
  | nil => exact .nil
  | @escaped c rest _ ih =>
      -- The backslash takes the first byte of the character along, and the others are no quotes.
      obtain ⟨first, more, encoded⟩ := Utf8.exists_encoded c
      rw [Utf8.encode_cons_ascii (by decide), encoded.encode_cons]
      refine .escaped (ih.append_plain fun b member => ?_)
      have continues := encoded.continues b member
      exact ⟨ne_byte_of_isContinuation ascii continues,
        ne_byte_of_isContinuation (by decide) continues⟩
  | @plain c rest other noEscape _ ih =>
      refine ih.append_plain fun b member => ?_
      exact ⟨ne_byte_of_ne ascii other b member, ne_byte_of_ne (by decide) noEscape b member⟩

theorem body_of_units (ascii : quote.toNat ≤ 0x7F) {body : List Char}
    (units : Units (byte quote) (Utf8.encode body)) : Body quote body := by
  -- The induction is on the length, since an escape takes two characters.
  induction length : body.length using Nat.strongRecOn generalizing body with
  | ind n ih =>
      subst length
      rcases body with _ | ⟨c, rest⟩
      · exact .nil
      by_cases escape : c = '\\'
      · subst escape
        rw [Utf8.encode_cons_ascii (by decide)] at units
        obtain ⟨b, more, bytes, inner⟩ := units.exists_escaped
        rcases rest with _ | ⟨d, rest⟩
        · cases bytes
        obtain ⟨first, continued, encoded⟩ := Utf8.exists_encoded d
        rw [encoded.encode_cons] at bytes
        obtain ⟨rfl, rfl⟩ := List.cons.inj bytes
        have behind : Units (byte quote) (Utf8.encode rest) := inner.of_append fun b member =>
          ne_byte_of_isContinuation (by decide) (encoded.continues b member)
        exact .escaped (ih _ (by simp only [List.length_cons]; omega) behind rfl)
      · obtain ⟨first, more, encoded⟩ := Utf8.exists_encoded c
        have noEscape := ne_byte_of_ne (by decide) escape
        rw [encoded.bytes] at noEscape
        obtain ⟨firstNoEscape, moreNoEscape⟩ := List.forall_mem_cons.mp noEscape
        rw [encoded.encode_cons] at units
        obtain ⟨other, inner⟩ := units.tail firstNoEscape
        refine .plain ?_ escape (ih _ (by simp) (inner.of_append moreNoEscape) rfl)
        rintro rfl
        have bytes := encoded.bytes.symm.trans (Utf8.encoded_one ascii).bytes
        exact other (List.cons.inj bytes).1

theorem quote_ascii (isQuote : quote = '"' ∨ quote = '\'') : quote.toNat ≤ 0x7F := by
  rcases isQuote with rfl | rfl <;> decide

theorem quote_byte (isQuote : quote = '"' ∨ quote = '\'') : Quote (byte quote) := by
  rcases isQuote with rfl | rfl
  · exact .inl rfl
  · exact .inr rfl

theorem exists_quote {b : UInt8} (isQuote : Quote b) :
    ∃ quote, (quote = '"' ∨ quote = '\'') ∧ b = byte quote := by
  rcases isQuote with rfl | rfl
  · exact ⟨_, .inl rfl, rfl⟩
  · exact ⟨_, .inr rfl, rfl⟩

theorem isLiteral_iff {raw : List Char} : IsLiteral (Utf8.encode raw) ↔
    ∃ quote body, (quote = '"' ∨ quote = '\'') ∧ raw = quote :: (body ++ [quote]) ∧
      Body quote body := by
  constructor
  · intro isLiteral
    generalize bytes : Utf8.encode raw = literal at isLiteral
    cases isLiteral with
    | quoted isQuote units =>
        obtain ⟨quote, known, rfl⟩ := exists_quote isQuote
        have ascii := quote_ascii known
        obtain ⟨front, rest, rfl, nothing, behind⟩ :=
          Utf8.exists_split (byte_lt ascii) (bytes.trans (List.nil_append _).symm)
        obtain ⟨body, last, rfl, rfl, nothing'⟩ :=
          Utf8.exists_split (byte_lt ascii) behind.symm
        rw [Utf8.eq_nil_of_encode nothing.symm, Utf8.eq_nil_of_encode nothing'.symm,
          toNat_byte ascii, Char.ofNat_toNat]
        exact ⟨quote, body, known, rfl, body_of_units ascii units⟩
  · rintro ⟨quote, body, known, rfl, isBody⟩
    have ascii := quote_ascii known
    rw [Utf8.encode_cons_ascii ascii, Utf8.encode_append, Utf8.encode_cons_ascii ascii]
    exact .quoted (quote_byte known) (units_of_body ascii isBody)

end Bytes

/-! ## The canonical spelling -/

theorem isString_of_body {body : List Char} (isBody : Body '"' body) :
    IsString (String.ofList ('"' :: (body ++ ['"']))) := by
  refine ⟨⟨body, String.toList_ofList, isBody⟩, ?_⟩
  have isLiteral : IsLiteral (Utf8.bytes (String.ofList ('"' :: (body ++ ['"'])))) := by
    rw [Utf8.bytes, String.toList_ofList]
    exact isLiteral_iff.mpr ⟨'"', body, .inl rfl, rfl, isBody⟩
  have length := Call.literalLength?_append isLiteral []
  rw [List.append_nil] at length
  rw [Call.scanLiteral, List.drop_zero, length, Option.map_some, Nat.zero_add]

theorem requote_plain {c : Char} (noEscape : c ≠ '\\') (noQuote : c ≠ '"') (rest : List Char) :
    requote (c :: rest) = c :: requote rest := by
  rw [requote.eq_def]
  split <;> simp_all

/-- A body between single quotes becomes one between double quotes. -/
theorem body_requote {body : List Char} (isBody : Body '\'' body) : Body '"' (requote body) := by
  induction isBody with
  | nil => exact .nil
  | @escaped c rest _ ih =>
      rw [requote]
      split
      · exact .plain (by decide) (by decide) ih
      · exact .escaped ih
  | @plain c rest _ noEscape _ ih =>
      by_cases double : c = '"'
      · subst double
        exact .escaped ih
      · rw [requote_plain noEscape double]
        exact .plain double noEscape ih

theorem singleQuotedBody?_iff {raw body : List Char} :
    singleQuotedBody? raw = some body ↔ raw = '\'' :: (body ++ ['\'']) := by
  constructor
  · intro found
    rw [singleQuotedBody?.eq_def] at found
    split at found
    · split at found
      · rename_i last
        cases found
        rw [List.dropLast_append_getLast? _ last]
      · cases found
    · cases found
  · rintro rfl
    simp only [singleQuotedBody?, List.getLast?_append, List.getLast?_singleton, Option.some_or,
      if_true, List.dropLast_concat]

theorem normalizeChars_single (body : List Char) :
    normalizeChars ('\'' :: (body ++ ['\''])) = '"' :: (requote body ++ ['"']) := by
  rw [normalizeChars, singleQuotedBody?_iff.mpr rfl]

theorem isString_normalized {literal : Literal} (isLiteral : IsLiteral (Utf8.bytes literal.raw)) :
    IsString literal.normalized := by
  obtain ⟨quote, body, isQuote, raw, isBody⟩ := isLiteral_iff.mp isLiteral
  rw [normalized, raw]
  rcases isQuote with rfl | rfl
  · exact isString_of_body isBody
  · rw [normalizeChars_single]
    exact isString_of_body (body_requote isBody)

theorem mem_of_mem_requote {c : Char} {body : List Char} (member : c ∈ requote body) :
    c = '\\' ∨ c ∈ body := by
  fun_induction requote body <;> grind

/-- The canonical spelling has no other characters than the literal and its quotes and escapes. -/
theorem mem_of_mem_normalized {c : Char} {literal : Literal}
    (member : c ∈ literal.normalized.toList) : c = '"' ∨ c = '\\' ∨ c ∈ literal.raw.toList := by
  rw [normalized, String.toList_ofList, normalizeChars] at member
  split at member
  · rename_i body found
    rw [singleQuotedBody?_iff.mp found]
    simp only [List.mem_cons, List.mem_append, List.not_mem_nil, or_false] at member ⊢
    rcases member with quote | inside | quote
    · exact .inl quote
    · exact .inr ((mem_of_mem_requote inside).imp_right fun inside => .inr (.inl inside))
    · exact .inl quote
  · exact .inr (.inr member)

end Literal

end MessageCatalog
