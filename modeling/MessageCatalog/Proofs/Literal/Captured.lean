import MessageCatalog.Proofs.Literal.Tokens

/-! # Text between single quotes

The literal of a search pattern is whatever its group matches, and no scan has delimited it. Any text
may stand between its single quotes: bare single quotes, or a backslash at the end that escapes
nothing. Respelling pairs escapes up from the left, like a scan does, so that only a last backslash
without a partner goes wrong: it takes the closing double quote along.
-/

namespace MessageCatalog.Literal

open Call (byte)

/-- The number of backslashes at the end of a text. -/
def backslashesAtEnd (text : List Char) : Nat := (text.rtakeWhile (· = '\\')).length

theorem backslashesAtEnd_concat (text : List Char) (c : Char) :
    backslashesAtEnd (text ++ [c]) = if c = '\\' then backslashesAtEnd text + 1 else 0 := by
  simp only [backslashesAtEnd, List.rtakeWhile_concat, decide_eq_true_eq]
  split <;> simp

theorem backslashesAtEnd_plain {c : Char} (noEscape : c ≠ '\\') (rest : List Char) :
    backslashesAtEnd (c :: rest) = backslashesAtEnd rest := by
  induction rest using List.reverseRecOn with
  | nil => exact (backslashesAtEnd_concat [] c).trans (if_neg noEscape)
  | append_singleton rest d ih =>
      rw [← List.cons_append, backslashesAtEnd_concat, backslashesAtEnd_concat, ih]

theorem backslashesAtEnd_escape (c : Char) (rest : List Char) :
    backslashesAtEnd ('\\' :: c :: rest) % 2 = backslashesAtEnd rest % 2 := by
  induction rest using List.reverseRecOn with
  | nil =>
      rw [← List.singleton_append, backslashesAtEnd_concat]
      split <;> rfl
  | append_singleton rest d ih =>
      rw [← List.cons_append, ← List.cons_append, backslashesAtEnd_concat, backslashesAtEnd_concat]
      split
      · omega
      · rfl

/-- Respelled text is a body, with a backslash behind it if the last one has no partner. -/
theorem exists_body_requote (text : List Char) : ∃ body, Body '"' body ∧
    requote text = body ++ List.replicate (backslashesAtEnd text % 2) '\\' := by
  fun_induction requote text with
  | case1 => exact ⟨[], .nil, rfl⟩
  | case2 => exact ⟨[], .nil, rfl⟩
  | case3 rest ih =>
      obtain ⟨body, isBody, same⟩ := ih
      refine ⟨'\'' :: body, .plain (by decide) (by decide) isBody, ?_⟩
      rw [backslashesAtEnd_escape, same, List.cons_append]
  | case4 c rest _ ih =>
      obtain ⟨body, isBody, same⟩ := ih
      refine ⟨'\\' :: c :: body, .escaped isBody, ?_⟩
      rw [backslashesAtEnd_escape, same, List.cons_append, List.cons_append]
  | case5 rest ih =>
      obtain ⟨body, isBody, same⟩ := ih
      refine ⟨'\\' :: '"' :: body, .escaped isBody, ?_⟩
      rw [backslashesAtEnd_plain (by decide), same, List.cons_append, List.cons_append]
  | case6 c rest lone escape noQuote ih =>
      obtain ⟨body, isBody, same⟩ := ih
      have noEscape : c ≠ '\\' := by
        rintro rfl
        cases rest with
        | nil => exact lone rfl rfl
        | cons d rest => exact escape d rest rfl rfl
      refine ⟨c :: body, .plain noQuote noEscape isBody, ?_⟩
      rw [backslashesAtEnd_plain noEscape, same, List.cons_append]

/-- A backslash before the closing quote takes it along, so that no end is found. -/
theorem scanLiteral_open {quote : Char} (isQuote : quote = '"' ∨ quote = '\'') {body : List Char}
    (isBody : Body quote body) :
    Call.scanLiteral (Utf8.encode (quote :: (body ++ ['\\', quote]))) 0 = none := by
  have ascii := quote_ascii isQuote
  have ending : Utf8.encode ['\\', quote] = [byte '\\', byte quote] := by
    rw [Utf8.encode_cons_ascii (by decide), Utf8.encode_cons_ascii ascii]
    rfl
  rw [Utf8.encode_cons_ascii ascii, Utf8.encode_append, ending, Call.scanLiteral, List.drop_zero,
    Option.map_eq_none_iff, Call.literalLength?]
  rw [if_pos (Call.isQuote_iff.mpr (quote_byte isQuote)),
    Call.bodyLength?_append (units_of_body ascii isBody)]
  rfl

theorem eq_quoted_of_long {raw : List Char} (long : 2 ≤ (Utf8.encode raw).length)
    (first : raw.head? = some '\'') (last : raw.getLast? = some '\'') :
    raw = '\'' :: (raw.tail.dropLast ++ ['\'']) := by
  cases raw with
  | nil => cases first
  | cons c rest =>
      obtain rfl := Option.some.inj first
      cases rest with
      | nil => exact absurd long (by decide)
      | cons d rest =>
          rw [List.getLast?_cons_cons] at last
          rw [List.tail_cons, List.dropLast_append_getLast? _ last]

/-- Text that stands between single quotes, whatever it is, becomes one string, unless an odd number
of backslashes stands at its end. In that case the string is not closed: a scan finds no end of it. -/
theorem isString_normalized_iff {l : Literal} (long : 2 ≤ (Utf8.bytes l.raw).length)
    (first : l.raw.toList.head? = some '\'') (last : l.raw.toList.getLast? = some '\'') :
    let text := l.raw.toList.tail.dropLast
    (IsString l.normalized ↔ ¬ Odd (backslashesAtEnd text)) ∧
      (Odd (backslashesAtEnd text) → Call.scanLiteral (Utf8.bytes l.normalized) 0 = none) := by
  intro text
  have raw : l.raw.toList = '\'' :: (text ++ ['\'']) := eq_quoted_of_long long first last
  obtain ⟨body, isBody, same⟩ := exists_body_requote text
  have spelled : l.normalized = String.ofList ('"' :: (requote text ++ ['"'])) := by
    rw [normalized, raw, normalizeChars_single]
  rw [Nat.odd_iff]
  rcases Nat.mod_two_eq_zero_or_one (backslashesAtEnd text) with paired | lone
  · rw [paired, List.replicate_zero, List.append_nil] at same
    rw [paired]
    have string : IsString l.normalized := by
      rw [spelled, same]
      exact isString_of_body isBody
    exact ⟨⟨fun _ => by decide, fun _ => string⟩, fun lone => by cases lone⟩
  · rw [lone] at same ⊢
    have unclosed : Call.scanLiteral (Utf8.bytes l.normalized) 0 = none := by
      rw [Utf8.bytes, spelled, String.toList_ofList, same, List.append_assoc]
      exact scanLiteral_open (.inl rfl) isBody
    refine ⟨⟨fun string => ?_, fun paired => absurd rfl paired⟩, fun _ => unclosed⟩
    cases unclosed.symm.trans string.scanned

/-- Bare single quotes, behind them a pair of backslashes or a single one. -/
theorem isString_normalized_iff_bare_quotes :
    let paired : Literal := ⟨"'a'b\\\\'"⟩
    let lone : Literal := ⟨"'a'b\\'"⟩
    (2 ≤ (Utf8.bytes paired.raw).length ∧ paired.raw.toList.head? = some '\'' ∧
      paired.raw.toList.getLast? = some '\'' ∧
      ¬ Odd (backslashesAtEnd paired.raw.toList.tail.dropLast)) ∧
    (2 ≤ (Utf8.bytes lone.raw).length ∧ lone.raw.toList.head? = some '\'' ∧
      lone.raw.toList.getLast? = some '\'' ∧
      Odd (backslashesAtEnd lone.raw.toList.tail.dropLast)) ∧
    IsString paired.normalized ∧ ¬ IsString lone.normalized ∧
      Call.scanLiteral (Utf8.bytes lone.normalized) 0 = none := by
  intro paired lone
  have long : 2 ≤ (Utf8.bytes paired.raw).length := by decide
  have long' : 2 ≤ (Utf8.bytes lone.raw).length := by decide
  have even : ¬ Odd (backslashesAtEnd paired.raw.toList.tail.dropLast) := by decide
  have odd : Odd (backslashesAtEnd lone.raw.toList.tail.dropLast) := by decide
  have first : paired.raw.toList.head? = some '\'' := by decide
  have first' : lone.raw.toList.head? = some '\'' := by decide
  have last : paired.raw.toList.getLast? = some '\'' := by decide
  have last' : lone.raw.toList.getLast? = some '\'' := by decide
  obtain ⟨string, _⟩ := isString_normalized_iff long first last
  obtain ⟨string', unclosed⟩ := isString_normalized_iff long' first' last'
  exact ⟨⟨long, first, last, even⟩, ⟨long', first', last', odd⟩, string.mpr even,
    fun closed => string'.mp closed odd, unclosed odd⟩

end MessageCatalog.Literal
