import Mathlib
import MessageCatalog.Text.Utf8

/-! # Reading back what was encoded

Every character is read back from its bytes whatever follows them. So texts are equal if their bytes
are, and a text can be found in another one by its bytes. Bytes below 0x80 stand for characters of
their own: to cut a text there never cuts through a character. What is decoded from bytes has these
bytes.
-/

namespace MessageCatalog.Utf8

theorem toNat_tail (n : Nat) : (UInt8.ofNat (n % 64 + 0x80)).toNat = n % 64 + 0x80 :=
  UInt8.toNat_ofNat_of_lt' (by simp only [UInt8.size]; omega)

theorem isContinuation_tail (n : Nat) : isContinuation (UInt8.ofNat (n % 64 + 0x80)) = true := by
  simp only [isContinuation, UInt8.le_iff_toNat_le, toNat_tail, Bool.and_eq_true, decide_eq_true_eq,
    UInt8.reduceToNat]
  omega

theorem payload_tail (n : Nat) : payload (UInt8.ofNat (n % 64 + 0x80)) = n % 64 := by
  simp only [payload, toNat_tail]
  omega

theorem headOfTwo_encode {n : Nat} (small : n ≤ 0x7FF) (rest : List UInt8) :
    headOfTwo (UInt8.ofNat (n / 64 % 32 + 0xC0)) (UInt8.ofNat (n % 64 + 0x80) :: rest) =
      .char (Char.ofNat n) 1 := by
  have first : (UInt8.ofNat (n / 64 % 32 + 0xC0)).toNat = n / 64 % 32 + 0xC0 :=
    UInt8.toNat_ofNat_of_lt' (by simp only [UInt8.size]; omega)
  have value : (n / 64 % 32 + 0xC0) % 32 * 64 + n % 64 = n := by omega
  simp only [headOfTwo, isContinuation_tail, payload_tail, first, value, if_true]

theorem mayFollow_three {n : Nat} (large : 0x7FF < n) (small : n ≤ 0xFFFF)
    (valid : n < 0xD800 ∨ 0xDFFF < n) :
    mayFollow (UInt8.ofNat (n / 4096 % 16 + 0xE0)) (UInt8.ofNat (n / 64 % 64 + 0x80)) = true := by
  have first : (UInt8.ofNat (n / 4096 % 16 + 0xE0)).toNat = n / 4096 % 16 + 0xE0 :=
    UInt8.toNat_ofNat_of_lt' (by simp only [UInt8.size]; omega)
  simp only [mayFollow, isContinuation_tail, ← UInt8.toNat_inj, first, UInt8.le_iff_toNat_le,
    toNat_tail, UInt8.reduceToNat]
  split
  · simp only [Bool.and_eq_true, decide_eq_true_eq]
    omega
  · split
    · simp only [Bool.and_eq_true, decide_eq_true_eq]
      omega
    · rw [if_neg (by omega), if_neg (by omega)]

theorem headOfThree_encode {n : Nat} (large : 0x7FF < n) (small : n ≤ 0xFFFF)
    (valid : n < 0xD800 ∨ 0xDFFF < n) (rest : List UInt8) :
    headOfThree (UInt8.ofNat (n / 4096 % 16 + 0xE0))
      (UInt8.ofNat (n / 64 % 64 + 0x80) :: UInt8.ofNat (n % 64 + 0x80) :: rest) =
      .char (Char.ofNat n) 2 := by
  have first : (UInt8.ofNat (n / 4096 % 16 + 0xE0)).toNat = n / 4096 % 16 + 0xE0 :=
    UInt8.toNat_ofNat_of_lt' (by simp only [UInt8.size]; omega)
  have value : (n / 4096 % 16 + 0xE0) % 16 * 4096 + n / 64 % 64 * 64 + n % 64 = n := by omega
  simp only [headOfThree, mayFollow_three large small valid, isContinuation_tail, payload_tail, first,
    value, if_true]

theorem mayFollow_four {n : Nat} (large : 0xFFFF < n) (small : n ≤ 0x10FFFF) :
    mayFollow (UInt8.ofNat (n / 262144 % 8 + 0xF0)) (UInt8.ofNat (n / 4096 % 64 + 0x80)) = true := by
  have first : (UInt8.ofNat (n / 262144 % 8 + 0xF0)).toNat = n / 262144 % 8 + 0xF0 :=
    UInt8.toNat_ofNat_of_lt' (by simp only [UInt8.size]; omega)
  simp only [mayFollow, isContinuation_tail, ← UInt8.toNat_inj, first, UInt8.le_iff_toNat_le,
    toNat_tail, UInt8.reduceToNat]
  rw [if_neg (by omega), if_neg (by omega)]
  split
  · simp only [Bool.and_eq_true, decide_eq_true_eq]
    omega
  · split
    · simp only [Bool.and_eq_true, decide_eq_true_eq]
      omega
    · rfl

theorem headOfFour_encode {n : Nat} (large : 0xFFFF < n) (small : n ≤ 0x10FFFF)
    (rest : List UInt8) :
    headOfFour (UInt8.ofNat (n / 262144 % 8 + 0xF0))
      (UInt8.ofNat (n / 4096 % 64 + 0x80) :: UInt8.ofNat (n / 64 % 64 + 0x80) ::
        UInt8.ofNat (n % 64 + 0x80) :: rest) = .char (Char.ofNat n) 3 := by
  have first : (UInt8.ofNat (n / 262144 % 8 + 0xF0)).toNat = n / 262144 % 8 + 0xF0 :=
    UInt8.toNat_ofNat_of_lt' (by simp only [UInt8.size]; omega)
  have value : (n / 262144 % 8 + 0xF0) % 8 * 262144 + n / 4096 % 64 * 4096 + n / 64 % 64 * 64 +
      n % 64 = n := by omega
  simp only [headOfFour, mayFollow_four large small, isContinuation_tail, payload_tail, first, value,
    if_true]

theorem head_two {a : UInt8} (low : 0xC2 ≤ a.toNat) (high : a.toNat ≤ 0xDF) (rest : List UInt8) :
    head a rest = headOfTwo a rest := by
  simp only [head, UInt8.lt_iff_toNat_lt, UInt8.le_iff_toNat_le, Bool.and_eq_true, decide_eq_true_eq,
    UInt8.reduceToNat]
  rw [if_neg (by omega), if_pos ⟨low, high⟩]

theorem head_three {a : UInt8} (low : 0xE0 ≤ a.toNat) (high : a.toNat ≤ 0xEF)
    (rest : List UInt8) : head a rest = headOfThree a rest := by
  simp only [head, UInt8.lt_iff_toNat_lt, UInt8.le_iff_toNat_le, Bool.and_eq_true, decide_eq_true_eq,
    UInt8.reduceToNat]
  rw [if_neg (by omega), if_neg (by omega), if_pos ⟨low, high⟩]

theorem head_four {a : UInt8} (low : 0xF0 ≤ a.toNat) (high : a.toNat ≤ 0xF4) (rest : List UInt8) :
    head a rest = headOfFour a rest := by
  simp only [head, UInt8.lt_iff_toNat_lt, UInt8.le_iff_toNat_le, Bool.and_eq_true, decide_eq_true_eq,
    UInt8.reduceToNat]
  rw [if_neg (by omega), if_neg (by omega), if_neg (by omega), if_pos ⟨low, high⟩]

/-- The bytes of a character: one that says how many follow, and continuations. -/
structure Encoded (c : Char) (first : UInt8) (more : List UInt8) : Prop where
  bytes : String.utf8EncodeChar c = first :: more
  read : ∀ rest, head first (more ++ rest) = .char c more.length
  starts : isContinuation first = false
  continues : ∀ b ∈ more, isContinuation b = true
  alone : first < 0x80 → more = [] ∧ c = Char.ofNat first.toNat

theorem Encoded.of_large {c : Char} {first : UInt8} {more : List UInt8}
    (bytes : String.utf8EncodeChar c = first :: more)
    (read : ∀ rest, head first (more ++ rest) = .char c more.length) (large : 0xC0 ≤ first.toNat)
    (continues : ∀ b ∈ more, isContinuation b = true) : Encoded c first more where
  bytes := bytes
  read := read
  starts := by
    simp only [isContinuation, UInt8.le_iff_toNat_le, Bool.and_eq_false_iff, decide_eq_false_iff_not,
      UInt8.reduceToNat]
    omega
  continues := continues
  alone := fun ascii => by
    simp only [UInt8.lt_iff_toNat_lt, UInt8.reduceToNat] at ascii
    omega

theorem toNat_valid (c : Char) : c.toNat < 0xD800 ∨ 0xDFFF < c.toNat ∧ c.toNat ≤ 0x10FFFF := by
  rcases c.valid with low | high
  · exact .inl low
  · exact .inr ⟨high.1, Nat.le_of_lt_succ high.2⟩

theorem encoded_one {c : Char} (small : c.toNat ≤ 0x7F) :
    Encoded c (UInt8.ofNat c.toNat) [] := by
  have first : (UInt8.ofNat c.toNat).toNat = c.toNat :=
    UInt8.toNat_ofNat_of_lt' (by simp only [UInt8.size]; omega)
  refine ⟨if_pos small, fun rest => ?_, ?_, by simp, fun _ => ⟨rfl, ?_⟩⟩
  · simp only [head, UInt8.lt_iff_toNat_lt, first, UInt8.reduceToNat, Char.ofNat_toNat]
    exact if_pos (by omega)
  · simp only [isContinuation, UInt8.le_iff_toNat_le, first, Bool.and_eq_false_iff,
      decide_eq_false_iff_not, UInt8.reduceToNat]
    omega
  · rw [first, Char.ofNat_toNat]

theorem encoded_two {c : Char} (large : 0x7F < c.toNat) (small : c.toNat ≤ 0x7FF) :
    Encoded c (UInt8.ofNat (c.toNat / 64 % 32 + 0xC0)) [UInt8.ofNat (c.toNat % 64 + 0x80)] := by
  have first : (UInt8.ofNat (c.toNat / 64 % 32 + 0xC0)).toNat = c.toNat / 64 % 32 + 0xC0 :=
    UInt8.toNat_ofNat_of_lt' (by simp only [UInt8.size]; omega)
  refine .of_large ?_ (fun rest => ?_) (by omega) ?_
  · exact (if_neg (Nat.not_le.mpr large)).trans (if_pos small)
  · rw [head_two (by omega) (by omega), List.singleton_append, headOfTwo_encode small,
      Char.ofNat_toNat]
    rfl
  · exact List.forall_mem_singleton.mpr (isContinuation_tail _)

theorem encoded_three {c : Char} (large : 0x7FF < c.toNat) (small : c.toNat ≤ 0xFFFF) :
    Encoded c (UInt8.ofNat (c.toNat / 4096 % 16 + 0xE0))
      [UInt8.ofNat (c.toNat / 64 % 64 + 0x80), UInt8.ofNat (c.toNat % 64 + 0x80)] := by
  have first : (UInt8.ofNat (c.toNat / 4096 % 16 + 0xE0)).toNat = c.toNat / 4096 % 16 + 0xE0 :=
    UInt8.toNat_ofNat_of_lt' (by simp only [UInt8.size]; omega)
  have valid := toNat_valid c
  refine .of_large ?_ (fun rest => ?_) (by omega) ?_
  · exact (if_neg (Nat.not_le.mpr (Nat.lt_trans (by decide) large))).trans
      ((if_neg (Nat.not_le.mpr large)).trans (if_pos small))
  · rw [head_three (by omega) (by omega)]
    simp only [List.cons_append, List.nil_append]
    rw [headOfThree_encode large small (by omega), Char.ofNat_toNat]
    rfl
  · simp only [List.forall_mem_cons, isContinuation_tail, List.not_mem_nil, true_and]
    exact fun _ absent => absent.elim

theorem encoded_four {c : Char} (large : 0xFFFF < c.toNat) :
    Encoded c (UInt8.ofNat (c.toNat / 262144 % 8 + 0xF0))
      [UInt8.ofNat (c.toNat / 4096 % 64 + 0x80), UInt8.ofNat (c.toNat / 64 % 64 + 0x80),
        UInt8.ofNat (c.toNat % 64 + 0x80)] := by
  have first : (UInt8.ofNat (c.toNat / 262144 % 8 + 0xF0)).toNat = c.toNat / 262144 % 8 + 0xF0 :=
    UInt8.toNat_ofNat_of_lt' (by simp only [UInt8.size]; omega)
  have valid := toNat_valid c
  refine .of_large ?_ (fun rest => ?_) (by omega) ?_
  · exact (if_neg (Nat.not_le.mpr (Nat.lt_trans (by decide) large))).trans
      ((if_neg (Nat.not_le.mpr (Nat.lt_trans (by decide) large))).trans
        (if_neg (Nat.not_le.mpr large)))
  · rw [head_four (by omega) (by omega)]
    simp only [List.cons_append, List.nil_append]
    rw [headOfFour_encode large (by omega), Char.ofNat_toNat]
    rfl
  · simp only [List.forall_mem_cons, isContinuation_tail, List.not_mem_nil, true_and]
    exact fun _ absent => absent.elim

theorem exists_encoded (c : Char) : ∃ first more, Encoded c first more := by
  rcases Nat.lt_or_ge 0x7F c.toNat with two | one
  · rcases Nat.lt_or_ge 0x7FF c.toNat with three | two'
    · rcases Nat.lt_or_ge 0xFFFF c.toNat with four | three'
      · exact ⟨_, _, encoded_four four⟩
      · exact ⟨_, _, encoded_three three three'⟩
    · exact ⟨_, _, encoded_two two two'⟩
  · exact ⟨_, _, encoded_one one⟩

theorem encode_append (a b : List Char) : encode (a ++ b) = encode a ++ encode b :=
  List.flatMap_append

theorem Encoded.encode_cons {c : Char} {first : UInt8} {more : List UInt8}
    (encoded : Encoded c first more) (cs : List Char) :
    encode (c :: cs) = first :: (more ++ encode cs) := by
  simp only [encode, List.flatMap_cons, encoded.bytes, List.cons_append]

theorem not_ascii_of_isContinuation {b : UInt8} (continues : isContinuation b = true) :
    ¬ b < 0x80 := by
  simp only [isContinuation, Bool.and_eq_true, decide_eq_true_eq] at continues
  exact UInt8.not_lt.mpr continues.1

theorem encode_cons_ascii {c : Char} (ascii : c.toNat ≤ 0x7F) (cs : List Char) :
    encode (c :: cs) = UInt8.ofNat c.toNat :: encode cs :=
  (encoded_one ascii).encode_cons cs

theorem eq_of_mem_utf8EncodeChar {c : Char} {b : UInt8} (member : b ∈ String.utf8EncodeChar c)
    (ascii : b < 0x80) : c = Char.ofNat b.toNat := by
  obtain ⟨first, more, encoded⟩ := exists_encoded c
  rw [encoded.bytes] at member
  cases member with
  | head => exact (encoded.alone ascii).2
  | tail _ inside => exact absurd ascii (not_ascii_of_isContinuation (encoded.continues b inside))

theorem decodeLossy_encode (cs : List Char) : decodeLossy (encode cs) = cs := by
  induction cs with
  | nil => simp [encode, decodeLossy]
  | cons c cs ih =>
      obtain ⟨first, more, encoded⟩ := exists_encoded c
      rw [encoded.encode_cons, decodeLossy, encoded.read]
      simp only [List.drop_left, ih]

theorem text_encode (cs : List Char) : text (encode cs) = String.ofList cs := by
  rw [text, decodeLossy_encode]

theorem text_bytes (s : String) : text (bytes s) = s := by
  rw [bytes, text_encode, String.ofList_toList]

theorem bytes_injective : Function.Injective bytes :=
  Function.LeftInverse.injective text_bytes

theorem bytes_append (a b : String) : bytes (a ++ b) = bytes a ++ bytes b := by
  simp only [bytes, String.toList_append, encode_append]

theorem prefix_of_encode {a b : List Char} (first : encode a <+: encode b) : a <+: b := by
  induction a generalizing b with
  | nil => exact List.nil_prefix
  | cons c a ih =>
      obtain ⟨start, more, encoded⟩ := exists_encoded c
      rw [encoded.encode_cons] at first
      cases b with
      | nil => simp [encode] at first
      | cons d b =>
          obtain ⟨start', more', encoded'⟩ := exists_encoded d
          rw [encoded'.encode_cons] at first
          obtain ⟨rfl, inner⟩ := List.cons_prefix_cons.mp first
          -- The same bytes are read as `c` and as `d`.
          obtain ⟨rest, split⟩ := inner
          have read := encoded.read (encode a ++ rest)
          rw [← List.append_assoc, split, encoded'.read] at read
          obtain ⟨rfl, length⟩ := Head.char.inj read
          have same : more' = more := by
            have bytes := encoded'.bytes.symm.trans encoded.bytes
            exact (List.cons.inj bytes).2
          subst same
          have inner : encode a <+: encode b := by
            rw [List.append_assoc] at split
            exact ⟨rest, List.append_cancel_left split⟩
          exact List.cons_prefix_cons.mpr ⟨rfl, ih inner⟩

theorem exists_of_not_mem {α : Type} {more rest before after : List α} {b : α} (absent : b ∉ more)
    (split : more ++ rest = before ++ b :: after) :
    ∃ middle, before = more ++ middle ∧ rest = middle ++ b :: after := by
  induction more generalizing before with
  | nil => exact ⟨before, rfl, split⟩
  | cons c more ih =>
      cases before with
      | nil =>
          obtain ⟨rfl, _⟩ := List.cons.inj split
          exact absurd List.mem_cons_self absent
      | cons d before =>
          obtain ⟨rfl, inner⟩ := List.cons.inj split
          obtain ⟨middle, rfl, rest_eq⟩ := ih (fun inside => absent (.tail c inside)) inner
          exact ⟨middle, rfl, rest_eq⟩

/-- At a byte below 0x80 a text is cut between characters. -/
theorem exists_split {cs : List Char} {before after : List UInt8} {b : UInt8} (ascii : b < 0x80)
    (split : encode cs = before ++ b :: after) :
    ∃ front back, cs = front ++ Char.ofNat b.toNat :: back ∧ before = encode front ∧
      after = encode back := by
  induction cs generalizing before with
  | nil => simp [encode] at split
  | cons c cs ih =>
      obtain ⟨first, more, encoded⟩ := exists_encoded c
      rw [encoded.encode_cons] at split
      cases before with
      | nil =>
          obtain ⟨rfl, rest⟩ := List.cons.inj split
          obtain ⟨rfl, same⟩ := encoded.alone ascii
          exact ⟨[], cs, by rw [← same]; rfl, rfl, rest.symm⟩
      | cons x before =>
          obtain ⟨rfl, later⟩ := List.cons.inj split
          have absent : b ∉ more := fun inside =>
            not_ascii_of_isContinuation (encoded.continues b inside) ascii
          obtain ⟨middle, rfl, inner⟩ := exists_of_not_mem absent later
          obtain ⟨front, back, rfl, rfl, rfl⟩ := ih inner
          exact ⟨c :: front, back, rfl, (encoded.encode_cons front).symm, rfl⟩

theorem mem_of_mem_encode {cs : List Char} {b : UInt8} (ascii : b < 0x80) (member : b ∈ encode cs) :
    Char.ofNat b.toNat ∈ cs := by
  obtain ⟨before, after, split⟩ := List.append_of_mem member
  obtain ⟨front, back, rfl, _⟩ := exists_split ascii split
  exact List.mem_append_right front List.mem_cons_self

theorem eq_nil_of_encode {cs : List Char} (empty : encode cs = []) : cs = [] := by
  cases cs with
  | nil => rfl
  | cons c cs =>
      obtain ⟨first, more, encoded⟩ := exists_encoded c
      rw [encoded.encode_cons] at empty
      cases empty

/-- Where the bytes of a text are found in those of another one, the text itself is found. -/
theorem exists_of_encode_prefix {needle cs : List Char} {n : Nat} (nonempty : needle ≠ [])
    (found : encode needle <+: (encode cs).drop n) :
    ∃ front back, cs = front ++ back ∧ n = (encode front).length ∧ needle <+: back := by
  induction cs generalizing n with
  | nil =>
      obtain ⟨d, needle, rfl⟩ := List.exists_cons_of_ne_nil nonempty
      obtain ⟨first, more, encoded⟩ := exists_encoded d
      rw [encoded.encode_cons] at found
      simp [encode] at found
  | cons c cs ih =>
      cases n with
      | zero => exact ⟨[], c :: cs, rfl, rfl, prefix_of_encode found⟩
      | succ n =>
          obtain ⟨first, more, encoded⟩ := exists_encoded c
          rw [encoded.encode_cons, List.drop_succ_cons] at found
          rcases Nat.lt_or_ge n more.length with inside | behind
          · -- The bytes would start at a continuation.
            obtain ⟨d, needle, rfl⟩ := List.exists_cons_of_ne_nil nonempty
            obtain ⟨start, _, encodedStart⟩ := exists_encoded d
            rw [encodedStart.encode_cons, List.drop_append_of_le_length (Nat.le_of_lt inside),
              List.drop_eq_getElem_cons inside, List.cons_append, List.cons_prefix_cons] at found
            have continues := encoded.continues _ (List.getElem_mem inside)
            rw [← found.1, encodedStart.starts] at continues
            cases continues
          · obtain ⟨past, rfl⟩ := Nat.exists_eq_add_of_le behind
            rw [List.drop_length_add_append] at found
            obtain ⟨front, back, rfl, rfl, first⟩ := ih found
            refine ⟨c :: front, back, rfl, ?_, first⟩
            rw [encoded.encode_cons, List.length_cons, List.length_append]

theorem length_lt_of_encode {a b c d : List Char} (same : a ++ b = c ++ d)
    (shorter : (encode a).length < (encode c).length) : a.length < c.length := by
  refine Nat.lt_of_not_le fun longer => ?_
  obtain ⟨more, rfl⟩ := List.prefix_of_prefix_length_le ⟨d, rfl⟩ (same ▸ List.prefix_append a b) longer
  rw [encode_append, List.length_append] at shorter
  omega

/-! ## What is decoded -/

theorem toNat_of_isContinuation {b : UInt8} (continues : isContinuation b = true) :
    b.toNat = payload b + 0x80 ∧ payload b < 64 := by
  simp only [isContinuation, UInt8.le_iff_toNat_le, Bool.and_eq_true, decide_eq_true_eq,
    UInt8.reduceToNat] at continues
  simp only [payload]
  omega

theorem toNat_of_mayFollow {a b : UInt8} (follows : mayFollow a b = true) :
    b.toNat = payload b + 0x80 ∧ payload b < 64 ∧ (a.toNat = 0xE0 → 32 ≤ payload b) ∧
      (a.toNat = 0xED → payload b < 32) ∧ (a.toNat = 0xF0 → 16 ≤ payload b) ∧
      (a.toNat = 0xF4 → payload b < 16) := by
  simp only [mayFollow, isContinuation, ← UInt8.toNat_inj, UInt8.le_iff_toNat_le,
    UInt8.reduceToNat] at follows
  simp only [payload]
  repeat' split at follows
  all_goals
    simp only [Bool.and_eq_true, decide_eq_true_eq] at follows
    omega

theorem ofNat_eq {b : UInt8} {n : Nat} (value : n = b.toNat) : UInt8.ofNat n = b :=
  value ▸ UInt8.ofNat_toNat

theorem bytes_of_headOfTwo {a : UInt8} {rest : List UInt8} {c : Char} {more : Nat}
    (low : 0xC2 ≤ a.toNat) (high : a.toNat ≤ 0xDF) (read : headOfTwo a rest = .char c more) :
    String.utf8EncodeChar c = a :: rest.take more := by
  cases rest with
  | nil => cases read
  | cons b rest =>
      simp only [headOfTwo] at read
      split at read
      · rename_i continues
        obtain ⟨value, small⟩ := toNat_of_isContinuation continues
        obtain ⟨rfl, rfl⟩ := Head.char.inj read
        have number : (Char.ofNat (a.toNat % 32 * 64 + payload b)).toNat =
            a.toNat % 32 * 64 + payload b := by
          rw [Char.toNat_ofNat, if_pos (.inl (by omega))]
        rw [(encoded_two (by omega) (by omega)).bytes, number, ofNat_eq (b := a) (by omega),
          ofNat_eq (b := b) (by omega)]
        rfl
      · cases read

theorem bytes_of_headOfThree {a : UInt8} {rest : List UInt8} {c : Char} {more : Nat}
    (low : 0xE0 ≤ a.toNat) (high : a.toNat ≤ 0xEF) (read : headOfThree a rest = .char c more) :
    String.utf8EncodeChar c = a :: rest.take more := by
  rcases rest with _ | ⟨b, _ | ⟨d, rest⟩⟩
  · cases read
  · simp only [headOfThree] at read
    split at read <;> cases read
  · simp only [headOfThree] at read
    split at read
    · rename_i follows
      obtain ⟨value, small, least, most, _⟩ := toNat_of_mayFollow follows
      split at read
      · rename_i continues
        obtain ⟨value', small'⟩ := toNat_of_isContinuation continues
        obtain ⟨rfl, rfl⟩ := Head.char.inj read
        have number : (Char.ofNat (a.toNat % 16 * 4096 + payload b * 64 + payload d)).toNat =
            a.toNat % 16 * 4096 + payload b * 64 + payload d := by
          rw [Char.toNat_ofNat, if_pos (by rw [Nat.isValidChar]; omega)]
        rw [(encoded_three (by omega) (by omega)).bytes, number, ofNat_eq (b := a) (by omega),
          ofNat_eq (b := b) (by omega), ofNat_eq (b := d) (by omega)]
        rfl
      · cases read
    · cases read

theorem bytes_of_headOfFour {a : UInt8} {rest : List UInt8} {c : Char} {more : Nat}
    (low : 0xF0 ≤ a.toNat) (high : a.toNat ≤ 0xF4) (read : headOfFour a rest = .char c more) :
    String.utf8EncodeChar c = a :: rest.take more := by
  rcases rest with _ | ⟨b, _ | ⟨d, _ | ⟨e, rest⟩⟩⟩
  · cases read
  · simp only [headOfFour] at read
    split at read <;> cases read
  · simp only [headOfFour] at read
    repeat' split at read
    all_goals cases read
  · simp only [headOfFour] at read
    split at read
    · rename_i follows
      obtain ⟨value, small, _, _, least, most⟩ := toNat_of_mayFollow follows
      split at read
      · rename_i continues
        obtain ⟨value', small'⟩ := toNat_of_isContinuation continues
        split at read
        · rename_i ends
          obtain ⟨value'', small''⟩ := toNat_of_isContinuation ends
          obtain ⟨rfl, rfl⟩ := Head.char.inj read
          have number : (Char.ofNat (a.toNat % 8 * 262144 + payload b * 4096 + payload d * 64 +
              payload e)).toNat =
                a.toNat % 8 * 262144 + payload b * 4096 + payload d * 64 + payload e := by
            rw [Char.toNat_ofNat, if_pos (by rw [Nat.isValidChar]; omega)]
          rw [(encoded_four (by omega)).bytes, number, ofNat_eq (b := a) (by omega),
            ofNat_eq (b := b) (by omega), ofNat_eq (b := d) (by omega),
            ofNat_eq (b := e) (by omega)]
          rfl
        · cases read
      · cases read
    · cases read

/-- A character is decoded from its own bytes only. -/
theorem bytes_of_head {a : UInt8} {rest : List UInt8} {c : Char} {more : Nat}
    (read : head a rest = .char c more) : String.utf8EncodeChar c = a :: rest.take more := by
  simp only [head, UInt8.lt_iff_toNat_lt, UInt8.le_iff_toNat_le, Bool.and_eq_true,
    decide_eq_true_eq, UInt8.reduceToNat] at read
  split at read
  · rename_i ascii
    obtain ⟨rfl, rfl⟩ := Head.char.inj read
    have number : (Char.ofNat a.toNat).toNat = a.toNat := by
      rw [Char.toNat_ofNat, if_pos (.inl (by omega))]
    rw [(encoded_one (by omega)).bytes, number, UInt8.ofNat_toNat, List.take_zero]
  · split at read
    · rename_i range
      exact bytes_of_headOfTwo range.1 range.2 read
    · split at read
      · rename_i range
        exact bytes_of_headOfThree range.1 range.2 read
      · split at read
        · rename_i range
          exact bytes_of_headOfFour range.1 range.2 read
        · cases read

theorem encode_of_decodeFrom {index : Nat} {bs : List UInt8} {cs : List Char}
    (decoded : decodeFrom index bs = .ok cs) : encode cs = bs := by
  fun_induction decodeFrom index bs generalizing cs with
  | case1 =>
      cases decoded
      rfl
  | case2 index a rest c more read inner decodedInner ih =>
      cases decoded
      rw [encode, List.flatMap_cons, bytes_of_head read, List.cons_append, ← encode,
        ih decodedInner, List.take_append_drop]
  | case3 => cases decoded
  | case4 => cases decoded

/-- Texts are encoded as what they were decoded from. -/
theorem encode_of_decode {bs : List UInt8} {cs : List Char} (decoded : decode bs = .ok cs) :
    encode cs = bs := encode_of_decodeFrom decoded

theorem decodeFrom_encode (index : Nat) (cs : List Char) :
    decodeFrom index (encode cs) = .ok cs := by
  induction cs generalizing index with
  | nil => simp [encode, decodeFrom]
  | cons c cs ih =>
      obtain ⟨first, more, encoded⟩ := exists_encoded c
      rw [encoded.encode_cons, decodeFrom, encoded.read]
      simp only [List.drop_left, ih]

theorem decode_bytes (s : String) : decode (bytes s) = .ok s.toList := decodeFrom_encode 0 s.toList

end MessageCatalog.Utf8
