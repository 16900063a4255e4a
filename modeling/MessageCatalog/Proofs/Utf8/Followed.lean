import MessageCatalog.Proofs.Utf8

/-! # Bytes with one below 0x80 behind them

Such a byte goes on with no character. What is decoded before it stays as it is, but a character that
the end of the bytes would break off is malformed instead.
-/

namespace MessageCatalog.Utf8

theorem isContinuation_of_ascii {b : UInt8} (ascii : b < 0x80) : isContinuation b = false :=
  Bool.eq_false_iff.mpr fun continues => not_ascii_of_isContinuation continues ascii

theorem mayFollow_of_ascii {b : UInt8} (ascii : b < 0x80) (a : UInt8) : mayFollow a b = false := by
  refine Bool.eq_false_iff.mpr fun follows => ?_
  have high := (toNat_of_mayFollow follows).1
  have low := UInt8.lt_iff_toNat_lt.mp ascii
  simp only [UInt8.reduceToNat] at low
  omega

/-- What a head becomes if a byte below 0x80 stands behind the `length` bytes there were. -/
def Head.followed (length : Nat) : Head → Head
  | .fault .truncated => .fault (.malformed length)
  | h => h

section Ascii

variable {x : UInt8} (ascii : x < 0x80)
include ascii

theorem headOfTwo_append (a : UInt8) (rest more : List UInt8) :
    headOfTwo a (rest ++ x :: more) = (headOfTwo a rest).followed (rest.length + 1) := by
  rcases rest with _ | ⟨b, rest⟩
  · simp [headOfTwo, isContinuation_of_ascii ascii, Head.followed]
  · cases continues : isContinuation b <;> simp [headOfTwo, continues, Head.followed]

theorem headOfThree_append (a : UInt8) (rest more : List UInt8) :
    headOfThree a (rest ++ x :: more) = (headOfThree a rest).followed (rest.length + 1) := by
  rcases rest with _ | ⟨b, _ | ⟨c, rest⟩⟩
  · simp [headOfThree, mayFollow_of_ascii ascii, Head.followed]
  · cases follows : mayFollow a b <;>
      simp [headOfThree, follows, isContinuation_of_ascii ascii, Head.followed]
  · cases follows : mayFollow a b <;> cases continues : isContinuation c <;>
      simp [headOfThree, follows, continues, Head.followed]

theorem headOfFour_append (a : UInt8) (rest more : List UInt8) :
    headOfFour a (rest ++ x :: more) = (headOfFour a rest).followed (rest.length + 1) := by
  rcases rest with _ | ⟨b, _ | ⟨c, _ | ⟨d, rest⟩⟩⟩
  · simp [headOfFour, mayFollow_of_ascii ascii, Head.followed]
  · cases follows : mayFollow a b <;>
      simp [headOfFour, follows, isContinuation_of_ascii ascii, Head.followed]
  · cases follows : mayFollow a b <;> cases continues : isContinuation c <;>
      simp [headOfFour, follows, continues, isContinuation_of_ascii ascii, Head.followed]
  · cases follows : mayFollow a b <;> cases continues : isContinuation c <;>
      cases ends : isContinuation d <;>
      simp [headOfFour, follows, continues, ends, Head.followed]

theorem head_append (a : UInt8) (rest more : List UInt8) :
    head a (rest ++ x :: more) = (head a rest).followed (rest.length + 1) := by
  simp only [head]
  split
  · rfl
  · split
    · exact headOfTwo_append ascii a rest more
    · split
      · exact headOfThree_append ascii a rest more
      · split
        · exact headOfFour_append ascii a rest more
        · rfl

end Ascii

theorem length_le_of_head {a : UInt8} {rest : List UInt8} {c : Char} {more : Nat}
    (read : head a rest = .char c more) : more ≤ rest.length := by
  obtain ⟨first, tail, encoded⟩ := exists_encoded c
  obtain ⟨rfl, taken⟩ := List.cons.inj (encoded.bytes.symm.trans (bytes_of_head read))
  -- The bytes of a character say how many there are.
  have again := encoded.read (rest.drop more)
  rw [taken, List.take_append_drop, read] at again
  have same := (Head.char.inj again).2
  rw [List.length_take] at same
  omega

/-- What a fault becomes if a byte below 0x80 stands at position `stop`, behind all others. -/
def Invalid.followed (stop : Nat) : Invalid → Invalid
  | ⟨index, .truncated⟩ => ⟨index, .malformed (stop - index)⟩
  | e => e

/-- A byte below 0x80 behind others is a character of its own. Only a fault at their end changes:
a character broken off there is then one that is malformed. -/
theorem decodeFrom_append {x : UInt8} (ascii : x < 0x80) (index : Nat) (bs : List UInt8) :
    decodeFrom index (bs ++ [x]) =
      ((decodeFrom index bs).map (· ++ [Char.ofNat x.toNat])).mapError
        (Invalid.followed (index + bs.length)) := by
  fun_induction decodeFrom index bs with
  | case1 index =>
      have read : head x [] = .char (Char.ofNat x.toNat) 0 := if_pos ascii
      rw [List.nil_append, decodeFrom, read]
      simp only [List.drop_nil, decodeFrom]
      rfl
  | case2 index a rest c more read cs decoded ih =>
      have inside := length_le_of_head read
      rw [decoded] at ih
      rw [List.cons_append, decodeFrom, head_append ascii, read]
      simp only [Head.followed, List.drop_append_of_le_length inside, ih]
      rfl
  | case3 index a rest c more read e decoded ih =>
      have inside := length_le_of_head read
      have stop : index + more + 1 + (rest.drop more).length = index + (a :: rest).length := by
        rw [List.length_drop, List.length_cons]
        omega
      rw [decoded, stop] at ih
      rw [List.cons_append, decodeFrom, head_append ascii, read]
      simp only [Head.followed, List.drop_append_of_le_length inside, ih]
      rfl
  | case4 index a rest why read =>
      rw [List.cons_append, decodeFrom, head_append ascii, read]
      cases why with
      | malformed => rfl
      | truncated =>
          simp only [Head.followed, Except.map, Except.mapError, Invalid.followed, List.length_cons,
            Nat.add_sub_cancel_left]

end MessageCatalog.Utf8
