import Mathlib.Tactic.SplitIfs
import Routing.Text.Percent

/-!
# Percent encoding and decoding

What was encoded decodes to itself, in UTF-8 as in percent encoding.

* `Utf8.decode_encode`: the bytes of a text are read as that text
* `Percent.decode_encode`: an encoded text is decoded to the text
* `Percent.encode_keeps`: which characters an encoded text has
-/
namespace Routing

namespace Utf8

/-- The numbers of characters leave out the surrogates and end with those of four bytes. -/
theorem toNat_bounds (c : Char) : c.toNat < 0xD800 ∨ 0xDFFF < c.toNat ∧ c.toNat < 0x110000 := by
  rcases c.valid with low | high
  · exact .inl low
  · exact .inr high

/-! ### Reading one character -/

section

variable {index b0 b1 b2 b3 : Nat} {rest : List Nat}

theorem decodeFrom_one (ascii : b0 < 0x80) :
    decodeFrom index (b0 :: rest) = (decodeFrom (index + 1) rest).map (Char.ofNat b0 :: ·) := by
  rw [decodeFrom.eq_def index (b0 :: rest)]
  exact if_pos ascii

theorem decodeFrom_two (lead : 0xC2 ≤ b0 ∧ b0 < 0xE0) (second : isContinuation b1 = true) :
    decodeFrom index (b0 :: b1 :: rest) =
      (decodeFrom (index + 2) rest).map (Char.ofNat ((b0 - 0xC0) * 64 + (b1 - 0x80)) :: ·) := by
  have ascii : ¬ b0 < 0x80 := by omega
  rw [decodeFrom.eq_def index (b0 :: b1 :: rest)]
  simp only [ascii, lead, second, and_self, if_true, if_false]

theorem decodeFrom_three (lead : 0xE0 ≤ b0 ∧ b0 < 0xF0) (second : admitsSecond3 b0 b1 = true)
    (third : isContinuation b2 = true) :
    decodeFrom index (b0 :: b1 :: b2 :: rest) =
      (decodeFrom (index + 3) rest).map
        (Char.ofNat ((b0 - 0xE0) * 4096 + (b1 - 0x80) * 64 + (b2 - 0x80)) :: ·) := by
  have ascii : ¬ b0 < 0x80 := by omega
  have two : ¬ (0xC2 ≤ b0 ∧ b0 < 0xE0) := by omega
  rw [decodeFrom.eq_def index (b0 :: b1 :: b2 :: rest)]
  simp only [ascii, two, lead, second, third, and_self, if_true, if_false, Bool.not_true,
    Bool.false_eq_true]

theorem decodeFrom_four (lead : 0xF0 ≤ b0 ∧ b0 < 0xF5) (second : admitsSecond4 b0 b1 = true)
    (third : isContinuation b2 = true) (fourth : isContinuation b3 = true) :
    decodeFrom index (b0 :: b1 :: b2 :: b3 :: rest) =
      (decodeFrom (index + 4) rest).map
        (Char.ofNat ((b0 - 0xF0) * 262144 + (b1 - 0x80) * 4096 + (b2 - 0x80) * 64 + (b3 - 0x80)) :: ·) := by
  have ascii : ¬ b0 < 0x80 := by omega
  have two : ¬ (0xC2 ≤ b0 ∧ b0 < 0xE0) := by omega
  have three : ¬ (0xE0 ≤ b0 ∧ b0 < 0xF0) := by omega
  rw [decodeFrom.eq_def index (b0 :: b1 :: b2 :: b3 :: rest)]
  simp only [ascii, two, three, lead, second, third, fourth, and_self, if_true, if_false, Bool.not_true,
    Bool.false_eq_true]

end

theorem isContinuation_add {n : Nat} (h : n < 64) : isContinuation (0x80 + n) = true := by
  simp only [isContinuation, Bool.and_eq_true, decide_eq_true_eq]
  omega

/-- The bytes of a character are read as that character, whatever follows. -/
theorem decodeFrom_encodeChar (index : Nat) (c : Char) (rest : List Nat) :
    decodeFrom index (encodeChar c ++ rest) =
      (decodeFrom (index + (encodeChar c).length) rest).map (c :: ·) := by
  have bounds := toNat_bounds c
  have number := Char.ofNat_toNat c
  unfold encodeChar encodePoint
  generalize c.toNat = n at bounds number ⊢
  have last : isContinuation (0x80 + n % 64) = true := isContinuation_add (by omega)
  have two_bytes : n / 64 / 64 = n / 4096 := Nat.div_div_eq_div_mul n 64 64
  have three_bytes : n / 4096 / 64 = n / 262144 := Nat.div_div_eq_div_mul n 4096 64
  split_ifs with one two three
  · have read : decodeFrom index (n :: rest) = _ := decodeFrom_one one
    rwa [number] at read
  · have value : (0xC0 + n / 64 - 0xC0) * 64 + (0x80 + n % 64 - 0x80) = n := by omega
    have lead : 0xC2 ≤ 0xC0 + n / 64 ∧ 0xC0 + n / 64 < 0xE0 := by omega
    have read := @decodeFrom_two index _ _ rest lead last
    rwa [value, number] at read
  · have value : (0xE0 + n / 4096 - 0xE0) * 4096 + (0x80 + n / 64 % 64 - 0x80) * 64 +
        (0x80 + n % 64 - 0x80) = n := by omega
    have lead : 0xE0 ≤ 0xE0 + n / 4096 ∧ 0xE0 + n / 4096 < 0xF0 := by omega
    have second : admitsSecond3 (0xE0 + n / 4096) (0x80 + n / 64 % 64) = true := by
      have goes : isContinuation (0x80 + n / 64 % 64) = true := isContinuation_add (by omega)
      simp only [admitsSecond3, goes, Bool.and_eq_true, Bool.not_eq_true', Bool.and_eq_false_iff,
        beq_eq_false_iff_ne, decide_eq_false_iff_not, true_and]
      omega
    have read := @decodeFrom_three index _ _ _ rest lead second last
    rwa [value, number] at read
  · have value : (0xF0 + n / 262144 - 0xF0) * 262144 + (0x80 + n / 4096 % 64 - 0x80) * 4096 +
        (0x80 + n / 64 % 64 - 0x80) * 64 + (0x80 + n % 64 - 0x80) = n := by omega
    have lead : 0xF0 ≤ 0xF0 + n / 262144 ∧ 0xF0 + n / 262144 < 0xF5 := by omega
    have second : admitsSecond4 (0xF0 + n / 262144) (0x80 + n / 4096 % 64) = true := by
      have goes : isContinuation (0x80 + n / 4096 % 64) = true := isContinuation_add (by omega)
      simp only [admitsSecond4, goes, Bool.and_eq_true, Bool.not_eq_true', Bool.and_eq_false_iff,
        beq_eq_false_iff_ne, decide_eq_false_iff_not, true_and]
      omega
    have third : isContinuation (0x80 + n / 64 % 64) = true := isContinuation_add (by omega)
    have read := @decodeFrom_four index _ _ _ _ rest lead second third last
    rwa [value, number] at read

theorem decodeFrom_encode (index : Nat) (cs : List Char) : decodeFrom index (encode cs) = .ok cs := by
  induction cs generalizing index with
  | nil => rfl
  | cons c cs ih =>
    have read := decodeFrom_encodeChar index c (encode cs)
    rw [ih] at read
    exact read

/-- The bytes of a text are read as that text. -/
theorem decode_encode (cs : List Char) : decode (encode cs) = .ok cs :=
  decodeFrom_encode 0 cs

theorem lt_of_mem_encodeChar {c : Char} {b : Nat} (h : b ∈ encodeChar c) : b < 256 := by
  have bounds := toNat_bounds c
  unfold encodeChar encodePoint at h
  split_ifs at h <;> simp only [List.mem_cons, List.not_mem_nil, or_false] at h <;> omega

theorem lt_of_mem_encode {cs : List Char} {b : Nat} (h : b ∈ encode cs) : b < 256 := by
  obtain ⟨c, -, hb⟩ := List.mem_flatMap.1 h
  exact lt_of_mem_encodeChar hb

end Utf8

namespace Percent

/-- A character other than the mark of an escape stands for its bytes. -/
theorem bytes_cons_of_ne {c : Char} (other : c ≠ '%') (rest : List Char) :
    bytes (c :: rest) = Utf8.encodeChar c ++ bytes rest := by
  rw [bytes.eq_def (c :: rest)]
  split
  · next h =>
    cases h
    exact absurd rfl other
  · next h =>
    cases h
    rfl
  · next h => cases h

theorem bytes_escape {b : Nat} (byte : b < 256) (rest : List Char) :
    bytes ('%' :: Hex.digit (b / 16) :: Hex.digit (b % 16) :: rest) = b :: bytes rest := by
  have read : byte? (Hex.digit (b / 16)) (Hex.digit (b % 16)) = some b := by
    have high : b / 16 < 16 := by omega
    have low : b % 16 < 16 := by omega
    rw [byte?, Hex.value?_digit high, Hex.value?_digit low]
    exact congrArg some (by omega)
  rw [bytes]
  simp only [read]

theorem toNat_ofNat_of_lt {b : Nat} (ascii : b < 128) : (Char.ofNat b).toNat = b := by
  have valid : b.isValidChar := .inl (by omega)
  rw [Char.ofNat, dif_pos valid]
  rfl

/-- A byte that was written is read back, whatever follows. -/
theorem bytes_encodeByte {b : Nat} (byte : b < 256) (rest : List Char) :
    bytes (encodeByte b ++ rest) = b :: bytes rest := by
  by_cases plain : (decide (b < 128) && isUnreserved b) = true
  · obtain ⟨ascii, unreserved⟩ := Bool.and_eq_true_iff.1 plain
    have number := toNat_ofNat_of_lt (of_decide_eq_true ascii)
    have other : Char.ofNat b ≠ '%' := by
      intro mark
      rw [mark] at number
      rw [← number] at unreserved
      exact absurd unreserved (by decide)
    have same : Utf8.encodeChar (Char.ofNat b) = [b] := by
      rw [Utf8.encodeChar, number, Utf8.encodePoint, if_pos (of_decide_eq_true ascii)]
    rw [encodeByte, if_pos plain, List.singleton_append, bytes_cons_of_ne other, same,
      List.singleton_append]
  · rw [encodeByte, if_neg plain]
    exact bytes_escape byte rest

theorem bytes_encoded {bs : List Nat} (all : ∀ b ∈ bs, b < 256) :
    bytes (bs.flatMap encodeByte) = bs := by
  induction bs with
  | nil => rfl
  | cons b bs ih =>
    obtain ⟨byte, later⟩ := List.forall_mem_cons.1 all
    rw [List.flatMap_cons, bytes_encodeByte byte, ih later]

/-- An encoded text is decoded to the text. -/
theorem decode_encode (cs : List Char) : decode (encode cs) = .ok cs := by
  rw [decode, encode, bytes_encoded fun b => Utf8.lt_of_mem_encode]
  exact Utf8.decode_encode cs

/-! ## The characters of an encoded text -/

theorem isUnreserved_digit {n : Nat} (h : n < 16) : isUnreserved (Hex.digit n).toNat = true := by
  have all : ∀ m : Fin 16, isUnreserved (Hex.digit m).toNat = true := by decide
  exact all ⟨n, h⟩

/-- An encoded text has no other characters than unreserved ones and the mark of escapes. -/
theorem encode_keeps {cs : List Char} {c : Char} (h : c ∈ encode cs) :
    c = '%' ∨ isUnreserved c.toNat = true := by
  obtain ⟨b, hb, hc⟩ := List.mem_flatMap.1 h
  have byte := Utf8.lt_of_mem_encode hb
  unfold encodeByte at hc
  split_ifs at hc with plain
  · obtain ⟨ascii, unreserved⟩ := Bool.and_eq_true_iff.1 plain
    obtain rfl := List.mem_singleton.1 hc
    right
    rwa [toNat_ofNat_of_lt (of_decide_eq_true ascii)]
  · rcases List.mem_cons.1 hc with mark | hc
    · exact .inl mark
    · right
      rcases List.mem_cons.1 hc with rfl | hc
      · exact isUnreserved_digit (by omega)
      · obtain rfl := List.mem_singleton.1 hc
        exact isUnreserved_digit (by omega)

theorem encode_ne_nil {cs : List Char} (nonempty : cs ≠ []) : encode cs ≠ [] := by
  intro nothing
  have read := decode_encode cs
  rw [nothing] at read
  exact nonempty (Except.ok.inj read).symm

end Percent

end Routing
