import Routing.Proofs.Text.Percent

/-!
# Which bytes are a text

Bytes that are read as a text are the bytes of that text, so there is one way to write each text, and what is
refused is the bytes of no text.

* `Utf8.encode_of_decodeFrom`: what is read was written
* `Utf8.decode_eq_ok_iff`: bytes are read as a text if and only if they are its bytes
* `Percent.decode_eq_ok_iff`: an escaped text stands for the text that has its bytes
-/
namespace Routing

namespace Utf8

theorem encodeChar_ofNat {n : Nat} (valid : n.isValidChar) : encodeChar (Char.ofNat n) = encodePoint n := by
  rw [encodeChar, Char.ofNat, dif_pos valid]
  rfl

/-! ### Writing what was read -/

section

variable {b0 b1 b2 b3 : Nat}

theorem isContinuation_iff {b : Nat} : isContinuation b = true ↔ 0x80 ≤ b ∧ b < 0xC0 := by
  simp [isContinuation]

theorem encodeChar_one (ascii : b0 < 0x80) : encodeChar (Char.ofNat b0) = [b0] := by
  rw [encodeChar_ofNat (.inl (by omega)), encodePoint, if_pos ascii]

theorem encodeChar_two (lead : 0xC2 ≤ b0 ∧ b0 < 0xE0) (second : isContinuation b1 = true) :
    encodeChar (Char.ofNat ((b0 - 0xC0) * 64 + (b1 - 0x80))) = [b0, b1] := by
  rw [isContinuation_iff] at second
  generalize value : (b0 - 0xC0) * 64 + (b1 - 0x80) = n
  have first : 0xC0 + n / 64 = b0 := by omega
  have last : 0x80 + n % 64 = b1 := by omega
  rw [encodeChar_ofNat (.inl (by omega)), encodePoint, if_neg (by omega), if_pos (by omega), first, last]

theorem encodeChar_three (lead : 0xE0 ≤ b0 ∧ b0 < 0xF0) (second : admitsSecond3 b0 b1 = true)
    (third : isContinuation b2 = true) :
    encodeChar (Char.ofNat ((b0 - 0xE0) * 4096 + (b1 - 0x80) * 64 + (b2 - 0x80))) = [b0, b1, b2] := by
  simp only [admitsSecond3, Bool.and_eq_true, Bool.not_eq_true', Bool.and_eq_false_iff, beq_eq_false_iff_ne,
    decide_eq_false_iff_not, isContinuation_iff] at second third
  generalize value : (b0 - 0xE0) * 4096 + (b1 - 0x80) * 64 + (b2 - 0x80) = n
  -- no shorter spelling and no surrogate
  have valid : 0x800 ≤ n ∧ n < 0x10000 ∧ (n < 0xD800 ∨ 0xDFFF < n) := by omega
  have first : 0xE0 + n / 4096 = b0 := by omega
  have middle : 0x80 + n / 64 % 64 = b1 := by omega
  have last : 0x80 + n % 64 = b2 := by omega
  have isChar : n.isValidChar := by
    obtain ⟨-, small, low | high⟩ := valid
    · exact .inl low
    · exact .inr ⟨high, by omega⟩
  rw [encodeChar_ofNat isChar, encodePoint, if_neg (by omega), if_neg (by omega), if_pos valid.2.1, first,
    middle, last]

theorem encodeChar_four (lead : 0xF0 ≤ b0 ∧ b0 < 0xF5) (second : admitsSecond4 b0 b1 = true)
    (third : isContinuation b2 = true) (fourth : isContinuation b3 = true) :
    encodeChar (Char.ofNat
      ((b0 - 0xF0) * 262144 + (b1 - 0x80) * 4096 + (b2 - 0x80) * 64 + (b3 - 0x80))) = [b0, b1, b2, b3] := by
  simp only [admitsSecond4, Bool.and_eq_true, Bool.not_eq_true', Bool.and_eq_false_iff, beq_eq_false_iff_ne,
    decide_eq_false_iff_not, isContinuation_iff] at second third fourth
  generalize value : (b0 - 0xF0) * 262144 + (b1 - 0x80) * 4096 + (b2 - 0x80) * 64 + (b3 - 0x80) = n
  have valid : 0x10000 ≤ n ∧ n < 0x110000 := by omega
  have first : 0xF0 + n / 262144 = b0 := by omega
  have middle : 0x80 + n / 4096 % 64 = b1 := by omega
  have next : 0x80 + n / 64 % 64 = b2 := by omega
  have last : 0x80 + n % 64 = b3 := by omega
  rw [encodeChar_ofNat (.inr ⟨by omega, valid.2⟩), encodePoint, if_neg (by omega), if_neg (by omega),
    if_neg (by omega), first, middle, next, last]

end

/-- One character, and what was read behind it. -/
theorem encode_of_map {c : Char} {front rest : List Nat} {cs : List Char} {read : Except Error (List Char)}
    (char : encodeChar c = front) (later : ∀ {ds}, read = .ok ds → encode ds = rest)
    (h : read.map (c :: ·) = .ok cs) : encode cs = front ++ rest := by
  cases read with
  | error e => cases h
  | ok ds =>
    cases h
    rw [encode, List.flatMap_cons, char, ← later rfl]
    rfl

/-- Bytes that are read as a text are its bytes. -/
theorem encode_of_decodeFrom {index : Nat} {bs : List Nat} {cs : List Char}
    (h : decodeFrom index bs = .ok cs) : encode cs = bs := by
  fun_induction decodeFrom index bs generalizing cs with
  | case1 => cases h; rfl
  | case2 index b0 rest ascii ih => exact encode_of_map (encodeChar_one ascii) ih h
  | case4 index b0 _ lead b1 rest second ih => exact encode_of_map (encodeChar_two lead second) ih h
  | case9 index b0 _ _ lead b1 second b2 rest third ih =>
    exact encode_of_map (encodeChar_three lead (by simpa using second) third) ih h
  | case16 index b0 _ _ _ lead b1 second b2 third b3 rest fourth ih =>
    exact encode_of_map (encodeChar_four lead (by simpa using second) (by simpa using third) fourth) ih h
  | _ => cases h

theorem decode_eq_ok_iff {bs : List Nat} {cs : List Char} : decode bs = .ok cs ↔ bs = encode cs :=
  ⟨fun read => (encode_of_decodeFrom read).symm, fun written => written ▸ decode_encode cs⟩

theorem encode_eq_nil_iff {cs : List Char} : encode cs = [] ↔ cs = [] := by
  constructor
  · intro nothing
    have read := decode_encode cs
    rw [nothing] at read
    exact (Except.ok.inj read).symm
  · rintro rfl
    rfl

end Utf8

namespace Percent

/-- An escaped text stands for the text that has its bytes. -/
theorem decode_eq_ok_iff {raw cs : List Char} : decode raw = .ok cs ↔ bytes raw = Utf8.encode cs :=
  Utf8.decode_eq_ok_iff

/-- Every character and every escape stands for one byte at least. -/
theorem bytes_ne_nil {raw : List Char} (nonempty : raw ≠ []) : bytes raw ≠ [] := by
  unfold bytes
  split
  · split <;> exact List.cons_ne_nil _ _
  · next c rest _ =>
    intro nothing
    have char : Utf8.encode [c] = [] := by
      simpa [Utf8.encode] using (List.append_eq_nil_iff.1 nothing).1
    cases Utf8.encode_eq_nil_iff.1 char
  · exact absurd rfl nonempty

end Percent

end Routing
