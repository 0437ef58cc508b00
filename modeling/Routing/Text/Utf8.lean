/-!
# UTF-8

Bytes are numbers below 256.

* `Utf8.encode`: the bytes of a text
* `Utf8.decode`: the text of a list of bytes, or where and how they stop being one
-/
namespace Routing.Utf8

/-- The bytes are a text up to `validUpTo`. `badBytes` counts those after it that no text holds; it is
`none` when the bytes end within a character. -/
structure Error where
  validUpTo : Nat
  badBytes : Option Nat
  deriving DecidableEq, Repr

def Error.message (e : Error) : String :=
  match e.badBytes with
  | some n =>
    "invalid utf-8 sequence of " ++ toString n ++ " bytes from index " ++ toString e.validUpTo
  | none => "incomplete utf-8 byte sequence from index " ++ toString e.validUpTo

/-- The bytes of the character with number `n`. -/
def encodePoint (n : Nat) : List Nat :=
  if n < 0x80 then [n]
  else if n < 0x800 then [0xC0 + n / 64, 0x80 + n % 64]
  else if n < 0x10000 then [0xE0 + n / 4096, 0x80 + n / 64 % 64, 0x80 + n % 64]
  else [0xF0 + n / 262144, 0x80 + n / 4096 % 64, 0x80 + n / 64 % 64, 0x80 + n % 64]

def encodeChar (c : Char) : List Nat :=
  encodePoint c.toNat

def encode (cs : List Char) : List Nat :=
  cs.flatMap encodeChar

/-- Bytes that go on with a character. -/
def isContinuation (b : Nat) : Bool :=
  decide (0x80 ≤ b) && decide (b < 0xC0)

/-- The second bytes that a first one of three admits: none for a shorter spelling or a surrogate. -/
def admitsSecond3 (b0 b1 : Nat) : Bool :=
  isContinuation b1 && !(b0 == 0xE0 && decide (b1 < 0xA0)) && !(b0 == 0xED && decide (0xA0 ≤ b1))

/-- The second bytes that a first one of four admits: none for a shorter spelling or a number past the
last character. -/
def admitsSecond4 (b0 b1 : Nat) : Bool :=
  isContinuation b1 && !(b0 == 0xF0 && decide (b1 < 0x90)) && !(b0 == 0xF4 && decide (0x90 ≤ b1))

/-- Reads the bytes from index `at` on. -/
def decodeFrom (index : Nat) : List Nat → Except Error (List Char)
  | [] => .ok []
  | b0 :: rest =>
    if b0 < 0x80 then (decodeFrom (index + 1) rest).map (Char.ofNat b0 :: ·)
    else if 0xC2 ≤ b0 ∧ b0 < 0xE0 then
      match rest with
      | [] => .error ⟨index, none⟩
      | b1 :: rest =>
        if isContinuation b1 then
          (decodeFrom (index + 2) rest).map
            (Char.ofNat ((b0 - 0xC0) * 64 + (b1 - 0x80)) :: ·)
        else .error ⟨index, some 1⟩
    else if 0xE0 ≤ b0 ∧ b0 < 0xF0 then
      match rest with
      | [] => .error ⟨index, none⟩
      | b1 :: rest =>
        if !admitsSecond3 b0 b1 then .error ⟨index, some 1⟩
        else
          match rest with
          | [] => .error ⟨index, none⟩
          | b2 :: rest =>
            if isContinuation b2 then
              (decodeFrom (index + 3) rest).map
                (Char.ofNat ((b0 - 0xE0) * 4096 + (b1 - 0x80) * 64 + (b2 - 0x80)) :: ·)
            else .error ⟨index, some 2⟩
    else if 0xF0 ≤ b0 ∧ b0 < 0xF5 then
      match rest with
      | [] => .error ⟨index, none⟩
      | b1 :: rest =>
        if !admitsSecond4 b0 b1 then .error ⟨index, some 1⟩
        else
          match rest with
          | [] => .error ⟨index, none⟩
          | b2 :: rest =>
            if !isContinuation b2 then .error ⟨index, some 2⟩
            else
              match rest with
              | [] => .error ⟨index, none⟩
              | b3 :: rest =>
                if isContinuation b3 then
                  (decodeFrom (index + 4) rest).map
                    (Char.ofNat ((b0 - 0xF0) * 262144 + (b1 - 0x80) * 4096 + (b2 - 0x80) * 64 +
                      (b3 - 0x80)) :: ·)
                else .error ⟨index, some 3⟩
    else .error ⟨index, some 1⟩

def decode (bytes : List Nat) : Except Error (List Char) :=
  decodeFrom 0 bytes

end Routing.Utf8
