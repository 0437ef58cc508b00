/-!
# Hexadecimal digits

* `Hex.value?`: the value of a digit in either case
* `Hex.digit`: the upper-case digit for a value
* `Hex.value?_digit`: a digit that was written reads back
-/
namespace Routing.Hex

def value? (c : Char) : Option Nat :=
  if '0' ≤ c ∧ c ≤ '9' then some (c.toNat - '0'.toNat)
  else if 'a' ≤ c ∧ c ≤ 'f' then some (c.toNat - 'a'.toNat + 10)
  else if 'A' ≤ c ∧ c ≤ 'F' then some (c.toNat - 'A'.toNat + 10)
  else none

def digit (n : Nat) : Char :=
  if n < 10 then Char.ofNat ('0'.toNat + n) else Char.ofNat ('A'.toNat + (n - 10))

theorem value?_digit {n : Nat} (h : n < 16) : value? (digit n) = some n := by
  have all : ∀ m : Fin 16, value? (digit m) = some m.val := by decide
  exact all ⟨n, h⟩

end Routing.Hex
