/-!
# Rounding quotients

* `roundDiv`: the nearest whole number to a quotient, a tie going to the even one
* `fixedText`: a quotient with a fixed number of decimal places
-/
namespace Routing.Number

/-- The whole number nearest to `num / den`; halfway between two, the even one. -/
def roundDiv (num den : Nat) : Nat :=
  let q := num / den
  let r := num % den
  if 2 * r < den then q
  else if 2 * r = den then q + q % 2
  else q + 1

/-- Digits of `n`, at least `width` of them. -/
def padded (width n : Nat) : String :=
  let ds := Nat.toDigits 10 n
  String.ofList (List.replicate (width - ds.length) '0' ++ ds)

/-- The quotient with `places` decimal places, the last one rounded. -/
def fixedText (places num den : Nat) : String :=
  let scaled := roundDiv (num * Nat.pow 10 places) den
  toString (scaled / Nat.pow 10 places) ++ "." ++ padded places (scaled % Nat.pow 10 places)

end Routing.Number
