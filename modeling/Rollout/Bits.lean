/-!
# Numbers of a limited size

Which whole numbers a given number of bits holds, with a sign and without, and where the
floating-point numbers of 64 bits end: for a decimal that is rounded once, and for one whose digits
and power of ten are rounded before they are multiplied.
-/

namespace Rollout.Bits

/-- Whether a number is one of so many bits without a sign. -/
def holds (bits : Nat) (n : Int) : Bool := 0 ≤ n && n < Nat.pow 2 bits

/-- Whether a number is one of so many bits with a sign. -/
def holdsSigned (bits : Nat) (n : Int) : Bool :=
  -(Nat.pow 2 (bits - 1) : Int) ≤ n && n < Nat.pow 2 (bits - 1)

/-- Whether a number is one of so many bits, be it with a sign or without. -/
def holdsEither (bits : Nat) (n : Int) : Bool := holds bits n || holdsSigned bits n

/-- The midpoint between the greatest floating-point number of 64 bits and the next power of two:
a decimal from here on is rounded to no number. -/
def floatLimit : Nat := Nat.pow 2 1024 - Nat.pow 2 970

/-- Whether `digits · 10 ^ exponent` is rounded to a finite number. The number of its places before
the point decides, unless it is that of the limit itself. -/
def isFiniteDecimal (digits : Nat) (exponent : Int) : Bool :=
  let places : Int := (Nat.toDigits 10 digits).length + exponent
  if digits = 0 ∨ places < 309 then true
  else if 309 < places then false
  else if exponent < 0 then digits < floatLimit * Nat.pow 10 exponent.natAbs
  else digits * Nat.pow 10 exponent.natAbs < floatLimit

/-- The whole number of at most 53 significant bits next to a number; of two the one whose last bit
is zero. -/
def round53 (n : Nat) : Nat :=
  let excess := (n.log2 + 1) - 53
  let unit := Nat.pow 2 excess
  let q := n / unit
  let r := n % unit
  if 2 * r < unit ∨ (2 * r = unit ∧ q % 2 = 0) then q * unit else (q + 1) * unit

/-- Whether `digits · 10 ^ exponent` is finite where both factors are rounded before they are
multiplied. A power of more than 308 zeros is not finite itself. -/
def isFiniteProduct (digits : Nat) (exponent : Nat) : Bool :=
  digits = 0 || (exponent ≤ 308 && round53 digits * round53 (Nat.pow 10 exponent) < floatLimit)

end Rollout.Bits
