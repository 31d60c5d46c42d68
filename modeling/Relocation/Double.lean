/-! Which numbers in decimal notation are within the range of a double. A decimal number is given as
`m * 10 ^ e`. It is either rounded once, or put together from two doubles and then rounded again:
the two ways differ for some numbers at the end of the range. -/

namespace Relocation.Double

/-- Half a step beyond the greatest double. From here on a number rounds to infinity. -/
def limit : Nat := Nat.pow 2 1024 - Nat.pow 2 970

/-- Whether `m * 10 ^ e` rounds to a finite double. A look at the number of its places decides all
but the numbers of 309 places. -/
def isFinite (m : Nat) (e : Int) : Bool :=
  let places : Int := (toString m).length + e
  if m = 0 ∨ places ≤ 308 then true
  else if places > 309 then false
  else if 0 ≤ e then m * Nat.pow 10 e.toNat < limit
  else m < limit * Nat.pow 10 (-e).toNat

/-- The nearest number of 53 significant bits; of two as near the one whose last bit is zero. -/
def nearest (n : Nat) : Nat :=
  let unit := Nat.pow 2 (n.log2 - 52)
  let q := n / unit
  let r := n % unit
  if unit < 2 * r ∨ (unit = 2 * r ∧ q % 2 = 1) then (q + 1) * unit else q * unit

/-- Whether the double nearest to `m` times the double nearest to `10 ^ e` rounds to a finite
double. A power that has no double is out of range, unless nothing is multiplied with it. -/
def isFiniteProduct (m : Nat) (e : Int) : Bool :=
  m = 0 || e ≤ 0 || (e ≤ 308 && nearest m * nearest (Nat.pow 10 e.toNat) < limit)

end Relocation.Double
