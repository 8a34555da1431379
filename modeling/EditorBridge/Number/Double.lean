/-!
# Binary floating-point numbers

Finite binary64 numbers as exact values `±mantissa · 2^exponent`, with rounding of quotients to the
nearest number (a half goes to the even mantissa) done in exact arithmetic.
-/

namespace EditorBridge

/-- A finite non-negative binary64 number `mantissa · 2^exponent`. -/
structure Magnitude where
  mantissa : Nat
  exponent : Int
deriving DecidableEq, Repr, Inhabited

/-- A finite binary64 number. -/
structure Double where
  negative : Bool
  magnitude : Magnitude
deriving DecidableEq, Repr, Inhabited

/-- The natural number nearest to `num / den`; a half goes to the even neighbour. -/
def roundDiv (num den : Nat) : Nat :=
  let q := num / den
  let r := num % den
  if 2 * r < den then q
  else if den < 2 * r then q + 1
  else if q % 2 = 0 then q else q + 1

namespace Magnitude

/-- The number zero. -/
def zero : Magnitude := ⟨0, -1074⟩

/-- The quotient `num / den` counted in units of `2^q`, as a numerator and a denominator. -/
def inUnits (num den : Nat) (q : Int) : Nat × Nat :=
  (num * Nat.pow 2 (-q).toNat, den * Nat.pow 2 q.toNat)

/-- The exponent with which `num / den` has a mantissa of 53 bits, or the least exponent there
is. -/
def unitExponent (num den : Nat) : Int :=
  let q : Int := (num.log2 : Int) - den.log2 - 53
  let (n, d) := inUnits num den q
  max (-1074) (if d * Nat.pow 2 53 ≤ n then q + 1 else q)

/-- The number nearest to `num / den`, unless it is too large. -/
def ofRatio? (num den : Nat) : Option Magnitude :=
  if num = 0 then some zero
  else
    let q := unitExponent num den
    let (n, d) := inUnits num den q
    let m := roundDiv n d
    let (m, q) := if m = Nat.pow 2 53 then (Nat.pow 2 52, q + 1) else (m, q)
    if 971 < q then none else some ⟨m, q⟩

/-- The number nearest to `num · 2^e / den`, unless it is too large. -/
def ofScaled? (num den : Nat) (e : Int) : Option Magnitude :=
  ofRatio? (num * Nat.pow 2 e.toNat) (den * Nat.pow 2 (-e).toNat)

/-- The rounded product. -/
def mul? (a b : Magnitude) : Option Magnitude :=
  ofScaled? (a.mantissa * b.mantissa) 1 (a.exponent + b.exponent)

/-- The rounded quotient by a number that is not zero. -/
def div? (a b : Magnitude) : Option Magnitude :=
  ofScaled? a.mantissa b.mantissa (a.exponent - b.exponent)

/-- The number nearest to a power of ten. -/
def pow10? (k : Nat) : Option Magnitude := ofRatio? (Nat.pow 10 k) 1

/-- Divides by a power of ten, at most `10^308` at a time, until nothing is left of the power or of
the number. -/
def shrink (a : Magnitude) (k : Nat) : Option Magnitude :=
  if k ≤ 308 then do a.div? (← pow10? k)
  else if a.mantissa = 0 then some a
  else do shrink (← a.div? (← pow10? 308)) (k - 308)
termination_by k

/-- The number `digits · 10^e`, computed by rounding `digits`, then the power, then their product or
quotient; `none` when it is too large. -/
def ofDecimal? (digits : Nat) (e : Int) : Option Magnitude := do
  let a ← ofRatio? digits 1
  if 0 ≤ e then
    if e.toNat ≤ 308 then a.mul? (← pow10? e.toNat)
    else if a.mantissa = 0 then some a
    else none
  else a.shrink (-e).toNat

end Magnitude

end EditorBridge
