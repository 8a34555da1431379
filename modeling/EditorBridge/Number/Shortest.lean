import EditorBridge.Number.Double

/-!
# Shortest decimal digits

The decimal with the fewest digits that reads back as a given binary64 number, the nearest one if
there are several, and the positional or scientific text of it.
-/

namespace EditorBridge

/-- The decimal number `digits · 10^exponent`. -/
structure Decimal where
  digits : Nat
  exponent : Int
deriving DecidableEq, Repr, Inhabited

namespace Magnitude

/-- Compares `a · 10^i` with `n · 2^j` exactly. -/
def compareScaled (a : Nat) (i : Int) (n : Nat) (j : Int) : Ordering :=
  compare (a * Nat.pow 10 i.toNat * Nat.pow 2 (-j).toNat)
    (n * Nat.pow 2 j.toNat * Nat.pow 10 (-i).toNat)

/-- Whether the number below is only half as far away as the number above. -/
def narrowBelow (x : Magnitude) : Bool := x.mantissa == Nat.pow 2 52 && x.exponent != -1074

/-- Whether a decimal lies among the reals that round to `x`. -/
def readsBack (x : Magnitude) (d : Decimal) : Bool :=
  let lo := if x.narrowBelow then 4 * x.mantissa - 1 else 4 * x.mantissa - 2
  let below := compareScaled d.digits d.exponent lo (x.exponent - 2)
  let above := compareScaled d.digits d.exponent (4 * x.mantissa + 2) (x.exponent - 2)
  let even := x.mantissa % 2 == 0
  (below == .gt || (even && below == .eq)) && (above == .lt || (even && above == .eq))

/-- The value in units of `10^g`, as a numerator and a denominator. -/
def onGrid (x : Magnitude) (g : Int) : Nat × Nat :=
  (x.mantissa * Nat.pow 2 x.exponent.toNat * Nat.pow 10 (-g).toNat,
    Nat.pow 2 (-x.exponent).toNat * Nat.pow 10 g.toNat)

/-- Of the two neighbours of `x` on the grid of multiples of `10^g`, the nearest one that reads
back. -/
def onGrid? (x : Magnitude) (g : Int) : Option Decimal :=
  let (n, d) := x.onGrid g
  let below : Decimal := ⟨n / d, g⟩
  let above : Decimal := ⟨n / d + 1, g⟩
  match x.readsBack below, x.readsBack above with
  | true, true => some ⟨roundDiv n d, g⟩
  | true, false => some below
  | false, true => some above
  | false, false => none

/-- The least `k` with `x < 10^k`, for a number that is not zero. -/
def scale (x : Magnitude) : Int :=
  let estimate : Int := ((x.mantissa.log2 + x.exponent) * 30103) / 100000
  let reaches (k : Int) : Bool := let (n, d) := x.onGrid k; n < d
  if reaches estimate then estimate
  else if reaches (estimate + 1) then estimate + 1
  else estimate + 2

/-- Moves the zeros at the end of the digits into the exponent. -/
def stripZeros : (fuel : Nat) → Decimal → Decimal
  | 0, d => d
  | fuel + 1, d => if d.digits % 10 = 0 then stripZeros fuel ⟨d.digits / 10, d.exponent + 1⟩ else d

/-- The shortest decimal that reads back as `x`, which is not zero. -/
def shortest (x : Magnitude) : Decimal :=
  let k := x.scale
  let found := (List.range 17).findSome? fun (n : Nat) => x.onGrid? (k - n - 1)
  let d :=
    found.getD ⟨x.mantissa * Nat.pow 2 x.exponent.toNat * Nat.pow 5 (-x.exponent).toNat,
      min x.exponent 0⟩
  stripZeros d.digits.log2 d

end Magnitude

/-- Which exponents of the leading digit are written positionally; all others get an exponent
part. -/
structure Layout where
  plainFrom : Int
  plainTo : Int
deriving DecidableEq, Repr

namespace Decimal

/-- The decimal digits of a natural number. -/
def digitChars (n : Nat) : List Char := Nat.toDigits 10 n

/-- The text of a decimal that is not zero. Positional text has a point with a digit on each side;
an exponent has a sign and no leading zeros. -/
def write (layout : Layout) (d : Decimal) : List Char :=
  let ds := digitChars d.digits
  let lead : Int := d.exponent + ds.length - 1
  if layout.plainFrom ≤ lead ∧ lead ≤ layout.plainTo then
    if lead < 0 then ['0', '.'] ++ List.replicate (-lead - 1).toNat '0' ++ ds
    else
      let whole := lead.toNat + 1
      if ds.length ≤ whole then ds ++ List.replicate (whole - ds.length) '0' ++ ['.', '0']
      else ds.take whole ++ ['.'] ++ ds.drop whole
  else
    let fraction := ds.drop 1
    ds.take 1 ++ (if fraction = [] then [] else '.' :: fraction) ++
      ['e', if lead < 0 then '-' else '+'] ++
      digitChars lead.natAbs

end Decimal

/-- The text of a number: the shortest digits that read back, after a sign where it is negative. -/
def Double.write (layout : Layout) (x : Double) : List Char :=
  (if x.negative then ['-'] else []) ++
    if x.magnitude.mantissa = 0 then ['0', '.', '0'] else x.magnitude.shortest.write layout

end EditorBridge
