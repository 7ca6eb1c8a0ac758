/-!
# The shortest decimal that reads back

A finite double is `m * 2 ^ q`. The decimals that round to it form an interval around it, the
ends included exactly when `m` is even. Of the decimals in the interval `shortest` takes one
with the fewest digits, and among those the one nearest to the value.
-/

namespace RemoteConsole

/-- The decimal `digits * 10 ^ exponent`. -/
structure Decimal where
  digits : Nat
  exponent : Int
deriving DecidableEq, Repr

namespace Decimal

/-- A positive double `mantissa * 2 ^ exponent`; `narrow` says that the next smaller double is
only half as far away as the next larger one. -/
structure Binary where
  mantissa : Nat
  exponent : Int
  narrow : Bool
deriving DecidableEq, Repr

namespace Binary

/-- The double with these 64 bits, its sign left out. -/
def ofBits (bits : UInt64) : Binary :=
  let field := ((bits >>> 52) &&& 0x7ff).toNat
  let fraction := (bits &&& 0xfffffffffffff).toNat
  if field = 0 then ⟨fraction, -1074, false⟩
  else ⟨fraction + 0x10000000000000, (field : Int) - 1075, fraction == 0 && field != 1⟩

/-- A quarter of the double's unit, in units of `10 ^ e`, as a quotient of two numbers. -/
def quarterUnit (x : Binary) (e : Int) : Nat × Nat :=
  (Nat.pow 2 (x.exponent - 2).toNat * Nat.pow 10 (-e).toNat,
    Nat.pow 2 (2 - x.exponent).toNat * Nat.pow 10 e.toNat)

/-- Whether `d * 10 ^ e` rounds to the double. -/
def admits (x : Binary) (d : Nat) (e : Int) : Bool :=
  let (num, den) := x.quarterUnit e
  let low := (4 * x.mantissa - if x.narrow then 1 else 2) * num
  let high := (4 * x.mantissa + 2) * num
  if x.mantissa % 2 = 0 then low ≤ d * den && d * den ≤ high else low < d * den && d * den < high

/-- The neighbours of the double on the grid of `10 ^ e` that round to it, the nearer of two. -/
def onGrid (x : Binary) (e : Int) : Option Decimal :=
  let (num, den) := x.quarterUnit e
  let below := 4 * x.mantissa * num / den
  let twice := 2 * (4 * x.mantissa * num - below * den)
  match x.admits below e, x.admits (below + 1) e with
  | true, true =>
    if twice < den || (twice = den && below % 2 = 0) then some ⟨below, e⟩ else some ⟨below + 1, e⟩
  | true, false => some ⟨below, e⟩
  | false, true => some ⟨below + 1, e⟩
  | false, false => none

/-- The number of decimal digits before the point, at most zero for a fraction. -/
def magnitude (x : Binary) : Int :=
  let (num, den) := x.quarterUnit 0
  let whole := 4 * x.mantissa * num / den
  if whole ≠ 0 then (Nat.toDigits 10 whole).length
  else 1 - ((Nat.toDigits 10 (den / (4 * x.mantissa * num))).length : Int)

/-- A shortest decimal in the interval of the double, on grids of more and more digits. -/
def shortestFrom (x : Binary) (top : Int) : Nat → Nat → Decimal
  | 0, _ => ⟨x.mantissa, 0⟩
  | fuel + 1, digits =>
    match x.onGrid (top - digits) with
    | some ⟨0, _⟩ => x.shortestFrom top fuel (digits + 1)
    | some d => d
    | none => x.shortestFrom top fuel (digits + 1)

/-- The nearest of the shortest decimals that round to the double. -/
def shortest (x : Binary) : Decimal := x.shortestFrom x.magnitude 20 0

end Binary

end Decimal

end RemoteConsole
