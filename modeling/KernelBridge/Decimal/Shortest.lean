/-! # Shortest decimal digits of a binary number

A binary number `mantissa * 2 ^ exponent` stands for the interval of reals that round to it; the
ends belong to the interval iff the mantissa is even. Among the grids of multiples of a power of
ten the coarsest one with a point in the interval gives the fewest digits. Of the two points of that
grid next to the number the nearer is taken, and the even one when they are equally near. All
comparisons are made on natural numbers.
-/
namespace KernelBridge.Decimal

structure Binary where
  mantissa : Nat
  exponent : Int
  deriving DecidableEq, Repr

namespace Binary

/-- The least mantissa of a normal double, `2 ^ 52`. -/
def leastNormal : Nat := 0x10000000000000

/-- The absolute value of a finite double. -/
def ofBits (bits : UInt64) : Binary :=
  let field : Nat := bits.toNat / leastNormal % 0x800
  let fraction : Nat := bits.toNat % leastNormal
  if field = 0 then ⟨fraction, -1074⟩ else ⟨fraction + leastNormal, (field : Int) - 1075⟩

/-- The distance to the lower end of the interval, in quarters of the last binary place: half as
much as above for a power of two, whose lower neighbour has one binary place more. -/
def below (b : Binary) : Nat := if b.mantissa = leastNormal ∧ -1074 < b.exponent then 1 else 2

def closed (b : Binary) : Bool := b.mantissa % 2 == 0

/-- A quarter of the last binary place over `10 ^ k`, as numerator and denominator. -/
def quarterOver (b : Binary) (k : Int) : Nat × Nat :=
  (Nat.pow 2 (b.exponent - 2).toNat * Nat.pow 10 (-k).toNat,
    Nat.pow 2 (2 - b.exponent).toNat * Nat.pow 10 k.toNat)

/-- Whether `d * 10 ^ k` lies in the interval. -/
def holds (b : Binary) (k : Int) (d : Nat) : Bool :=
  let (num, den) := b.quarterOver k
  let low := (4 * b.mantissa - b.below) * num
  let high := (4 * b.mantissa + 2) * num
  if b.closed then low ≤ d * den && d * den ≤ high else low < d * den && d * den < high

/-- The multiple of `10 ^ k` at or below the number. -/
def floorAt (b : Binary) (k : Int) : Nat :=
  let (num, den) := b.quarterOver k
  4 * b.mantissa * num / den

/-- Whether the number lies nearer to `d * 10 ^ k` than to the next multiple, ties going to the
even one. -/
def prefersLower (b : Binary) (k : Int) (d : Nat) : Bool :=
  let (num, den) := b.quarterOver k
  let twice := 8 * b.mantissa * num
  twice < (2 * d + 1) * den || (twice == (2 * d + 1) * den && d % 2 == 0)

def pointAt? (b : Binary) (k : Int) : Option Nat :=
  let d := b.floorAt k
  match b.holds k d, b.holds k (d + 1) with
  | true, true => some (if b.prefersLower k d then d else d + 1)
  | true, false => some d
  | false, true => some (d + 1)
  | false, false => none

/-- Goes from the grid of `10 ^ k` to finer grids, at most `steps` of them. -/
def coarsest (b : Binary) : Nat → Int → Nat × Int
  | 0, k => (0, k)
  | steps + 1, k =>
    match b.pointAt? k with
    | some d => (d, k)
    | none => coarsest b steps (k - 1)

/-- The pair `(d, k)` for the shortest decimal `d * 10 ^ k`. Every positive double has a point on
some grid from `10 ^ 308` to `10 ^ (-324)`. -/
def shortest (b : Binary) : Nat × Int := b.coarsest 633 308

end Binary

example : (Binary.ofBits (0.1 : Float).toBits).shortest = (1, -1) := by decide +kernel
example : (Binary.ofBits (5e-324 : Float).toBits).shortest = (5, -324) := by decide +kernel
example : (Binary.ofBits (1125899906842624.25 : Float).toBits).shortest =
    (11258999068426242, -1) := by decide +kernel

end KernelBridge.Decimal
