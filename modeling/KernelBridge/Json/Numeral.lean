import KernelBridge.Json.Value

/-! # Numbers in JSON text

A numeral is a sign, digits, and possibly a fraction and a power of ten. Without the last two it is
an integer as far as 64 bits reach. Every other numeral is a float: its leading digits below
`2 ^ 64` are rounded to a float, which is then multiplied or divided by the power of ten.
-/
namespace KernelBridge.Json

structure Numeral where
  negative : Bool
  whole : List Char
  fraction : Option (List Char)
  power : Option Int
  deriving DecidableEq, Repr

namespace Numeral

def splitDigits (cs : List Char) : List Char × List Char := cs.span Char.isDigit

def digitsValue (cs : List Char) : Nat := Nat.ofDigitChars 10 cs 0

def readSign : List Char → Bool × List Char
  | '-' :: cs => (true, cs)
  | cs => (false, cs)

/-- No leading zero, except the single zero. -/
def readWhole (cs : List Char) : Option (List Char × List Char) :=
  match splitDigits cs with
  | ([], _) => none
  | ('0' :: _ :: _, _) => none
  | found => some found

def readFraction : List Char → Option (Option (List Char) × List Char)
  | '.' :: cs =>
    match splitDigits cs with
    | ([], _) => none
    | (digits, rest) => some (some digits, rest)
  | cs => some (none, cs)

def readPowerSign : List Char → Bool × List Char
  | '+' :: cs => (false, cs)
  | '-' :: cs => (true, cs)
  | cs => (false, cs)

def readPower : List Char → Option (Option Int × List Char)
  | [] => some (none, [])
  | c :: cs =>
    if c = 'e' ∨ c = 'E' then
      let (negative, cs) := readPowerSign cs
      match splitDigits cs with
      | ([], _) => none
      | (digits, rest) =>
        let n : Int := digitsValue digits
        some (some (if negative then -n else n), rest)
    else some (none, c :: cs)

def read (cs : List Char) : Option (Numeral × List Char) := do
  let (negative, cs) := readSign cs
  let (whole, cs) ← readWhole cs
  let (fraction, cs) ← readFraction cs
  let (power, cs) ← readPower cs
  return (⟨negative, whole, fraction, power⟩, cs)

/-- Appends digits to a number as long as it stays below `2 ^ 64`. -/
def significand : Nat → List Char → Nat × List Char
  | n, [] => (n, [])
  | n, c :: cs =>
    let next := 10 * n + (c.toNat - '0'.toNat)
    if next < 0x10000000000000000 then significand next cs else (n, c :: cs)

def powerOfTen (n : Nat) : Float := Float.ofScientific 1 false n

/-- `x * 10 ^ power` by one multiplication or division, after divisions by `10 ^ 308` for the
smallest powers. There is no result when it is infinite. -/
def scale (x : Float) (power : Int) : Option Float :=
  if power.natAbs ≤ 308 then
    if power < 0 then some (x / powerOfTen power.natAbs)
    else
      let y := x * powerOfTen power.natAbs
      if y.isInf then none else some y
  else if x == 0 then some x
  else if 0 ≤ power then none
  else scale (x / powerOfTen 308) (power + 308)
termination_by power.natAbs

def floatValue? (n : Numeral) : Option Float := do
  let (whole, unread) := significand 0 n.whole
  let fraction := n.fraction.getD []
  let (digits, dropped) := significand whole fraction
  let shift : Int := unread.length - (fraction.length - dropped.length)
  let x ← scale digits.toFloat (shift + n.power.getD 0)
  return if n.negative then -x else x

/-- Zero with a minus sign is no integer. -/
def intValue? (n : Numeral) : Option Int :=
  match n.fraction, n.power with
  | none, none =>
    let value := digitsValue n.whole
    if n.negative then
      if 0 < value ∧ value ≤ 0x8000000000000000 then some (-(value : Int)) else none
    else if value < 0x10000000000000000 then some value
    else none
  | _, _ => none

def value? (n : Numeral) : Option Number :=
  match n.intValue? with
  | some i => some (.int i)
  | none => n.floatValue?.map .float

end Numeral

end KernelBridge.Json
