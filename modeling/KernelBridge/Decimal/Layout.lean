import KernelBridge.Decimal.Integer
import KernelBridge.Decimal.Shortest

/-! # Where the point of a decimal goes

A layout names the decimal exponents of the numbers that are written without a power of ten; these
always have a fraction. The others have one digit before the point and a signed exponent.
-/
namespace KernelBridge.Decimal

structure Layout where
  leastPositional : Int
  greatestPositional : Int
  deriving DecidableEq, Repr

namespace Layout

def positional (digits : List Char) (exponent : Int) : List Char :=
  if exponent < 0 then
    ['0', '.'] ++ List.replicate ((-exponent).toNat - 1) '0' ++ digits
  else
    let whole := exponent.toNat + 1
    if digits.length ≤ whole then digits ++ List.replicate (whole - digits.length) '0' ++ ['.', '0']
    else digits.take whole ++ '.' :: digits.drop whole

def scientific (digits : List Char) (exponent : Int) : List Char :=
  let power := 'e' :: (if exponent < 0 then '-' else '+') :: natText exponent.natAbs
  match digits with
  | d :: e :: rest => d :: '.' :: e :: rest ++ power
  | _ => digits ++ power

/-- The text of `0.digits * 10 ^ (exponent + 1)`. -/
def text (l : Layout) (digits : List Char) (exponent : Int) : List Char :=
  if l.leastPositional ≤ exponent && exponent ≤ l.greatestPositional then
    positional digits exponent
  else scientific digits exponent

def floatText (l : Layout) (x : Float) : List Char :=
  let b := Binary.ofBits x.toBits
  let magnitude :=
    if b.mantissa = 0 then l.text ['0'] 0
    else
      let (d, k) := b.shortest
      l.text (natText d) (k + (natText d).length - 1)
  if 0x8000000000000000 ≤ x.toBits.toNat then '-' :: magnitude else magnitude

end Layout

end KernelBridge.Decimal
