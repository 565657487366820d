/-! # Decimal integers as text -/
namespace KernelBridge.Decimal

/-- One or more digits, with leading zeros allowed. -/
def digits? (cs : List Char) : Option Nat :=
  if cs ≠ [] ∧ cs.all Char.isDigit then some (Nat.ofDigitChars 10 cs 0) else none

def natural? : List Char → Option Nat
  | '+' :: cs => digits? cs
  | cs => digits? cs

def integer? : List Char → Option Int
  | '-' :: cs => (digits? cs).map fun (n : Nat) => -(n : Int)
  | cs => (natural? cs).map Int.ofNat

def natText (n : Nat) : List Char := Nat.toDigits 10 n

def natString (n : Nat) : String := String.ofList (natText n)

def intText (n : Int) : List Char := if n < 0 then '-' :: natText n.natAbs else natText n.natAbs

theorem natText_ne_nil (n : Nat) : natText n ≠ [] := by
  unfold natText
  rw [Nat.toDigits_eq_if (by decide)]
  split <;> simp

theorem all_isDigit_natText (n : Nat) : (natText n).all Char.isDigit = true :=
  List.all_eq_true.mpr fun _ hc => Nat.isDigit_of_mem_toDigits (by decide) (by decide) hc

@[simp] theorem digits?_natText (n : Nat) : digits? (natText n) = some n := by
  simp only [digits?, natText_ne_nil, all_isDigit_natText, ne_eq, not_false_eq_true, and_self,
    if_true]
  exact congrArg some Nat.ofDigitChars_ten_toDigits

theorem natText_head_ne {n : Nat} {c : Char} {cs : List Char} (hc : c.isDigit = false) :
    natText n ≠ c :: cs := by
  intro h
  have hd := all_isDigit_natText n
  simp [h, hc] at hd

theorem natural?_natText (n : Nat) : natural? (natText n) = some n := by
  unfold natural?
  split
  · next h => exact absurd h (natText_head_ne (by decide))
  · exact digits?_natText n

@[simp] theorem integer?_intText (n : Int) : integer? (intText n) = some n := by
  unfold intText
  split
  · simp only [integer?, digits?_natText, Option.map_some, Option.some.injEq]
    omega
  · unfold integer?
    split
    · next h => exact absurd h (natText_head_ne (by decide))
    · simp only [natural?_natText, Option.map_some, Option.some.injEq, Int.ofNat_eq_natCast]
      omega

end KernelBridge.Decimal
