/-! # Machine words

The ranges of the integers that fit a signed or unsigned word, subtraction that stops at the ends of
the signed range, and counts, which wrap around at the end of the unsigned one.
-/
namespace KernelBridge.Word

def leastInt64 : Int := -0x8000000000000000
def greatestInt64 : Int := 0x7fffffffffffffff

def fitsInt64 (n : Int) : Bool := leastInt64 ≤ n && n ≤ greatestInt64
def fitsUInt64 (n : Int) : Bool := 0 ≤ n && n < 0x10000000000000000
def fitsUInt32 (n : Int) : Bool := 0 ≤ n && n < 0x100000000

def saturatingSub (a b : Int) : Int :=
  if a - b < leastInt64 then leastInt64 else if greatestInt64 < a - b then greatestInt64 else a - b

/-- How many items there are, as an unsigned word. -/
def ofCount (n : Nat) : Nat := n % 0x10000000000000000

/-- The negative of a count, or the least signed word where the count itself does not fit. -/
def negate (n : Nat) : Int := if fitsInt64 n then -n else leastInt64

theorem fitsInt64_iff {n : Int} : fitsInt64 n = true ↔ leastInt64 ≤ n ∧ n ≤ greatestInt64 := by
  simp [fitsInt64]

theorem fitsUInt64_iff {n : Nat} : fitsUInt64 n = true ↔ n < 0x10000000000000000 := by
  simp only [fitsUInt64, Bool.and_eq_true, decide_eq_true_eq]
  omega

@[simp] theorem fitsUInt64_ofCount (n : Nat) : fitsUInt64 (ofCount n) = true := by
  rw [fitsUInt64_iff]
  exact Nat.mod_lt n (by decide)

@[simp] theorem fitsInt64_negate (n : Nat) : fitsInt64 (negate n) = true := by
  rw [fitsInt64_iff]
  unfold negate
  split
  · next h =>
    have hr := fitsInt64_iff.mp h
    simp only [leastInt64, greatestInt64] at *
    omega
  · decide

end KernelBridge.Word
