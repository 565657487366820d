/-! # Sets of characters as ranges of code points

A table lists disjoint ranges `(first, last)` from the lowest to the highest, so the search stops
at the first range that begins above the character.
-/
namespace KernelBridge.Unicode

abbrev RangeTable := List (Nat × Nat)

namespace RangeTable

def coversCode (n : Nat) : RangeTable → Bool
  | [] => false
  | (first, last) :: rest => first ≤ n && (n ≤ last || coversCode n rest)

def covers (table : RangeTable) (c : Char) : Bool := coversCode c.toNat table

end RangeTable

end KernelBridge.Unicode
