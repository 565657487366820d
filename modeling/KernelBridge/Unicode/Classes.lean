import KernelBridge.Unicode.Alphabetic
import KernelBridge.Unicode.Numeric
import KernelBridge.Unicode.DefaultIgnorable
import KernelBridge.Unicode.ExtendingMark
import KernelBridge.Unicode.Unprintable

/-! # Character classes built from the tables -/
namespace KernelBridge.Unicode

def whiteSpaceRanges : RangeTable := [
  (0x9, 0xd), (0x20, 0x20), (0x85, 0x85), (0xa0, 0xa0), (0x1680, 0x1680), (0x2000, 0x200a),
  (0x2028, 0x2029), (0x202f, 0x202f), (0x205f, 0x205f), (0x3000, 0x3000)]

/-- The property `White_Space`: the characters that trimming removes. -/
def isWhiteSpace (c : Char) : Bool := whiteSpaceRanges.covers c

def isAlphanumeric (c : Char) : Bool := isAlphabetic c || isNumeric c

/-- Characters that can be seen on their own, and the space. -/
def isVisible (c : Char) : Bool := !(isExtendingMark c || isUnprintable c || isDefaultIgnorable c)

/-- Drops the white space at both ends. -/
def trim (cs : List Char) : List Char :=
  ((cs.dropWhile isWhiteSpace).reverse.dropWhile isWhiteSpace).reverse

end KernelBridge.Unicode
