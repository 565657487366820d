import KernelBridge.Decimal.Integer
import KernelBridge.Unicode.Classes
import KernelBridge.Word

/-! # Dotted version texts

A version is written `5.0` in headers and as the list `[5, 0]` in older replies. Reading a list
off a text drops the segments that are no 64-bit integer; the major version is the first segment.
-/
namespace KernelBridge.Version
open Decimal Unicode

def legacyMajor : Nat := 4
def currentMajor : Nat := 5
def legacyText : String := "4.1"
def currentText : String := "5.0"

def segment? (part : List Char) : Option Int := (integer? (trim part)).filter Word.fitsInt64

def segments (version : String) : List Int := (version.toList.splitOn '.').filterMap segment?

def ofSegments (parts : List Int) : String := String.ofList (['.'].intercalate (parts.map intText))

/-- The number before the first dot, if it is below 2 ^ 32. -/
def major? (version : String) : Option Nat :=
  (natural? (trim (version.toList.takeWhile (· ≠ '.')))).filter (· < 0x100000000)

@[simp] theorem ofSegments_nil : ofSegments [] = "" := rfl

example : segments "5.0.dev" = [5, 0] := by decide
example : segments " -0 .+7.." = [0, 7] := by decide
example : major? "5.x" = some 5 := by decide
example : major? "-5" = none := by decide

end KernelBridge.Version
