import KernelBridge.Unicode.Classes

/-! # Quoted text for messages to people

Quotes, backslashes and the common controls are escaped by one letter, every other character that
cannot be seen on its own by its code point. An apostrophe stays as it is.
-/
namespace KernelBridge.Text
open Unicode

def hexText (n : Nat) : List Char := Nat.toDigits 16 n

def escape? : Char → Option Char
  | '"' => some '"'
  | '\\' => some '\\'
  | '\n' => some 'n'
  | '\r' => some 'r'
  | '\t' => some 't'
  | '\x00' => some '0'
  | _ => none

def quoteChar (c : Char) : List Char :=
  match escape? c with
  | some e => ['\\', e]
  | none => if isVisible c then [c] else ['\\', 'u', '\x7b'] ++ hexText c.toNat ++ ['\x7d']

def quoted (s : String) : String := String.ofList ('"' :: s.toList.flatMap quoteChar ++ ['"'])

/-- Texts between square brackets, separated by commas. -/
def bracketed (items : List String) : String := "[" ++ ", ".intercalate items ++ "]"

example : quoted "it's\n\"x\"" = "\"it's\\n\\\"x\\\"\"" := by decide +kernel
example : quoted "\x7f" = "\"\\u\x7b7f\x7d\"" := by decide +kernel
example : quoted "\u3164" = "\"\\u\x7b3164\x7d\"" := by decide +kernel
example : quoted "\uff9e" = "\"\uff9e\"" := by decide +kernel

end KernelBridge.Text
