import KernelBridge.Decimal.Layout
import KernelBridge.Json.Value
import KernelBridge.Text.Quoted

/-! # Compact JSON text

No blanks, members in the order of the object. Inside a string only the quote, the backslash and the
characters below the space are escaped.
-/
namespace KernelBridge.Json
open Decimal Text

def floatLayout : Layout := ⟨-5, 15⟩

def Number.chars : Number → List Char
  | .int n => intText n
  | .float x => floatLayout.floatText x

def escape? : Char → Option Char
  | '"' => some '"'
  | '\\' => some '\\'
  | '\n' => some 'n'
  | '\r' => some 'r'
  | '\t' => some 't'
  | '\x08' => some 'b'
  | '\x0c' => some 'f'
  | _ => none

def escapeChar (c : Char) : List Char :=
  match escape? c with
  | some e => ['\\', e]
  | none =>
    if c.toNat < 16 then ['\\', 'u', '0', '0', '0'] ++ hexText c.toNat
    else if c.toNat < 32 then ['\\', 'u', '0', '0'] ++ hexText c.toNat
    else [c]

def stringChars (s : String) : List Char := '"' :: s.toList.flatMap escapeChar ++ ['"']

namespace Value

mutual

def chars : Value → List Char
  | .null => ['n', 'u', 'l', 'l']
  | .bool true => ['t', 'r', 'u', 'e']
  | .bool false => ['f', 'a', 'l', 's', 'e']
  | .num n => n.chars
  | .str s => stringChars s
  | .arr items => '[' :: [','].intercalate (itemChars items) ++ [']']
  | .obj fields => '\x7b' :: [','].intercalate (fieldChars fields) ++ ['\x7d']

def itemChars : List Value → List (List Char)
  | [] => []
  | v :: items => chars v :: itemChars items

def fieldChars : List (String × Value) → List (List Char)
  | [] => []
  | (k, v) :: fields => (stringChars k ++ ':' :: chars v) :: fieldChars fields

end

def compact (v : Value) : String := String.ofList v.chars

theorem itemChars_eq_map (items : List Value) : itemChars items = items.map chars := by
  induction items with
  | nil => rfl
  | cons v items ih => simp [itemChars, ih]

theorem fieldChars_eq_map (fields : List (String × Value)) :
    fieldChars fields = fields.map fun e => stringChars e.1 ++ ':' :: chars e.2 := by
  induction fields with
  | nil => rfl
  | cons e fields ih => simp [fieldChars, ih]

end Value

end KernelBridge.Json
