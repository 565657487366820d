import KernelBridge.Json.Numeral

/-! # Reading JSON text

A reader takes a value off the front of a text and leaves the rest. Strict: four blanks, no trailing
commas, no control characters in strings, surrogates in pairs only, at most 127 levels of nesting.
Of the members of an object with one name the last one counts.
-/
namespace KernelBridge.Json

abbrev Reader (α : Type) := List Char → Option (α × List Char)

namespace Reader

def isBlank (c : Char) : Bool := c == ' ' || c == '\t' || c == '\n' || c == '\r'

def skipBlanks (cs : List Char) : List Char := cs.dropWhile isBlank

def hexDigit? (c : Char) : Option Nat :=
  if '0' ≤ c ∧ c ≤ '9' then some (c.toNat - '0'.toNat)
  else if 'a' ≤ c ∧ c ≤ 'f' then some (c.toNat - 'a'.toNat + 10)
  else if 'A' ≤ c ∧ c ≤ 'F' then some (c.toNat - 'A'.toNat + 10)
  else none

def codeUnit? (a b c d : Char) : Option Nat := do
  return ((((← hexDigit? a) * 16 + (← hexDigit? b)) * 16 + (← hexDigit? c)) * 16 + (← hexDigit? d))

def isHighSurrogate (n : Nat) : Bool := 0xd800 ≤ n && n < 0xdc00
def isLowSurrogate (n : Nat) : Bool := 0xdc00 ≤ n && n < 0xe000

def pairedCode (high low : Nat) : Nat := 0x10000 + (high - 0xd800) * 0x400 + (low - 0xdc00)

def unescape? : Char → Option Char
  | '"' => some '"'
  | '\\' => some '\\'
  | '/' => some '/'
  | 'b' => some '\x08'
  | 'f' => some '\x0c'
  | 'n' => some '\n'
  | 'r' => some '\r'
  | 't' => some '\t'
  | _ => none

/-- What a string is written with: a character, plainly or by a letter, or a UTF-16 unit. -/
inductive Piece where
  | char (c : Char)
  | unit (n : Nat)
  deriving DecidableEq, Repr

def prepend (p : Piece) (found : Option (List Piece × List Char)) :
    Option (List Piece × List Char) :=
  found.map fun (ps, rest) => (p :: ps, rest)

/-- The pieces of a string whose opening quote has been read. -/
def pieces : Reader (List Piece)
  | '"' :: rest => some ([], rest)
  | '\\' :: 'u' :: a :: b :: c :: d :: rest =>
    match codeUnit? a b c d with
    | some n => prepend (.unit n) (pieces rest)
    | none => none
  | '\\' :: c :: rest =>
    match unescape? c with
    | some e => prepend (.char e) (pieces rest)
    | none => none
  | c :: rest => if c == '\\' || c.toNat < 32 then none else prepend (.char c) (pieces rest)
  | [] => none

/-- Two surrogate units stand for one character; a surrogate alone stands for none. -/
def joinUnits : List Piece → Option (List Char)
  | [] => some []
  | .char c :: ps => (joinUnits ps).map (c :: ·)
  | .unit m :: ps =>
    if isHighSurrogate m then
      match ps with
      | .unit n :: ps =>
        if isLowSurrogate n then (joinUnits ps).map (Char.ofNat (pairedCode m n) :: ·) else none
      | _ => none
    else if isLowSurrogate m then none
    else (joinUnits ps).map (Char.ofNat m :: ·)

def string : Reader String := fun cs =>
  match pieces cs with
  | some (ps, rest) => (joinUnits ps).map fun found => (String.ofList found, rest)
  | none => none

def number : Reader Value := fun cs => do
  let (numeral, rest) ← Numeral.read cs
  return (.num (← numeral.value?), rest)

/-- A value without members. -/
def scalar : Reader Value
  | 'n' :: 'u' :: 'l' :: 'l' :: rest => some (.null, rest)
  | 't' :: 'r' :: 'u' :: 'e' :: rest => some (.bool true, rest)
  | 'f' :: 'a' :: 'l' :: 's' :: 'e' :: rest => some (.bool false, rest)
  | '"' :: rest => (string rest).map fun (s, rest) => (.str s, rest)
  | cs => number cs

section Sequences
variable {α : Type} (close : Char) (item : Reader α)

/-- One item or more, separated by commas, up to the closing character; at most `limit` items. -/
def itemsFrom : Nat → Reader (List α)
  | 0, _ => none
  | limit + 1, cs =>
    match item (skipBlanks cs) with
    | none => none
    | some (v, rest) =>
      match skipBlanks rest with
      | ',' :: rest => (itemsFrom limit rest).map fun (vs, rest) => (v :: vs, rest)
      | c :: rest => if c = close then some ([v], rest) else none
      | [] => none

/-- The items of a sequence whose opening character has been read. An item has at least one
character, so their number is bounded by the length of the text. -/
def items : Reader (List α) := fun cs =>
  match skipBlanks cs with
  | c :: rest => if c = close then some ([], rest) else itemsFrom close item cs.length cs
  | [] => none

end Sequences

def member (value : Reader Value) : Reader (String × Value)
  | '"' :: cs => do
    let (name, cs) ← string cs
    match skipBlanks cs with
    | ':' :: cs =>
      let (v, rest) ← value (skipBlanks cs)
      return ((name, v), rest)
    | _ => none
  | _ => none

/-- A value with at most `depth` levels of arrays and objects. -/
def value : Nat → Reader Value
  | 0, cs => scalar cs
  | depth + 1, cs =>
    match cs with
    | '[' :: rest => (items ']' (value depth) rest).map fun (vs, rest) => (.arr vs, rest)
    | '\x7b' :: rest =>
      (items '\x7d' (member (value depth)) rest).map fun (es, rest) =>
        (.obj (Assoc.ofList es), rest)
    | cs => scalar cs

end Reader

def maxDepth : Nat := 127

/-- The value of a whole text. -/
def read (text : String) : Option Value :=
  match Reader.value maxDepth (Reader.skipBlanks text.toList) with
  | some (v, rest) => if (Reader.skipBlanks rest).isEmpty then some v else none
  | none => none

end KernelBridge.Json
