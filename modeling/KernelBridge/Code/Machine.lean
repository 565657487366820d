import KernelBridge.Code.Identifier
import KernelBridge.Code.Line
import KernelBridge.Word.Computed

/-! # Positions that are words

The identifier and the line under a cursor with every position and every remainder computed as a word,
token by token as far as the cursor asks for. What is left of the code is kept beside the position.
-/
namespace KernelBridge.Code.Machine
open Token Word
open Word.Computed (add sub)

/-- A machine holds no text with more bytes than the greatest signed word. -/
def Storable (code : String) : Prop := fitsInt64 code.utf8ByteSize = true

instance (code : String) : Decidable (Storable code) :=
  inferInstanceAs (Decidable (fitsInt64 code.utf8ByteSize = true))

/-- The character some places ahead. -/
def peek (pos ahead : Nat) (rest : List Char) : Computed (Option Char) := do
  let _ ← add pos ahead
  return rest[ahead]?

/-- Goes on while the characters satisfy a test. -/
def skipWhile (p : Char → Bool) : Nat → List Char → Computed (Nat × List Char)
  | pos, [] => do
    let _ ← peek pos 0 []
    return (pos, [])
  | pos, c :: cs => do
    let _ ← peek pos 0 (c :: cs)
    if p c then skipWhile p (← add pos 1) cs else return (pos, c :: cs)

/-- Whether the next two characters are quotes. The second is not looked at if the first is none. -/
def twoQuotesAhead (quote : Char) (pos : Nat) (rest : List Char) : Computed Bool := do
  if (← peek pos 1 rest) = some quote then return (← peek pos 2 rest) = some quote
  else return false

/-- Whether a string can end with this character. -/
def closes (quote : Char) (triple : Bool) (pos : Nat) (c : Char) (cs : List Char) : Computed Bool :=
  if c = quote then
    if triple then twoQuotesAhead quote pos (c :: cs) else return true
  else return false

/-- Goes to the end of a string from inside of it. A backslash before the end of the code takes a
character along that is not there, so the position is set back. -/
def skipBody (size : Nat) (quote : Char) (triple : Bool) : Nat → List Char → Computed Nat
  | pos, [] => do
    let _ ← peek pos 0 []
    return min pos size
  | pos, ['\\'] => do
    let _ ← peek pos 0 ['\\']
    let past ← add pos 2
    let _ ← peek past 0 []
    return min past size
  | pos, '\\' :: c :: cs => do
    let _ ← peek pos 0 ('\\' :: c :: cs)
    skipBody size quote triple (← add pos 2) cs
  | pos, c :: cs => do
    let _ ← peek pos 0 (c :: cs)
    if c = '\n' ∧ triple = false then return pos
    else if ← closes quote triple pos c cs then add pos (if triple then 3 else 1)
    else skipBody size quote triple (← add pos 1) cs

/-- Goes to the end of the string that starts with this quote. -/
def skipString (size pos : Nat) (quote : Char) (cs : List Char) : Computed Nat := do
  let _ ← peek pos 0 (quote :: cs)
  if ← twoQuotesAhead quote pos (quote :: cs) then
    skipBody size quote true (← add pos 3) (cs.drop 2)
  else skipBody size quote false (← add pos 1) cs

/-- The next characters, as many as there are. -/
def ahead (size pos count : Nat) (rest : List Char) : Computed (List Char) := do
  let stop ← add pos count
  return rest.take (min stop size - pos)

def opLength (size pos : Nat) (rest : List Char) : Computed Nat := do
  if threeCharOps.contains (← ahead size pos 3 rest) then return 3
  else if twoCharOps.contains (← ahead size pos 2 rest) then return 2
  else return 1

/-- Two characters if a carriage return and a line feed end the line together. -/
def lineEndLength (pos : Nat) (c : Char) (cs : List Char) : Computed Nat := do
  if c = '\r' then
    if (← peek pos 1 (c :: cs)) = some '\n' then return 2 else return 1
  else return 1

/-- What a word and what comes behind it are, and where that ends. -/
def scanWord (size stop : Nat) (word rest : List Char) : Computed (Lexeme × Nat) := do
  if stringMarks.contains (word.map Char.toLower) then
    match ← peek stop 0 rest with
    | some q =>
      if isQuote q then return (.other, ← skipString size stop q rest.tail)
      else return (.name word, stop)
    | none => return (.name word, stop)
  else return (.name word, stop)

/-- The lexeme at a position, which holds the character `c` and no blank, and where it ends. -/
def scan (size pos : Nat) (c : Char) (cs : List Char) : Computed (Lexeme × Nat) := do
  if isLineEnd c then return (.newline, ← add pos (← lineEndLength pos c cs))
  else if c = '#' then return (.other, (← skipWhile (!isLineEnd ·) pos (c :: cs)).1)
  else if isQuote c then return (.other, ← skipString size pos c cs)
  else if isNameStart c then
    let (stop, rest) ← skipWhile isNameChar pos (c :: cs)
    scanWord size stop ((c :: cs).take (stop - pos)) rest
  else if c.isDigit then return (.other, (← skipWhile isNumberChar pos (c :: cs)).1)
  else
    let stop ← add pos (← opLength size pos (c :: cs))
    return (.op ((c :: cs).take (stop - pos)), stop)

/-- What a token has to start before to count. -/
def boundary (cursor lineStart start : Nat) : Computed Nat :=
  if start = lineStart then add cursor 1 else pure cursor

/-- Scans and reads tokens until one starts at the boundary or ends behind the cursor. The first
`skip` characters stand before the position. -/
def readUpTo (size cursor : Nat) : Nat → Nat → Nat → Bool → Stacks → List Char → Computed Stacks
  | pos, _, _, _, s, [] => do
    let _ ← peek pos 0 []
    return s
  | pos, skip + 1, lineStart, afterDot, s, _ :: cs =>
    readUpTo size cursor pos skip lineStart afterDot s cs
  | pos, 0, lineStart, afterDot, s, c :: cs => do
    let _ ← peek pos 0 (c :: cs)
    if isBlank c then readUpTo size cursor (← add pos 1) 0 lineStart afterDot s cs
    else
      let (lexeme, stop) ← scan size pos c cs
      let bound ← boundary cursor lineStart pos
      let next := if lexeme = .newline then stop else lineStart
      if bound ≤ pos then return s
      else if cursor < stop then return s.read afterDot lexeme
      else readUpTo size cursor stop (stop - pos - 1) next (isDot lexeme) (s.read afterDot lexeme) cs

def identifierAt (code : String) (cursor : Nat) : Computed String := do
  let s ← readUpTo code.length cursor 0 0 0 false .empty code.toList
  return String.ofList s.answer

/-- The end of a line in bytes from its start: behind the one or two bytes that end it. -/
def lineEnd (line : List Char) : Computed Nat :=
  let body := line.takeWhile (!isLineEnd ·)
  let size := (String.ofList body).utf8ByteSize
  if body.length < line.length then add size (line.length - body.length) else return size

/-- Goes down the lines until what remains of the cursor falls into one. -/
def locate : List Char → Nat → List (List Char) → Computed (List Char × Nat)
  | last, remaining, [] => return (last, min remaining last.length)
  | _, remaining, l :: ls => do
    let _ ← lineEnd l
    if remaining ≤ l.length then return (l, remaining)
    else locate l (← sub remaining l.length) ls

def lineAt (code : String) (cursor : Nat) : Computed (String × Nat) := do
  let (line, offset) ← locate [] cursor (lines code.toList)
  return (String.ofList line, offset)

example : identifierAt "print(x, " 9 = ⟨"print", true⟩ := by decide
example : lineAt "abc\ndef\n" 5 = ⟨("def\n", 1), true⟩ := by decide

end KernelBridge.Code.Machine
