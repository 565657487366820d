import KernelBridge.Code.Token

/-! # The identifier a cursor is about

Reading the tokens up to the cursor keeps two stacks: the dotted names read so far and the names
whose call is still open. The answer is the innermost open call, else the last name.
-/
namespace KernelBridge.Code

/-- A name with its attributes, as in `os.path`. -/
abbrev DottedName := List (List Char)

def keywords : List (List Char) :=
  ["False", "None", "True", "and", "as", "assert", "async", "await", "break", "class", "continue",
    "def", "del", "elif", "else", "except", "finally", "for", "from", "global", "if", "import",
    "in", "is", "lambda", "nonlocal", "not", "or", "pass", "raise", "return", "try", "while",
    "with", "yield"].map String.toList

/-- Both stacks have their last entry first. -/
structure Stacks where
  names : List DottedName
  calls : List DottedName
  deriving DecidableEq, Repr

namespace Stacks

def empty : Stacks := ⟨[], []⟩

/-- A name directly after a dot belongs to the name before it. -/
def readName (s : Stacks) (afterDot : Bool) (text : List Char) : Stacks :=
  match s.names, afterDot with
  | last :: rest, true => { s with names := (last ++ [text]) :: rest }
  | _, _ => { s with names := [text] :: s.names }

/-- An assignment forgets the name on its left. -/
def readOp (s : Stacks) (text : List Char) : Stacks :=
  if text = ['='] then { s with names := s.names.tail }
  else if text = ['('] then { s with calls := s.names.head?.toList ++ s.calls }
  else if text = [')'] then { s with calls := s.calls.tail }
  else s

def read (s : Stacks) (afterDot : Bool) : Lexeme → Stacks
  | .name text => if keywords.contains text then s else s.readName afterDot text
  | .op text => s.readOp text
  | _ => s

def answer (s : Stacks) : List Char :=
  ['.'].intercalate ((s.calls.head?.or s.names.head?).getD [])

end Stacks

/-- A token counts if it starts before this position. At the start of a line the cursor already
counts as inside the token that follows it. -/
def boundary (cursor lineStart : Nat) (t : Token) : Nat :=
  if t.start = lineStart then cursor + 1 else cursor

def isDot (lexeme : Lexeme) : Bool := lexeme == .op ['.']

/-- Reads tokens until one starts at the boundary or ends behind the cursor. -/
def readUpTo (cursor : Nat) : Nat → Bool → Stacks → List Token → Stacks
  | _, _, s, [] => s
  | lineStart, afterDot, s, t :: ts =>
    if boundary cursor lineStart t ≤ t.start then s
    else
      let s := s.read afterDot t.lexeme
      if cursor < t.stop then s
      else readUpTo cursor (if t.lexeme = .newline then t.stop else lineStart) (isDot t.lexeme) s ts

def identifierAt (code : String) (cursor : Nat) : String :=
  String.ofList (readUpTo cursor 0 false .empty (Token.lex code.toList)).answer

example : identifierAt "os.path.join" 4 = "os.path" := by decide
example : identifierAt "print(x, " 9 = "print" := by decide

end KernelBridge.Code
