import KernelBridge.Unicode.Classes

/-! # Tokens of kernel code

A token is a lexeme with a span of positions in the code, counted in characters. Blanks belong to no
token. Strings, numbers and comments are one token each, whose text nobody asks for.
-/
namespace KernelBridge.Code
open Unicode

inductive Lexeme where
  | name (text : List Char)
  | op (text : List Char)
  | newline
  | other
  deriving DecidableEq, Repr

/-- A token from position `start` up to but without position `stop`. -/
structure Token where
  lexeme : Lexeme
  start : Nat
  stop : Nat
  deriving DecidableEq, Repr

namespace Token

def threeCharOps : List (List Char) := ["**=", "//=", ">>=", "<<=", "..."].map String.toList

def twoCharOps : List (List Char) :=
  ["==", "!=", "<=", ">=", "+=", "-=", "*=", "/=", "%=", "&=", "|=", "^=", "@=", "->", "**",
    "//", "<<", ">>", ":="].map String.toList

/-- What may stand in front of a string's quote, in small letters. -/
def stringMarks : List (List Char) := ["r", "u", "b", "f", "br", "rb", "fr", "rf"].map String.toList

def isBlank (c : Char) : Bool := c == ' ' || c == '\t' || c == '\x0c'
def isLineEnd (c : Char) : Bool := c == '\n' || c == '\r'
def isQuote (c : Char) : Bool := c == '"' || c == '\''
def isNameStart (c : Char) : Bool := isAlphabetic c || c == '_'
def isNameChar (c : Char) : Bool := isAlphanumeric c || c == '_'
def isNumberChar (c : Char) : Bool := isNameChar c || c == '.'

/-- The length of a string's body and closing quotes. A backslash takes the next character with it;
a string between single quotes of either kind ends before a line feed. -/
def bodyLength (quote : Char) (triple : Bool) : List Char → Nat
  | [] => 0
  | ['\\'] => 1
  | '\\' :: _ :: cs => bodyLength quote triple cs + 2
  | c :: cs =>
    if c = '\n' ∧ triple = false then 0
    else if c = quote ∧ triple = false then 1
    else if c = quote ∧ [quote, quote].isPrefixOf cs then 3
    else bodyLength quote triple cs + 1

/-- The length of a string whose opening quote is followed by `cs`. -/
def stringLength (quote : Char) (cs : List Char) : Nat :=
  if [quote, quote].isPrefixOf cs then bodyLength quote true (cs.drop 2) + 3
  else bodyLength quote false cs + 1

/-- The longest operator at the front; any other character is one of its own. -/
def opLength (cs : List Char) : Nat :=
  if threeCharOps.contains (cs.take 3) then 3 else if twoCharOps.contains (cs.take 2) then 2 else 1

def scanWord (word rest : List Char) : Lexeme × Nat :=
  match rest with
  | q :: cs =>
    if isQuote q && stringMarks.contains (word.map Char.toLower) then
      (.other, word.length + stringLength q cs)
    else (.name word, word.length)
  | [] => (.name word, word.length)

/-- The lexeme that starts with the character `c`, which is no blank, and its length. -/
def scan (c : Char) (cs : List Char) : Lexeme × Nat :=
  if c = '\r' ∧ cs.head? = some '\n' then (.newline, 2)
  else if isLineEnd c then (.newline, 1)
  else if c = '#' then (.other, (cs.takeWhile (!isLineEnd ·)).length + 1)
  else if isQuote c then (.other, stringLength c cs)
  else if isNameStart c then scanWord (c :: cs.takeWhile isNameChar) (cs.dropWhile isNameChar)
  else if c.isDigit then (.other, (cs.takeWhile isNumberChar).length + 1)
  else (.op ((c :: cs).take (opLength (c :: cs))), opLength (c :: cs))

/-- Lexes a code from a position on. The first `skip` characters belong to the token before. -/
def lexFrom : Nat → Nat → List Char → List Token
  | _, _, [] => []
  | pos, skip + 1, _ :: cs => lexFrom (pos + 1) skip cs
  | pos, 0, c :: cs =>
    if isBlank c then lexFrom (pos + 1) 0 cs
    else
      let (lexeme, length) := scan c cs
      ⟨lexeme, pos, pos + length⟩ :: lexFrom (pos + 1) (length - 1) cs

def lex (code : List Char) : List Token := lexFrom 0 0 code

@[simp] theorem lexFrom_nil (pos skip : Nat) : lexFrom pos skip [] = [] := by cases skip <;> rfl

theorem lexFrom_skip (pos skip : Nat) (cs : List Char) :
    lexFrom pos skip cs = lexFrom (pos + skip) 0 (cs.drop skip) := by
  induction skip generalizing pos cs with
  | zero => rfl
  | succ skip ih =>
    cases cs with
    | nil => simp
    | cons c cs =>
      simp only [lexFrom, List.drop_succ_cons]
      rw [ih, Nat.add_right_comm, Nat.add_assoc]

theorem lexFrom_blank {c : Char} (h : isBlank c = true) (pos : Nat) (cs : List Char) :
    lexFrom pos 0 (c :: cs) = lexFrom (pos + 1) 0 cs := by simp [lexFrom, h]

example : lex "x != 1.5".toList =
    [⟨.name ['x'], 0, 1⟩, ⟨.op ['!', '='], 2, 4⟩, ⟨.other, 5, 8⟩] := by decide
example : lex "b'\\'\n'".toList = [⟨.other, 0, 4⟩, ⟨.newline, 4, 5⟩, ⟨.other, 5, 6⟩] := by decide

end Token

end KernelBridge.Code
