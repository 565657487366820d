/-! # The line under a cursor

Code is cut after each line feed, each carriage return, and each pair of both, so the lines put
together are the code. A cursor at the end of a line belongs to that line.
-/
namespace KernelBridge.Code

/-- The lines of a code, each with its terminator. -/
def lines : List Char → List (List Char)
  | [] => []
  | '\r' :: '\n' :: cs => ['\r', '\n'] :: lines cs
  | c :: cs =>
    if c = '\n' ∨ c = '\r' then [c] :: lines cs
    else
      match lines cs with
      | [] => [[c]]
      | l :: ls => (c :: l) :: ls

/-- Goes down the lines until the cursor falls into one. What is left of a cursor past the end counts
from the start of the last line, up to its length. -/
def locate : List Char → Nat → List (List Char) → List Char × Nat
  | last, cursor, [] => (last, min cursor last.length)
  | _, cursor, l :: ls => if cursor ≤ l.length then (l, cursor) else locate l (cursor - l.length) ls

def lineAt (code : String) (cursor : Nat) : String × Nat :=
  let (line, offset) := locate [] cursor (lines code.toList)
  (String.ofList line, offset)

@[simp] theorem flatten_lines (cs : List Char) : (lines cs).flatten = cs := by
  fun_induction lines cs with
  | case1 => rfl
  | case2 cs ih => simp [ih]
  | case3 c cs _ h ih => simp [ih]
  | case4 c cs _ h hl ih => simp_all
  | case5 c cs _ h l ls hl ih => simp_all

theorem ne_nil_of_mem_lines {cs l : List Char} (h : l ∈ lines cs) : l ≠ [] := by
  fun_induction lines cs <;> simp_all <;> grind

theorem locate_le_length (last : List Char) (cursor : Nat) (ls : List (List Char)) :
    (locate last cursor ls).2 ≤ (locate last cursor ls).1.length := by
  fun_induction locate last cursor ls with
  | case1 => exact Nat.min_le_right ..
  | case2 _ _ _ _ h => exact h
  | case3 _ _ _ _ _ ih => exact ih

example : lineAt "abc\ndef\n" 5 = ("def\n", 1) := by decide
example : lineAt "abc\n" 5 = ("abc\n", 1) := by decide

end KernelBridge.Code
