import KernelBridge.Proofs.Scanning
import KernelBridge.Proofs.Spans
import KernelBridge.Code.Identifier

/-! # Lines behind the cursor

A line end stops every token but a string and the carriage return of a pair. So text that is put on
the next line leaves the tokens of a code where they start: at most the last one gets longer, and it
ended at the end of the code. A cursor in the code does not see that: `identifierAt_append_line`.
-/
namespace KernelBridge.Code
open Token

namespace Token
variable {c e quote : Char} {cs rest : List Char} {pos skip : Nat}

section TakeWhile
variable {p : Char → Bool}

theorem takeWhile_append_stop (he : p e = false) (cs rest : List Char) :
    (cs ++ e :: rest).takeWhile p = cs.takeWhile p := by
  have hstop : (e :: rest).takeWhile p = [] := List.takeWhile_cons_of_neg (by simp [he])
  rw [List.takeWhile_append, hstop, List.append_nil]
  split
  · next hlength =>
    have hfront : cs.takeWhile p <+: cs := List.takeWhile_prefix p
    exact (hfront.eq_of_length hlength).symm
  · rfl

theorem dropWhile_append_stop (he : p e = false) (cs rest : List Char) :
    (cs ++ e :: rest).dropWhile p = cs.dropWhile p ++ e :: rest := by
  have hstop : (e :: rest).dropWhile p = e :: rest := List.dropWhile_cons_of_neg (by simp [he])
  rw [List.dropWhile_append, hstop]
  split
  · next hempty => rw [List.isEmpty_iff.mp hempty, List.nil_append]
  · rfl

end TakeWhile

/-- A longer text starts with the same operators of some length, if there are any of that length. -/
theorem take_append_mem_iff {ops : List (List Char)} {n : Nat} (hlength : ∀ op ∈ ops, op.length = n)
    (hfree : ∀ op ∈ ops, e ∉ op) (cs rest : List Char) :
    (cs ++ e :: rest).take n ∈ ops ↔ cs.take n ∈ ops := by
  rcases Nat.lt_or_ge cs.length n with hshort | hlong
  · refine iff_of_false (fun h => hfree _ h ?_) fun h => ?_
    · rw [List.take_append, List.take_of_length_le (Nat.le_of_lt hshort),
        List.take_cons (by omega)]
      simp
    · have hn := hlength _ h
      rw [List.length_take] at hn
      omega
  · rw [List.take_append_of_le_length hlong]

theorem opLength_append (hfree : ∀ op, op ∈ threeCharOps ∨ op ∈ twoCharOps → e ∉ op)
    (cs rest : List Char) : opLength (cs ++ e :: rest) = opLength cs := by
  have hthree := take_append_mem_iff (fun _ => length_of_mem_threeCharOps)
    (fun op h => hfree op (Or.inl h)) cs rest
  have htwo := take_append_mem_iff (fun _ => length_of_mem_twoCharOps)
    (fun op h => hfree op (Or.inr h)) cs rest
  simp only [opLength, List.contains_iff_mem, hthree, htwo]

/-- Two closing quotes are not completed by what ends a line. -/
theorem isPrefixOf_append_stop (he : e ≠ quote) (cs rest : List Char) :
    [quote, quote].isPrefixOf (cs ++ e :: rest) = [quote, quote].isPrefixOf cs := by
  have hne : (quote == e) = false := beq_eq_false_iff_ne.mpr he.symm
  match cs with
  | [] => simp [List.isPrefixOf, hne]
  | [c] => simp [List.isPrefixOf, hne]
  | c :: d :: cs => simp [List.isPrefixOf]

/-- With more text behind it a string ends where it did, or it went to the end before. -/
theorem bodyLength_append (he : e ≠ quote) (triple : Bool) (cs rest : List Char) :
    bodyLength quote triple (cs ++ e :: rest) = bodyLength quote triple cs ∨
      cs.length ≤ bodyLength quote triple (cs ++ e :: rest) ∧
        cs.length ≤ bodyLength quote triple cs := by
  induction cs using body_induction with
  | nil => exact Or.inr ⟨Nat.zero_le _, Nat.zero_le _⟩
  | lone => exact Or.inr ⟨Nat.le_add_left_of_le (by decide), Nat.le_refl _⟩
  | escape c cs ih =>
    simp only [List.cons_append, bodyLength, List.length_cons]
    omega
  | char c cs hc ih =>
    rw [List.cons_append, bodyLength_cons hc, bodyLength_cons hc, isPrefixOf_append_stop he]
    repeat' split
    · exact Or.inl rfl
    · exact Or.inl rfl
    · exact Or.inl rfl
    · rw [List.length_cons]
      omega

theorem stringLength_append (he : e ≠ quote) (cs rest : List Char) :
    stringLength quote (cs ++ e :: rest) = stringLength quote cs ∨
      cs.length + 1 ≤ stringLength quote (cs ++ e :: rest) ∧
        cs.length + 1 ≤ stringLength quote cs := by
  unfold stringLength
  rw [isPrefixOf_append_stop he]
  split
  · next htriple =>
    obtain ⟨body, rfl⟩ := List.isPrefixOf_iff_prefix.mp htriple
    have hbody := bodyLength_append he true body rest
    simp only [List.cons_append, List.nil_append, List.drop_succ_cons, List.drop_zero,
      List.length_cons]
    omega
  · have hbody := bodyLength_append he false cs rest
    omega

/-- The same lexeme, and the same length unless both reach position `n`. -/
structure SameUpTo (n : Nat) (a b : Lexeme × Nat) : Prop where
  lexeme : a.1 = b.1
  length : a.2 = b.2 ∨ n ≤ a.2 ∧ n ≤ b.2

theorem SameUpTo.of_eq {n : Nat} {a b : Lexeme × Nat} (h : a = b) : SameUpTo n a b :=
  ⟨congrArg _ h, Or.inl (congrArg _ h)⟩

theorem scanWord_append (he : isLineEnd e = true) (word cs rest : List Char) :
    SameUpTo (word.length + cs.length) (scanWord word (cs ++ e :: rest)) (scanWord word cs) := by
  cases cs with
  | nil => exact .of_eq (by simp [scanWord, not_isQuote_of_isLineEnd he])
  | cons q cs =>
    unfold scanWord
    dsimp only [List.cons_append]
    split
    · next hstring =>
      have hquote : e ≠ q := by
        rintro rfl
        simp [not_isQuote_of_isLineEnd he] at hstring
      have hlength := stringLength_append hquote cs rest
      exact ⟨rfl, by simp only [List.length_cons]; omega⟩
    · exact .of_eq rfl

/-- What comes on the next line changes no lexeme. It can only make one longer that went to the end
before. -/
theorem scan_append (he : isLineEnd e = true) (c : Char) (cs rest : List Char) :
    SameUpTo (cs.length + 1) (scan c (cs ++ e :: rest)) (scan c cs) := by
  cases kind c with
  | lineEnd h =>
    rw [scan_lineEnd h, scan_lineEnd h]
    cases cs with
    | nil =>
      refine ⟨rfl, Or.inr ⟨?_, ?_⟩⟩
      all_goals
        dsimp only
        split <;> decide
    | cons d cs => exact .of_eq rfl
  | comment h =>
    subst h
    rw [scan_comment, scan_comment, takeWhile_append_stop (by simp [he])]
    exact .of_eq rfl
  | quote h =>
    have hne : e ≠ c := by
      rintro rfl
      simp [not_isQuote_of_isLineEnd he] at h
    rw [scan_quote h, scan_quote h]
    exact ⟨rfl, stringLength_append hne cs rest⟩
  | word h =>
    have hname := not_isNameChar_of_isLineEnd he
    rw [scan_word h, scan_word h, takeWhile_append_stop hname, dropWhile_append_stop hname,
      ← length_takeWhile_add_dropWhile isNameChar c cs]
    exact scanWord_append he _ _ rest
  | number hword h =>
    rw [scan_number hword h, scan_number hword h,
      takeWhile_append_stop (not_isNumberChar_of_isLineEnd he)]
    exact .of_eq rfl
  | op hend hcomment hquote hword hnumber =>
    have hop := opLength_le_length (List.cons_ne_nil c cs)
    have hfree : ∀ op, op ∈ threeCharOps ∨ op ∈ twoCharOps → e ∉ op :=
      fun _ => not_mem_longOps lineEnd_free_longOps he
    rw [scan_op hend hcomment hquote hword hnumber, scan_op hend hcomment hquote hword hnumber,
      ← List.cons_append, opLength_append hfree, List.take_append_of_le_length hop]
    exact .of_eq rfl

end Token

variable {cursor first pos skip : Nat} {e : Char} {s : Stacks} {afterDot : Bool} {ts : List Token}

theorem readUpTo_cons (t : Token) (ts : List Token) :
    readUpTo cursor first afterDot s (t :: ts) =
      if boundary cursor first t ≤ t.start then s
      else if cursor < t.stop then s.read afterDot t.lexeme
      else readUpTo cursor (if t.lexeme = .newline then t.stop else first) (isDot t.lexeme)
        (s.read afterDot t.lexeme) ts := rfl

theorem readUpTo_cons_congr {us : List Token} (t : Token)
    (h : ∀ first afterDot s,
      readUpTo cursor first afterDot s ts = readUpTo cursor first afterDot s us) :
    readUpTo cursor first afterDot s (t :: ts) = readUpTo cursor first afterDot s (t :: us) := by
  rw [readUpTo_cons, readUpTo_cons, h]

theorem readUpTo_cons_last (t : Token)
    (h : ∀ first afterDot s, readUpTo cursor first afterDot s ts = s) :
    readUpTo cursor first afterDot s (t :: ts) =
      if boundary cursor first t ≤ t.start then s else s.read afterDot t.lexeme := by
  rw [readUpTo_cons, h, ite_self]

theorem readUpTo_of_lt (h : Spaced pos ts) (hlt : cursor < pos) :
    readUpTo cursor first afterDot s ts = s := by
  cases h with
  | nil => rfl
  | @cons _ t ts hstart _ _ =>
    have hbehind : boundary cursor first t ≤ t.start := by
      unfold boundary
      split <;> omega
    rw [readUpTo_cons, if_pos hbehind]

/-- A line end at the cursor is read without a trace, if at all, and nothing behind it is read. -/
theorem readUpTo_lineEnd (he : isLineEnd e = true) (h : cursor ≤ pos) (rest : List Char) :
    readUpTo cursor first afterDot s (lexFrom pos 0 (e :: rest)) = s := by
  have hstop : cursor < pos + (scan e rest).2 := by
    have hlength := scan_length_pos e rest
    omega
  have hnewline : (scan e rest).1 = .newline := by rw [scan_lineEnd he]
  rw [lexFrom_cons (not_isBlank_of_isLineEnd he), readUpTo_cons, hnewline, if_pos hstop]
  exact ite_self s

/-- Nothing is read of what comes behind the code if its last token has been skipped. -/
theorem readUpTo_skipped (he : isLineEnd e = true) {cs : List Char} (hskip : cs.length ≤ skip)
    (h : cursor ≤ pos + cs.length) (rest : List Char) :
    readUpTo cursor first afterDot s (lexFrom pos skip (cs ++ e :: rest)) = s := by
  rcases Nat.eq_or_lt_of_le hskip with rfl | hlt
  · rw [lexFrom_skip, List.drop_left]
    exact readUpTo_lineEnd he h rest
  · have hspaced := spaced_lexFrom pos skip (cs ++ e :: rest)
    exact readUpTo_of_lt hspaced (by omega)

/-- A cursor in the code reads the same without the lines behind the code. -/
theorem readUpTo_append (he : isLineEnd e = true) {cs : List Char} (hskip : skip ≤ cs.length)
    (h : cursor ≤ pos + cs.length) (rest : List Char) :
    readUpTo cursor first afterDot s (lexFrom pos skip (cs ++ e :: rest)) =
      readUpTo cursor first afterDot s (lexFrom pos skip cs) := by
  induction cs generalizing pos skip first afterDot s with
  | nil =>
    obtain rfl : skip = 0 := Nat.le_zero.mp hskip
    rw [lexFrom_nil, readUpTo]
    exact readUpTo_lineEnd he h rest
  | cons c cs ih =>
    rw [List.length_cons] at h hskip
    have hcursor : cursor ≤ pos + 1 + cs.length := by omega
    cases skip with
    | succ skip => exact ih (Nat.le_of_succ_le_succ hskip) hcursor
    | zero =>
      rw [List.cons_append]
      cases hblank : isBlank c with
      | true =>
        rw [lexFrom_blank hblank, lexFrom_blank hblank]
        exact ih (Nat.zero_le _) hcursor
      | false =>
        obtain ⟨hlexeme, hlength⟩ := scan_append he c cs rest
        rw [lexFrom_cons hblank, lexFrom_cons hblank, hlexeme]
        by_cases hinside : (scan c (cs ++ e :: rest)).2 = (scan c cs).2 ∧ (scan c cs).2 ≤ cs.length
        · rw [hinside.1]
          exact readUpTo_cons_congr _ fun first afterDot s => ih (by omega) hcursor
        · -- both tokens reach the end of the code, and behind them nothing is read
          have hreach : cs.length + 1 ≤ (scan c (cs ++ e :: rest)).2 ∧
              cs.length + 1 ≤ (scan c cs).2 := by omega
          rw [readUpTo_cons_last _ fun _ _ _ => readUpTo_skipped he (by omega) hcursor rest,
            readUpTo_cons_last _ fun _ _ _ => by
              rw [lexFrom_of_length_le (by omega), readUpTo]]
          rfl

/-- Later lines never change the identifier at a cursor in the code, however much of them becomes
part of a string that the code leaves open. -/
theorem identifierAt_append_line (code later : String) {cursor : Nat} (h : cursor ≤ code.length) :
    identifierAt (code ++ "\n" ++ later) cursor = identifierAt code cursor := by
  have hcode : (code ++ "\n" ++ later).toList = code.toList ++ '\n' :: later.toList := by
    rw [String.toList_append, String.toList_append, List.append_assoc]
    rfl
  have hcursor : cursor ≤ 0 + code.toList.length := by
    rwa [Nat.zero_add, String.length_toList]
  unfold identifierAt lex
  rw [hcode, readUpTo_append (by decide) (Nat.zero_le _) hcursor]

/-- The backslash takes the line feed along, so the string goes on to the quote on the next line. -/
theorem identifierAt_append_line_escaped :
    5 ≤ "f('a\\".length ∧ identifierAt ("f('a\\" ++ "\n" ++ "')b") 5 = "f" := by
  have hle : 5 ≤ "f('a\\".length := by decide
  exact ⟨hle, (identifierAt_append_line "f('a\\" "')b" hle).trans (by decide)⟩

end KernelBridge.Code
