import KernelBridge.Code.Machine
import KernelBridge.Proofs.Scanning

/-! # Scanning with words

In a code that leaves three positions free behind its end no sum that a scan forms leaves the words:
a scan looks at most two characters ahead, and a string steps at most one character over the end. So
each step with words is exact and gives what the same step gives on lists alone.
-/
namespace KernelBridge.Code.Machine
open Token Word
open Word.Computed (add add_eq_pure)
variable {size pos stop : Nat} {c quote : Char} {cs rest : List Char}

theorem peek_eq {ahead : Nat} (h : pos + ahead < 0x10000000000000000) (rest : List Char) :
    peek pos ahead rest = pure rest[ahead]? := by
  rw [peek, add_eq_pure h, pure_bind]

theorem isPrefixOf_quotes (quote : Char) (cs : List Char) :
    [quote, quote].isPrefixOf cs = decide (cs[0]? = some quote ∧ cs[1]? = some quote) := by
  match cs with
  | [] => rfl
  | [d] => simp [List.isPrefixOf]
  | d :: e :: cs =>
    rw [Bool.eq_iff_iff]
    simp only [List.isPrefixOf, Bool.and_true, Bool.and_eq_true, beq_iff_eq, decide_eq_true_eq,
      List.getElem?_cons_zero, List.getElem?_cons_succ, Option.some.injEq, @eq_comm _ quote]

theorem skipWhile_eq (h : pos + cs.length < 0x10000000000000000) (p : Char → Bool) :
    skipWhile p pos cs = pure (pos + (cs.takeWhile p).length, cs.dropWhile p) := by
  induction cs generalizing pos with
  | nil =>
    rw [skipWhile, peek_eq (by simpa using h), pure_bind]
    rfl
  | cons c cs ih =>
    rw [List.length_cons] at h
    rw [skipWhile, peek_eq (by omega), pure_bind]
    by_cases hc : p c = true
    · rw [if_pos hc, add_eq_pure (by omega), pure_bind, ih (by omega),
        List.takeWhile_cons_of_pos hc, List.dropWhile_cons_of_pos hc, List.length_cons,
        Nat.add_assoc, Nat.add_comm 1]
    · rw [if_neg hc, List.takeWhile_cons_of_neg hc, List.dropWhile_cons_of_neg hc]
      rfl

theorem twoQuotesAhead_eq (h : pos + 2 < 0x10000000000000000) (quote c : Char) (cs : List Char) :
    twoQuotesAhead quote pos (c :: cs) = pure ([quote, quote].isPrefixOf cs) := by
  rw [twoQuotesAhead, peek_eq (by omega), peek_eq h, pure_bind, pure_bind, isPrefixOf_quotes,
    List.getElem?_cons_succ, List.getElem?_cons_succ]
  by_cases hd : cs[0]? = some quote <;> simp [hd]

theorem closes_of_ne (h : c ≠ quote) (triple : Bool) (pos : Nat) (cs : List Char) :
    closes quote triple pos c cs = pure false := if_neg h

theorem closes_single (quote : Char) (pos : Nat) (cs : List Char) :
    closes quote false pos quote cs = pure true := if_pos rfl

theorem closes_triple (h : pos + 2 < 0x10000000000000000) (quote : Char) (cs : List Char) :
    closes quote true pos quote cs = pure ([quote, quote].isPrefixOf cs) := by
  rw [closes, if_pos rfl, if_pos rfl, twoQuotesAhead_eq h]

theorem skipBody_char (hsize : size + 3 < 0x10000000000000000) (h : pos < size) (hc : c ≠ '\\')
    (quote : Char) (triple : Bool) (cs : List Char) :
    skipBody size quote triple pos (c :: cs) =
      if c = '\n' ∧ triple = false then pure pos
      else if c = quote ∧ triple = false then pure (pos + 1)
      else if c = quote ∧ [quote, quote].isPrefixOf cs then pure (pos + 3)
      else skipBody size quote triple (pos + 1) cs := by
  have hnext : add pos 1 = pure (pos + 1) := add_eq_pure (by omega)
  rw [skipBody.eq_4 _ _ _ _ _ _ (fun h _ => hc h) (fun _ _ h _ => hc h), peek_eq (by omega),
    pure_bind]
  by_cases hfeed : c = '\n' ∧ triple = false
  · rw [if_pos hfeed, if_pos hfeed]
  · rw [if_neg hfeed, if_neg hfeed]
    by_cases hq : c = quote
    · subst hq
      cases triple with
      | false =>
        rw [closes_single, pure_bind, if_pos rfl]
        simpa using hnext
      | true =>
        have hquotes : add pos 3 = pure (pos + 3) := add_eq_pure (by omega)
        rw [closes_triple (by omega), pure_bind]
        simp [hnext, hquotes]
    · rw [closes_of_ne hq, pure_bind]
      simp [hnext, hq]

theorem skipBody_eq (hsize : size + 3 < 0x10000000000000000) (h : pos + cs.length = size)
    (quote : Char) (triple : Bool) :
    skipBody size quote triple pos cs = pure (pos + bodyLength quote triple cs) := by
  induction cs using body_induction generalizing pos with
  | nil =>
    rw [List.length_nil, Nat.add_zero] at h
    rw [skipBody, peek_eq (by omega), pure_bind, h, Nat.min_self]
    rfl
  | lone =>
    rw [List.length_singleton] at h
    have hmin : min (pos + 2) size = pos + 1 := by omega
    rw [skipBody, peek_eq (by omega), pure_bind, add_eq_pure (by omega), pure_bind,
      peek_eq (by omega), pure_bind, hmin]
    rfl
  | escape c cs ih =>
    rw [List.length_cons, List.length_cons] at h
    rw [skipBody, peek_eq (by omega), pure_bind, add_eq_pure (by omega), pure_bind,
      ih (by omega), bodyLength, Nat.add_right_comm, Nat.add_assoc]
  | char c cs hc ih =>
    rw [List.length_cons] at h
    rw [skipBody_char hsize (by omega) hc, bodyLength_cons hc, ih (by omega)]
    repeat' split
    · rfl
    · rfl
    · rfl
    · rw [Nat.add_assoc, Nat.add_comm 1]

theorem skipString_eq (hsize : size + 3 < 0x10000000000000000) (h : pos + (cs.length + 1) = size)
    (quote : Char) : skipString size pos quote cs = pure (pos + stringLength quote cs) := by
  rw [skipString, peek_eq (by omega), pure_bind, twoQuotesAhead_eq (by omega), pure_bind,
    stringLength]
  split
  · next htriple =>
    have hquotes := (List.isPrefixOf_iff_prefix.mp htriple).length_le
    have hdrop : pos + 3 + (cs.drop 2).length = size := by
      simp only [List.length_cons, List.length_nil] at hquotes
      rw [List.length_drop]
      omega
    rw [add_eq_pure (by omega), pure_bind, skipBody_eq hsize hdrop, Nat.add_assoc, Nat.add_comm 3]
  · rw [add_eq_pure (by omega), pure_bind, skipBody_eq hsize (by omega), Nat.add_assoc,
      Nat.add_comm 1]

theorem ahead_eq (hsize : size + 3 < 0x10000000000000000) (h : pos + rest.length = size)
    {count : Nat} (hcount : count ≤ 3) : ahead size pos count rest = pure (rest.take count) := by
  have htake : rest.take (min (pos + count) size - pos) = rest.take count :=
    List.take_eq_take_iff.mpr (by omega)
  rw [ahead, add_eq_pure (by omega), pure_bind, htake]

theorem opLength_eq (hsize : size + 3 < 0x10000000000000000) (h : pos + rest.length = size) :
    opLength size pos rest = pure (Token.opLength rest) := by
  rw [opLength, ahead_eq hsize h (by decide), ahead_eq hsize h (by decide), pure_bind, pure_bind,
    Token.opLength]
  repeat' split
  · rfl
  · rfl
  · rfl

theorem lineEndLength_eq (h : pos + 1 < 0x10000000000000000) (c : Char) (cs : List Char) :
    lineEndLength pos c cs = pure (if c = '\r' ∧ cs.head? = some '\n' then 2 else 1) := by
  rw [lineEndLength, peek_eq h, pure_bind, List.getElem?_cons_succ, List.head?_eq_getElem?]
  by_cases hc : c = '\r'
  · rw [if_pos hc]
    simp only [hc, true_and]
    split <;> rfl
  · rw [if_neg hc, if_neg (fun h => hc h.1)]

theorem scanWord_eq (hsize : size + 3 < 0x10000000000000000) (h : stop + rest.length = size)
    {word : List Char} (hstop : pos + word.length = stop) :
    scanWord size stop word rest =
      pure ((Token.scanWord word rest).1, pos + (Token.scanWord word rest).2) := by
  subst hstop
  rw [scanWord, peek_eq (by omega), pure_bind]
  cases rest with
  | nil => split <;> rfl
  | cons q cs =>
    rw [List.length_cons] at h
    simp only [List.getElem?_cons_zero, List.tail_cons, Token.scanWord, Bool.and_eq_true]
    cases stringMarks.contains (word.map Char.toLower) with
    | false => simp
    | true =>
      cases isQuote q with
      | false => simp
      | true =>
        simp only [and_self, if_true]
        rw [skipString_eq hsize (by omega), pure_bind, Nat.add_assoc]

/-- Scanning with words scans the same lexeme and ends where that one does. -/
theorem scan_eq (hsize : size + 3 < 0x10000000000000000) (h : pos + (cs.length + 1) = size)
    (c : Char) :
    scan size pos c cs = pure ((Token.scan c cs).1, pos + (Token.scan c cs).2) := by
  have hlength : pos + (c :: cs).length = size := h
  have hskip : ∀ p : Char → Bool, p c = true →
      skipWhile p pos (c :: cs) = pure (pos + ((cs.takeWhile p).length + 1), cs.dropWhile p) := by
    intro p hp
    rw [skipWhile_eq (by omega), List.takeWhile_cons_of_pos hp, List.dropWhile_cons_of_pos hp,
      List.length_cons]
  unfold scan
  cases kind c with
  | lineEnd hc =>
    rw [if_pos hc, lineEndLength_eq (by omega), pure_bind, add_eq_pure, pure_bind, scan_lineEnd hc]
    split <;> omega
  | comment hc =>
    subst hc
    rw [if_neg (by decide), if_pos rfl, hskip _ (by decide), pure_bind, scan_comment]
  | quote hc =>
    have hend : isLineEnd c = false := by
      rcases eq_of_isQuote hc with rfl | rfl <;> decide
    have hcomment : c ≠ '#' := by
      rcases eq_of_isQuote hc with rfl | rfl <;> decide
    rw [if_neg (by simp [hend]), if_neg hcomment, if_pos hc, skipString_eq hsize h, pure_bind,
      scan_quote hc]
  | word hc =>
    obtain ⟨hend, hcomment, hquote⟩ := of_isNameStart hc
    have hword : (c :: cs).take (pos + ((cs.takeWhile isNameChar).length + 1) - pos) =
        c :: cs.takeWhile isNameChar := by
      rw [Nat.add_sub_cancel_left, List.take_succ_cons]
      exact congrArg (c :: ·) (List.prefix_iff_eq_take.mp (List.takeWhile_prefix _)).symm
    have hparts := length_takeWhile_add_dropWhile isNameChar c cs
    rw [List.length_cons] at hparts
    rw [if_neg (by simp [hend]), if_neg hcomment, if_neg (by simp [hquote]), if_pos hc,
      hskip _ (isNameChar_of_isNameStart hc), pure_bind, scan_word hc]
    dsimp only
    rw [hword]
    exact scanWord_eq hsize (by omega) rfl
  | number hword hc =>
    obtain ⟨hend, hcomment, hquote⟩ := of_isDigit hc
    rw [if_neg (by simp [hend]), if_neg hcomment, if_neg (by simp [hquote]),
      if_neg (by simp [hword]), if_pos hc, scan_number hword hc,
      hskip _ (by simp [isNumberChar, isNameChar_of_isDigit hc]), pure_bind]
  | op hend hcomment hquote hword hnumber =>
    have hop := opLength_le_length (List.cons_ne_nil c cs)
    rw [if_neg (by simp [hend]), if_neg hcomment, if_neg (by simp [hquote]),
      if_neg (by simp [hword]), if_neg (by simp [hnumber]), opLength_eq hsize hlength, pure_bind,
      add_eq_pure (by omega), pure_bind, Nat.add_sub_cancel_left,
      scan_op hend hcomment hquote hword hnumber]

end KernelBridge.Code.Machine
