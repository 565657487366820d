import KernelBridge.Proofs.LaterLines

/-! # How far a lexeme depends on what follows

A lexeme is settled by its own characters and the one behind it, where that one starts a comment, a
string or a word. So if a token starts at such a character, the tokens before it do not depend on what
follows the character.
-/
namespace KernelBridge.Code.Token
variable {c e quote : Char} {cs rest other : List Char} {pos skip : Nat}

/-- What a comment, a string or a word starts with. -/
def isOpener (c : Char) : Bool := c == '#' || isQuote c || isNameStart c

section TakeWhile
variable {p : Char → Bool}

/-- Where the characters of a class end before or at a character, what follows it does not matter. -/
theorem takeWhile_append_short (h : ((cs ++ e :: rest).takeWhile p).length ≤ cs.length)
    (other : List Char) : (cs ++ e :: other).takeWhile p = cs.takeWhile p ∧
      (cs ++ e :: other).dropWhile p = cs.dropWhile p ++ e :: other := by
  induction cs with
  | nil =>
    have he : ¬p e = true := by
      intro he
      rw [List.nil_append, List.takeWhile_cons_of_pos he] at h
      exact absurd h (by simp)
    exact ⟨List.takeWhile_cons_of_neg he, List.dropWhile_cons_of_neg he⟩
  | cons c cs ih =>
    rw [List.cons_append] at h ⊢
    by_cases hc : p c = true
    · rw [List.takeWhile_cons_of_pos hc, List.length_cons, List.length_cons] at h
      obtain ⟨htake, hdrop⟩ := ih (Nat.le_of_succ_le_succ h)
      rw [List.takeWhile_cons_of_pos hc, List.takeWhile_cons_of_pos hc,
        List.dropWhile_cons_of_pos hc, List.dropWhile_cons_of_pos hc, htake, hdrop]
      exact ⟨rfl, rfl⟩
    · rw [List.takeWhile_cons_of_neg hc, List.takeWhile_cons_of_neg hc,
        List.dropWhile_cons_of_neg hc, List.dropWhile_cons_of_neg hc]
      exact ⟨rfl, rfl⟩

end TakeWhile

theorem bodyLength_pos (hc : c ≠ '\n') (quote : Char) (triple : Bool) (cs : List Char) :
    0 < bodyLength quote triple (c :: cs) := by
  by_cases hescape : c = '\\'
  · subst hescape
    cases cs with
    | nil => exact Nat.succ_pos _
    | cons d cs => exact Nat.succ_pos _
  · rw [bodyLength_cons hescape, if_neg (fun h => hc h.1)]
    repeat' split
    all_goals exact Nat.succ_pos _

/-- Whether two quotes come next is settled by two characters. -/
theorem isPrefixOf_cons_append (quote d e : Char) (ds rest other : List Char) :
    [quote, quote].isPrefixOf (d :: (ds ++ e :: other)) =
      [quote, quote].isPrefixOf (d :: (ds ++ e :: rest)) := by
  cases ds <;> simp [List.isPrefixOf]

/-- A string that ends before a character ends there whatever follows that character. -/
theorem bodyLength_append_short (he : e ≠ '\n') {triple : Bool}
    (h : bodyLength quote triple (cs ++ e :: rest) ≤ cs.length) (other : List Char) :
    bodyLength quote triple (cs ++ e :: other) = bodyLength quote triple (cs ++ e :: rest) := by
  induction cs using body_induction with
  | nil => exact absurd h (Nat.not_le.mpr (bodyLength_pos he quote triple rest))
  | lone =>
    simp only [List.cons_append, List.nil_append, bodyLength, List.length_singleton] at h
    omega
  | escape c cs ih =>
    simp only [List.cons_append, bodyLength, List.length_cons] at h ⊢
    rw [ih (by omega)]
  | char c cs hc ih =>
    rw [List.cons_append, bodyLength_cons hc, List.length_cons] at h
    rw [List.cons_append, List.cons_append, bodyLength_cons hc, bodyLength_cons hc]
    by_cases hfeed : c = '\n' ∧ triple = false
    · rw [if_pos hfeed, if_pos hfeed]
    · by_cases hclose : c = quote ∧ triple = false
      · rw [if_neg hfeed, if_pos hclose, if_neg hfeed, if_pos hclose]
      · rw [if_neg hfeed, if_neg hclose] at h
        rw [if_neg hfeed, if_neg hclose, if_neg hfeed, if_neg hclose]
        cases cs with
        | nil =>
          -- the string would go on behind its last character
          have hpos := bodyLength_pos he quote triple rest
          rw [List.nil_append, List.length_nil] at h
          split at h <;> omega
        | cons d ds =>
          rw [List.cons_append] at h ih
          rw [List.cons_append, List.cons_append, isPrefixOf_cons_append quote d e ds rest other]
          split at h
          · next hquotes => rw [if_pos hquotes, if_pos hquotes]
          · next hquotes =>
            rw [if_neg hquotes, if_neg hquotes]
            exact congrArg (· + 1) (ih (by omega))

theorem stringLength_append_short (he : e ≠ '\n')
    (h : stringLength quote (cs ++ e :: rest) ≤ cs.length + 1) (other : List Char) :
    stringLength quote (cs ++ e :: other) = stringLength quote (cs ++ e :: rest) := by
  unfold stringLength at h ⊢
  cases cs with
  | nil =>
    have hpos := bodyLength_pos he quote false rest
    rw [List.nil_append, List.length_nil] at h
    split at h <;> omega
  | cons d ds =>
    rw [List.cons_append] at h
    rw [List.cons_append, List.cons_append, isPrefixOf_cons_append quote d e ds rest other]
    split at h
    · next hquotes =>
      rw [if_pos hquotes, if_pos hquotes]
      cases ds with
      | nil =>
        simp only [List.length_cons, List.length_nil] at h
        omega
      | cons f fs =>
        simp only [List.cons_append, List.drop_succ_cons, List.drop_zero, List.length_cons] at h ⊢
        have hbody : bodyLength quote true (fs ++ e :: rest) ≤ fs.length := by omega
        rw [bodyLength_append_short he hbody other]
    · next hquotes =>
      have hbody := Nat.le_of_succ_le_succ h
      rw [← List.cons_append] at hbody
      rw [if_neg hquotes, if_neg hquotes]
      exact congrArg (· + 1) (bodyLength_append_short he hbody other)

theorem length_le_scanWord (word rest : List Char) : word.length ≤ (scanWord word rest).2 := by
  unfold scanWord
  split
  · split
    · exact Nat.le_add_right _ _
    · exact Nat.le_refl _
  · exact Nat.le_refl _

theorem scanWord_append_short (he : e ≠ '\n') {word : List Char}
    (h : (scanWord word (cs ++ e :: rest)).2 ≤ word.length + cs.length) (other : List Char) :
    scanWord word (cs ++ e :: other) = scanWord word (cs ++ e :: rest) := by
  cases cs with
  | nil =>
    have hpos := stringLength_pos e rest
    rw [List.nil_append, List.length_nil] at h
    unfold scanWord at h ⊢
    dsimp only [List.nil_append] at h ⊢
    split
    · next hstring =>
      rw [if_pos hstring] at h
      dsimp only at h
      omega
    · rfl
  | cons q cs =>
    rw [List.cons_append, List.length_cons] at h
    unfold scanWord at h ⊢
    dsimp only [List.cons_append] at h ⊢
    split
    · next hstring =>
      rw [if_pos hstring] at h
      dsimp only at h
      have hstring : stringLength q (cs ++ e :: rest) ≤ cs.length + 1 := by omega
      rw [stringLength_append_short he hstring other]
    · rfl

theorem opener_free_longOps : ∀ op ∈ threeCharOps ++ twoCharOps, op.any isOpener = false := by
  decide

/-- A lexeme that ends before the start of a comment, a string or a word does not depend on what
follows that start. -/
theorem scan_append_short (he : isOpener e = true)
    (h : (scan c (cs ++ e :: rest)).2 ≤ cs.length + 1) (other : List Char) :
    scan c (cs ++ e :: other) = scan c (cs ++ e :: rest) := by
  have hfeed : e ≠ '\n' := ne_of_class he (by decide)
  cases kind c with
  | lineEnd hc =>
    rw [scan_lineEnd hc, scan_lineEnd hc]
    cases cs <;> rfl
  | comment hc =>
    subst hc
    rw [scan_comment] at h
    have hshort := takeWhile_append_short (Nat.le_of_succ_le_succ h)
    rw [scan_comment, scan_comment, (hshort other).1, (hshort rest).1]
  | quote hc =>
    rw [scan_quote hc] at h
    rw [scan_quote hc, scan_quote hc, stringLength_append_short hfeed h other]
  | word hc =>
    rw [scan_word hc] at h
    have hword := Nat.le_trans (length_le_scanWord _ _) h
    obtain ⟨hrest, hrest'⟩ := takeWhile_append_short (Nat.le_of_succ_le_succ hword) rest
    obtain ⟨hother, hother'⟩ := takeWhile_append_short (Nat.le_of_succ_le_succ hword) other
    rw [hrest, hrest', ← length_takeWhile_add_dropWhile isNameChar c cs] at h
    rw [scan_word hc, scan_word hc, hrest, hrest', hother, hother']
    exact scanWord_append_short hfeed h other
  | number hword hc =>
    rw [scan_number hword hc] at h
    have hshort := takeWhile_append_short (Nat.le_of_succ_le_succ h)
    rw [scan_number hword hc, scan_number hword hc, (hshort other).1, (hshort rest).1]
  | op hend hcomment hquote hword hnumber =>
    have hop := opLength_le_length (List.cons_ne_nil c cs)
    have hfree : ∀ op, op ∈ threeCharOps ∨ op ∈ twoCharOps → e ∉ op :=
      fun _ => not_mem_longOps opener_free_longOps he
    rw [scan_op hend hcomment hquote hword hnumber, scan_op hend hcomment hquote hword hnumber,
      ← List.cons_append, ← List.cons_append, opLength_append hfree, opLength_append hfree,
      List.take_append_of_le_length hop, List.take_append_of_le_length hop]

/-- If a token starts where a comment, a string or a word does, the tokens before it are the same
whatever comes behind that start. -/
theorem lexFrom_append_short (he : isOpener e = true) {before : List Char} {t : Token}
    (ht : t ∈ lexFrom pos skip (before ++ e :: rest)) (hstart : t.start = pos + before.length)
    (h : lexFrom (pos + before.length) 0 (e :: other) =
      lexFrom (pos + before.length) 0 (e :: rest)) :
    lexFrom pos skip (before ++ e :: other) = lexFrom pos skip (before ++ e :: rest) := by
  induction before generalizing pos skip with
  | nil =>
    have hspaced := (spaced_lexFrom pos skip (e :: rest)).of_mem ht
    rw [List.length_nil] at hstart
    obtain rfl : skip = 0 := by omega
    exact h
  | cons b before ih =>
    have hpos : pos + (b :: before).length = pos + 1 + before.length := by
      rw [List.length_cons, Nat.add_assoc, Nat.add_comm 1]
    rw [hpos] at hstart h
    rw [List.cons_append] at ht ⊢
    cases skip with
    | succ skip => exact ih ht hstart h
    | zero =>
      rw [List.cons_append]
      cases hblank : isBlank b with
      | true =>
        rw [lexFrom_blank hblank] at ht
        rw [lexFrom_blank hblank, lexFrom_blank hblank, ih ht hstart h]
      | false =>
        rw [lexFrom_cons hblank] at ht
        rcases List.mem_cons.mp ht with rfl | ht
        · dsimp only at hstart
          omega
        · -- a token behind this one starts at the opener, so this one ends before it
          have hspaced := (spaced_lexFrom (pos + 1) _ _).of_mem ht
          have hshort : (scan b (before ++ e :: rest)).2 ≤ before.length + 1 := by omega
          rw [lexFrom_cons hblank, lexFrom_cons hblank, scan_append_short he hshort other,
            ih ht hstart h]

/-- A token that starts at a character has been scanned there. -/
theorem scan_of_mem {before : List Char} {t : Token}
    (ht : t ∈ lexFrom pos skip (before ++ c :: rest)) (hstart : t.start = pos + before.length) :
    isBlank c = false ∧
      t = ⟨(scan c rest).1, pos + before.length, pos + before.length + (scan c rest).2⟩ := by
  obtain ⟨front, d, behind, hcode, hblank, rfl⟩ := exists_scan_of_mem ht
  have hfront : before.length = front.length := (Nat.add_left_cancel hstart).symm
  obtain ⟨rfl, hbehind⟩ := List.append_inj hcode hfront
  obtain ⟨rfl, rfl⟩ := List.cons_eq_cons.mp hbehind
  exact ⟨hblank, rfl⟩

end KernelBridge.Code.Token
