import KernelBridge.Proofs.Spans

/-! # What scanning looks at

The first character of a lexeme decides of which kind it is, and each kind has one equation. Strings
are scanned a character at a time, and a backslash takes the next character along: `body_induction`.
-/
namespace KernelBridge.Code.Token
variable {c e : Char} {cs : List Char} {pos skip : Nat} {t : Token}

theorem lexFrom_of_length_le (h : cs.length ≤ skip) (pos : Nat) : lexFrom pos skip cs = [] := by
  rw [lexFrom_skip, List.drop_eq_nil_of_le h, lexFrom_nil]

theorem lexFrom_cons (h : isBlank c = false) (pos : Nat) (cs : List Char) :
    lexFrom pos 0 (c :: cs) = ⟨(scan c cs).1, pos, pos + (scan c cs).2⟩ ::
      lexFrom (pos + 1) ((scan c cs).2 - 1) cs := by
  simp [lexFrom, h]

/-- Behind a lexeme the code goes on where its characters end. -/
theorem lexFrom_cons_drop (h : isBlank c = false) (pos : Nat) (cs : List Char) :
    lexFrom pos 0 (c :: cs) = ⟨(scan c cs).1, pos, pos + (scan c cs).2⟩ ::
      lexFrom (pos + (scan c cs).2) 0 (cs.drop ((scan c cs).2 - 1)) := by
  rw [lexFrom_cons h, lexFrom_skip, Nat.add_assoc, Nat.add_sub_cancel' (scan_length_pos c cs)]

theorem lexFrom_cons_append {lexeme : Lexeme} {rest : List Char} (hblank : isBlank c = false)
    (hscan : scan c (cs ++ rest) = (lexeme, cs.length + 1)) (pos : Nat) :
    lexFrom pos 0 (c :: (cs ++ rest)) = ⟨lexeme, pos, pos + (cs.length + 1)⟩ ::
      lexFrom (pos + (cs.length + 1)) 0 rest := by
  rw [lexFrom_cons_drop hblank, hscan]
  dsimp only
  rw [Nat.add_sub_cancel, List.drop_left]

/-- Every token has been scanned where it starts. -/
theorem exists_scan_of_mem (h : t ∈ lexFrom pos skip cs) :
    ∃ before c rest, cs = before ++ c :: rest ∧ isBlank c = false ∧
      t = ⟨(scan c rest).1, pos + before.length, pos + before.length + (scan c rest).2⟩ := by
  induction cs generalizing pos skip with
  | nil => simp at h
  | cons c cs ih =>
    -- a token behind the first character is one of the rest, with a position more before it
    have hbehind : ∀ {skip}, t ∈ lexFrom (pos + 1) skip cs →
        ∃ before d rest, c :: cs = before ++ d :: rest ∧ isBlank d = false ∧
          t = ⟨(scan d rest).1, pos + before.length, pos + before.length + (scan d rest).2⟩ := by
      intro skip h
      obtain ⟨before, d, rest, hcs, hblank, ht⟩ := ih h
      refine ⟨c :: before, d, rest, by rw [hcs, List.cons_append], hblank, ?_⟩
      rw [ht, List.length_cons, Nat.add_assoc, Nat.add_comm 1]
    cases skip with
    | succ skip => exact hbehind h
    | zero =>
      cases hblank : isBlank c with
      | true => exact hbehind (lexFrom_blank hblank pos cs ▸ h)
      | false =>
        rw [lexFrom_cons hblank] at h
        rcases List.mem_cons.mp h with rfl | h
        · exact ⟨[], c, cs, rfl, hblank, rfl⟩
        · exact hbehind h

theorem eq_of_isLineEnd (he : isLineEnd e = true) : e = '\n' ∨ e = '\r' := by
  simpa [isLineEnd] using he

theorem not_isBlank_of_isLineEnd (he : isLineEnd e = true) : isBlank e = false := by
  rcases eq_of_isLineEnd he with rfl | rfl <;> decide

theorem not_isQuote_of_isLineEnd (he : isLineEnd e = true) : isQuote e = false := by
  rcases eq_of_isLineEnd he with rfl | rfl <;> decide

theorem not_isNameChar_of_isLineEnd (he : isLineEnd e = true) : isNameChar e = false := by
  rcases eq_of_isLineEnd he with rfl | rfl <;> decide

theorem not_isNumberChar_of_isLineEnd (he : isLineEnd e = true) : isNumberChar e = false := by
  rcases eq_of_isLineEnd he with rfl | rfl <;> decide

/-- A class that no character of a long operator belongs to has none of its characters there. -/
theorem not_mem_longOps {p : Char → Bool} (hfree : ∀ op ∈ threeCharOps ++ twoCharOps, op.any p = false)
    (he : p e = true) {op : List Char} (hop : op ∈ threeCharOps ∨ op ∈ twoCharOps) : e ∉ op := by
  intro hmem
  have hany := List.any_eq_false.mp (hfree op (List.mem_append.mpr hop)) e hmem
  exact hany he

theorem lineEnd_free_longOps : ∀ op ∈ threeCharOps ++ twoCharOps, op.any isLineEnd = false := by
  decide

theorem length_of_mem_threeCharOps {op : List Char} (h : op ∈ threeCharOps) : op.length = 3 := by
  have hall : ∀ op ∈ threeCharOps, op.length = 3 := by decide
  exact hall op h

theorem length_of_mem_twoCharOps {op : List Char} (h : op ∈ twoCharOps) : op.length = 2 := by
  have hall : ∀ op ∈ twoCharOps, op.length = 2 := by decide
  exact hall op h

theorem opLength_le_length (hne : cs ≠ []) : opLength cs ≤ cs.length := by
  unfold opLength
  split
  · next h =>
    have hlength := length_of_mem_threeCharOps (List.contains_iff_mem.mp h)
    rw [List.length_take] at hlength
    omega
  · split
    · next h =>
      have hlength := length_of_mem_twoCharOps (List.contains_iff_mem.mp h)
      rw [List.length_take] at hlength
      omega
    · exact List.length_pos_iff.mpr hne

/-- Induction along a string: a backslash takes the character behind it along. -/
@[elab_as_elim]
theorem body_induction {motive : List Char → Prop} (nil : motive []) (lone : motive ['\\'])
    (escape : ∀ c cs, motive cs → motive ('\\' :: c :: cs))
    (char : ∀ c cs, c ≠ '\\' → motive cs → motive (c :: cs)) : ∀ cs, motive cs
  | [] => nil
  | [c] => if hc : c = '\\' then hc ▸ lone else char c [] hc nil
  | c :: d :: cs =>
    if hc : c = '\\' then hc ▸ escape d cs (body_induction nil lone escape char cs)
    else char c (d :: cs) hc (body_induction nil lone escape char (d :: cs))

theorem bodyLength_cons (hc : c ≠ '\\') (quote : Char) (triple : Bool) (cs : List Char) :
    bodyLength quote triple (c :: cs) =
      if c = '\n' ∧ triple = false then 0
      else if c = quote ∧ triple = false then 1
      else if c = quote ∧ [quote, quote].isPrefixOf cs then 3
      else bodyLength quote triple cs + 1 := by
  rw [bodyLength.eq_4]
  · exact fun h _ => hc h
  · exact fun _ _ h _ => hc h

/-- The kinds of lexemes by their first character. -/
inductive Kind (c : Char) : Prop
  | lineEnd (h : isLineEnd c = true)
  | comment (h : c = '#')
  | quote (h : isQuote c = true)
  | word (h : isNameStart c = true)
  | number (hword : isNameStart c = false) (h : c.isDigit = true)
  | op (hend : isLineEnd c = false) (hcomment : c ≠ '#') (hquote : isQuote c = false)
      (hword : isNameStart c = false) (hnumber : c.isDigit = false)

theorem kind (c : Char) : Kind c := by
  cases hend : isLineEnd c with
  | true => exact .lineEnd hend
  | false =>
    by_cases hcomment : c = '#'
    · exact .comment hcomment
    · cases hquote : isQuote c with
      | true => exact .quote hquote
      | false =>
        cases hword : isNameStart c with
        | true => exact .word hword
        | false =>
          cases hnumber : c.isDigit with
          | true => exact .number hword hnumber
          | false => exact .op hend hcomment hquote hword hnumber

theorem ne_of_isLineEnd_eq_false (h : isLineEnd c = false) : c ≠ '\n' ∧ c ≠ '\r' := by
  simpa [isLineEnd] using h

theorem eq_of_isQuote (h : isQuote c = true) : c = '"' ∨ c = '\'' := by
  simpa [isQuote] using h

theorem ne_of_class {p : Char → Bool} (hc : p c = true) (he : p e = false) : c ≠ e := by
  rintro rfl
  rw [hc] at he
  cases he

/-- A word starts with none of the characters that are looked for first. -/
theorem of_isNameStart (h : isNameStart c = true) :
    isLineEnd c = false ∧ c ≠ '#' ∧ isQuote c = false := by
  have hne : ∀ d, isNameStart d = false → c ≠ d := fun _ => ne_of_class h
  simp [isLineEnd, isQuote, hne '\n' (by decide), hne '\r' (by decide), hne '#' (by decide),
    hne '"' (by decide), hne '\'' (by decide)]

theorem not_isBlank_of_isNameStart (h : isNameStart c = true) : isBlank c = false := by
  have hne : ∀ d, isNameStart d = false → c ≠ d := fun _ => ne_of_class h
  simp [isBlank, hne ' ' (by decide), hne '\t' (by decide), hne '\x0c' (by decide)]

theorem of_isDigit (h : c.isDigit = true) : isLineEnd c = false ∧ c ≠ '#' ∧ isQuote c = false := by
  have hne : ∀ d : Char, d.isDigit = false → c ≠ d := fun _ => ne_of_class h
  simp [isLineEnd, isQuote, hne '\n' (by decide), hne '\r' (by decide), hne '#' (by decide),
    hne '"' (by decide), hne '\'' (by decide)]

theorem isNameChar_of_isDigit (h : c.isDigit = true) : isNameChar c = true := by
  have hrange : 0x30 ≤ c.toNat ∧ c.toNat ≤ 0x39 := by
    simpa [Char.isDigit, UInt32.le_iff_toNat_le] using h
  have hnumeric : Unicode.isNumeric c = true := by
    change (decide (0x30 ≤ c.toNat) && (decide (c.toNat ≤ 0x39) || _)) = true
    simp [hrange]
  simp [isNameChar, Unicode.isAlphanumeric, hnumeric]

theorem scan_lineEnd (h : isLineEnd c = true) (cs : List Char) :
    scan c cs = (.newline, if c = '\r' ∧ cs.head? = some '\n' then 2 else 1) := by
  rw [scan, if_pos h]
  split <;> rfl

theorem scan_comment (cs : List Char) :
    scan '#' cs = (.other, (cs.takeWhile (!isLineEnd ·)).length + 1) := rfl

theorem scan_quote (h : isQuote c = true) (cs : List Char) :
    scan c cs = (.other, stringLength c cs) := by
  rcases eq_of_isQuote h with rfl | rfl <;> rfl

theorem scan_word (h : isNameStart c = true) (cs : List Char) :
    scan c cs = scanWord (c :: cs.takeWhile isNameChar) (cs.dropWhile isNameChar) := by
  obtain ⟨hend, hcomment, hquote⟩ := of_isNameStart h
  simp [scan, hend, hcomment, hquote, h, (ne_of_isLineEnd_eq_false hend).2]

theorem scan_number (hword : isNameStart c = false) (h : c.isDigit = true) (cs : List Char) :
    scan c cs = (.other, (cs.takeWhile isNumberChar).length + 1) := by
  obtain ⟨hend, hcomment, hquote⟩ := of_isDigit h
  simp [scan, hend, hcomment, hquote, hword, h, (ne_of_isLineEnd_eq_false hend).2]

theorem scan_op (hend : isLineEnd c = false) (hcomment : c ≠ '#') (hquote : isQuote c = false)
    (hword : isNameStart c = false) (hnumber : c.isDigit = false) (cs : List Char) :
    scan c cs = (.op ((c :: cs).take (opLength (c :: cs))), opLength (c :: cs)) := by
  simp [scan, hend, hcomment, hquote, hword, hnumber, (ne_of_isLineEnd_eq_false hend).2]

theorem bodyLength_le (quote : Char) (triple : Bool) (cs : List Char) :
    bodyLength quote triple cs ≤ cs.length := by
  induction cs using body_induction with
  | nil => exact Nat.le_refl _
  | lone => exact Nat.le_refl _
  | escape c cs ih =>
    rw [bodyLength, List.length_cons, List.length_cons]
    omega
  | char c cs hc ih =>
    rw [bodyLength_cons hc, List.length_cons]
    split
    · exact Nat.zero_le _
    · split
      · exact Nat.succ_pos _
      · split
        · next h =>
          have hquotes := (List.isPrefixOf_iff_prefix.mp h.2).length_le
          simp only [List.length_cons, List.length_nil] at hquotes
          omega
        · exact Nat.succ_le_succ ih

theorem stringLength_le (quote : Char) (cs : List Char) :
    stringLength quote cs ≤ cs.length + 1 := by
  unfold stringLength
  split
  · next h =>
    have hquotes := (List.isPrefixOf_iff_prefix.mp h).length_le
    have hbody := bodyLength_le quote true (cs.drop 2)
    simp only [List.length_cons, List.length_nil, List.length_drop] at hquotes hbody
    omega
  · exact Nat.succ_le_succ (bodyLength_le quote false cs)

theorem scanWord_length_le (word rest : List Char) :
    (scanWord word rest).2 ≤ word.length + rest.length := by
  unfold scanWord
  split
  · next q cs =>
    have hstring := stringLength_le q cs
    split
    · exact Nat.add_le_add_left hstring _
    · exact Nat.le_add_right _ _
  · exact Nat.le_add_right _ _

theorem length_takeWhile_le (p : Char → Bool) (cs : List Char) :
    (cs.takeWhile p).length ≤ cs.length := (List.takeWhile_prefix p).length_le

/-- A character with those of a class behind it, and what is left. -/
theorem length_takeWhile_add_dropWhile (p : Char → Bool) (c : Char) (cs : List Char) :
    (c :: cs.takeWhile p).length + (cs.dropWhile p).length = cs.length + 1 := by
  rw [List.length_cons, Nat.add_right_comm, ← List.length_append, List.takeWhile_append_dropWhile]

section TakeWhile
variable {p : Char → Bool} {rest : List Char}

/-- The characters of a class in front of a text end where one of another class stands. -/
theorem takeWhile_append (hcs : ∀ x ∈ cs, p x = true)
    (hrest : ∀ x, rest.head? = some x → p x = false) : (cs ++ rest).takeWhile p = cs := by
  rw [List.takeWhile_append_of_pos hcs]
  cases rest with
  | nil => exact List.append_nil _
  | cons x rest => rw [List.takeWhile_cons_of_neg (by simp [hrest x rfl]), List.append_nil]

theorem dropWhile_append (hcs : ∀ x ∈ cs, p x = true)
    (hrest : ∀ x, rest.head? = some x → p x = false) : (cs ++ rest).dropWhile p = rest := by
  rw [List.dropWhile_append_of_pos hcs]
  cases rest with
  | nil => rfl
  | cons x rest => exact List.dropWhile_cons_of_neg (by simp [hrest x rfl])

end TakeWhile

/-- No lexeme reaches past the end of the code. -/
theorem scan_length_le (c : Char) (cs : List Char) : (scan c cs).2 ≤ cs.length + 1 := by
  cases kind c with
  | lineEnd h =>
    rw [scan_lineEnd h]
    cases cs with
    | nil => simp
    | cons d cs =>
      dsimp only [List.length_cons]
      split <;> omega
  | comment h =>
    subst h
    exact Nat.succ_le_succ (length_takeWhile_le _ cs)
  | quote h =>
    rw [scan_quote h]
    exact stringLength_le c cs
  | word h =>
    have hword := scanWord_length_le (c :: cs.takeWhile isNameChar) (cs.dropWhile isNameChar)
    rw [length_takeWhile_add_dropWhile] at hword
    rw [scan_word h]
    exact hword
  | number hword h =>
    rw [scan_number hword h]
    exact Nat.succ_le_succ (length_takeWhile_le _ cs)
  | op hend hcomment hquote hword hnumber =>
    rw [scan_op hend hcomment hquote hword hnumber]
    exact opLength_le_length (List.cons_ne_nil c cs)

theorem stop_le_of_mem_lexFrom (h : t ∈ lexFrom pos skip cs) : t.stop ≤ pos + cs.length := by
  obtain ⟨before, c, rest, rfl, _, rfl⟩ := exists_scan_of_mem h
  have hlength := scan_length_le c rest
  rw [List.length_append, List.length_cons]
  dsimp only
  omega

/-- The text of a name: a character a name can start with, and all that can follow it. -/
theorem eq_of_scan_name {text : List Char} (h : (scan c cs).1 = .name text) :
    isNameStart c = true ∧ text = c :: cs.takeWhile isNameChar := by
  cases kind c with
  | lineEnd hc => simp [scan_lineEnd hc] at h
  | comment hc =>
    subst hc
    simp [scan_comment] at h
  | quote hc => simp [scan_quote hc] at h
  | word hc =>
    refine ⟨hc, ?_⟩
    rw [scan_word hc] at h
    unfold scanWord at h
    split at h
    · split at h
      · cases h
      · cases h
        rfl
    · cases h
      rfl
  | number hword hc => simp [scan_number hword hc] at h
  | op hend hcomment hquote hword hnumber =>
    simp [scan_op hend hcomment hquote hword hnumber] at h

/-- A name ends where its characters do. -/
theorem length_of_scan_name {text : List Char} (h : (scan c cs).1 = .name text) :
    (scan c cs).2 = text.length := by
  obtain ⟨hc, rfl⟩ := eq_of_scan_name h
  rw [scan_word hc] at h ⊢
  unfold scanWord at h ⊢
  split
  · next q rest hrest =>
    rw [hrest] at h
    dsimp only at h
    split
    · next hstring =>
      rw [if_pos hstring] at h
      cases h
    · rfl
  · rfl

theorem scanWord_of_noString {word rest : List Char}
    (h : ∀ q cs, rest = q :: cs → isQuote q = true → word.map Char.toLower ∉ stringMarks) :
    scanWord word rest = (.name word, word.length) := by
  cases rest with
  | nil => rfl
  | cons q cs =>
    have hname : ¬(isQuote q && stringMarks.contains (word.map Char.toLower)) = true := by
      intro hstring
      obtain ⟨hquote, hmark⟩ := Bool.and_eq_true_iff.mp hstring
      exact h q cs rfl hquote (List.contains_iff_mem.mp hmark)
    rw [scanWord, if_neg hname]

/-- An operator is one of the long ones or a single character, so no line end is in it. -/
theorem lineFeed_not_mem_op (h : c ≠ '\n') (cs : List Char) :
    '\n' ∉ (c :: cs).take (opLength (c :: cs)) := by
  unfold opLength
  split
  · next hop => exact not_mem_longOps lineEnd_free_longOps (by decide) (Or.inl (List.contains_iff_mem.mp hop))
  · split
    · next hop => exact not_mem_longOps lineEnd_free_longOps (by decide) (Or.inr (List.contains_iff_mem.mp hop))
    · simpa using h.symm

theorem dot_not_mem_of_name {text : List Char} (h : t ∈ lexFrom pos skip cs)
    (ht : t.lexeme = .name text) : '.' ∉ text := by
  obtain ⟨_, c, rest, _, _, rfl⟩ := exists_scan_of_mem h
  obtain ⟨hc, rfl⟩ := eq_of_scan_name ht
  intro hdot
  rcases List.mem_cons.mp hdot with rfl | hdot
  · exact absurd hc (by decide)
  · exact absurd (List.all_eq_true.mp List.all_takeWhile _ hdot) (by decide)

/-- A text that starts with a string: what stands in front of the quote, and what stands behind. -/
structure StringAt (text mark : List Char) (quote : Char) (body : List Char) : Prop where
  text_eq : text = mark ++ quote :: body
  mark : mark = [] ∨ mark.map Char.toLower ∈ stringMarks
  quote : isQuote quote = true

theorem eq_of_toLower_eq {x y : Char} (h : x.toLower = y) : x = y ∨ x.val = y.val - 32 := by
  unfold Char.toLower at h
  split at h
  · subst h
    exact Or.inr (UInt32.add_sub_cancel x.val 32).symm
  · exact Or.inl h

theorem isNameStart_of_mem_mark {mark : List Char} (h : mark.map Char.toLower ∈ stringMarks)
    (hc : c ∈ mark) : isNameStart c = true := by
  let letters := [('r', 'R'), ('u', 'U'), ('b', 'B'), ('f', 'F')]
  have hmarks : ∀ m ∈ stringMarks, m ⊆ letters.map Prod.fst := by decide
  have hletters : ∀ p ∈ letters, isNameStart p.1 = true ∧ isNameStart p.2 = true ∧
      p.2.val = p.1.val - 32 := by decide
  obtain ⟨p, hp, hsmall⟩ := List.mem_map.mp (hmarks _ h (List.mem_map_of_mem hc))
  obtain ⟨hsame, hother, hlarge⟩ := hletters p hp
  rcases eq_of_toLower_eq hsmall.symm with rfl | hval
  · exact hsame
  · rwa [Char.ext (hval.trans hlarge.symm)]

theorem isNameChar_of_isNameStart (h : isNameStart c = true) : isNameChar c = true := by
  rcases Bool.or_eq_true_iff.mp h with h | h <;> simp [isNameChar, Unicode.isAlphanumeric, h]

section StringAt
variable {text mark body : List Char} {quote : Char}

theorem not_isNameChar_of_isQuote (h : isQuote quote = true) : isNameChar quote = false := by
  rcases eq_of_isQuote h with rfl | rfl <;> decide

theorem StringAt.isNameChar_mark (h : StringAt text mark quote body) :
    ∀ x ∈ mark, isNameChar x = true := by
  intro x hx
  rcases h.mark with rfl | hmark
  · cases hx
  · exact isNameChar_of_isNameStart (isNameStart_of_mem_mark hmark hx)

theorem StringAt.not_isNameChar_head (h : StringAt text mark quote body) :
    ∀ x, (quote :: body).head? = some x → isNameChar x = false := by
  intro x hx
  obtain rfl := Option.some.inj hx
  exact not_isNameChar_of_isQuote h.quote

/-- There is at most one way to see a string at the front of a text. -/
theorem StringAt.takeWhile (h : StringAt text mark quote body) :
    text.takeWhile isNameChar = mark := by
  rw [h.text_eq, takeWhile_append h.isNameChar_mark h.not_isNameChar_head]

theorem StringAt.dropWhile (h : StringAt text mark quote body) :
    text.dropWhile isNameChar = quote :: body := by
  rw [h.text_eq, dropWhile_append h.isNameChar_mark h.not_isNameChar_head]

theorem scan_string (h : StringAt (c :: cs) mark quote body) :
    scan c cs = (.other, mark.length + stringLength quote body) := by
  cases mark with
  | nil =>
    obtain ⟨rfl, rfl⟩ := List.cons_eq_cons.mp h.text_eq
    rw [scan_quote h.quote, List.length_nil, Nat.zero_add]
  | cons m mark =>
    have hmark : (m :: mark).map Char.toLower ∈ stringMarks :=
      h.mark.resolve_left (List.cons_ne_nil _ _)
    obtain rfl : c = m := (List.cons_eq_cons.mp h.text_eq).1
    have hc : isNameStart c = true := isNameStart_of_mem_mark hmark List.mem_cons_self
    have hword := h.takeWhile
    have hrest := h.dropWhile
    rw [List.takeWhile_cons_of_pos (isNameChar_of_isNameStart hc)] at hword
    rw [List.dropWhile_cons_of_pos (isNameChar_of_isNameStart hc)] at hrest
    rw [scan_word hc, hword, hrest, scanWord, h.quote, List.contains_iff_mem.mpr hmark]
    rfl

end StringAt

end KernelBridge.Code.Token
