import KernelBridge.Proofs.Scanning
import KernelBridge.Code.Identifier

/-! # Carriage returns for line feeds

A carriage return ends lines and comments as a line feed does, but it does not end a string between
single quotes. So the tokens of a code stay the same with carriage returns in place of its line
feeds exactly if no string is cut short by a line feed: `line_feeds_and_returns`.
-/
namespace KernelBridge.Code
open Token

/-- A carriage return in place of a line feed. -/
def feedToReturn (c : Char) : Char := if c = '\n' then '\r' else c

/-- Characters behind an opening quote where a line feed comes before the closing quote. -/
inductive CutShort (quote : Char) : List Char → Prop
  | lineFeed {cs : List Char} : CutShort quote ('\n' :: cs)
  | escape {c : Char} {cs : List Char} (h : CutShort quote cs) : CutShort quote ('\\' :: c :: cs)
  | char {c : Char} {cs : List Char} (hc : c ≠ '\\') (hquote : c ≠ quote) (h : CutShort quote cs) :
      CutShort quote (c :: cs)

/-- A text starts with a string, not in three quotes, that is cut short by a line feed. -/
def StartsCutShort (text : List Char) : Prop :=
  ∃ mark quote body, StringAt text mark quote body ∧ ¬[quote, quote] <+: body ∧ CutShort quote body

section FeedToReturn
variable {c d quote : Char} {cs text mark body : List Char}

theorem feedToReturn_congr {α : Type} {p : Char → α} (h : p '\r' = p '\n') (c : Char) :
    p (feedToReturn c) = p c := by
  unfold feedToReturn
  split
  · next hc => rw [hc, h]
  · rfl

theorem feedToReturn_of_ne (h : c ≠ '\n') : feedToReturn c = c := if_neg h

theorem feedToReturn_eq_iff (hfeed : d ≠ '\n') (hreturn : d ≠ '\r') :
    feedToReturn c = d ↔ c = d := by
  unfold feedToReturn
  split
  · next hc =>
    subst hc
    exact iff_of_false hreturn.symm hfeed.symm
  · rfl

theorem feedToReturn_ne_feed (c : Char) : feedToReturn c ≠ '\n' := by
  unfold feedToReturn
  split
  · decide
  · next hc => exact hc

theorem feedToReturn_ne_backslash (hc : c ≠ '\\') : feedToReturn c ≠ '\\' := fun h =>
  hc ((feedToReturn_eq_iff (by decide) (by decide)).mp h)

theorem map_feedToReturn_eq_self (h : '\n' ∉ cs) : cs.map feedToReturn = cs := by
  refine (List.map_congr_left fun c hc => ?_).trans (List.map_id cs)
  exact feedToReturn_of_ne fun hfeed => h (hfeed ▸ hc)

theorem takeWhile_map_feedToReturn {p : Char → Bool} (h : p '\r' = p '\n') (cs : List Char) :
    (cs.map feedToReturn).takeWhile p = (cs.takeWhile p).map feedToReturn := by
  rw [List.takeWhile_map]
  exact congrArg (List.map _ <| List.takeWhile · cs) (funext (feedToReturn_congr h))

theorem dropWhile_map_feedToReturn {p : Char → Bool} (h : p '\r' = p '\n') (cs : List Char) :
    (cs.map feedToReturn).dropWhile p = (cs.dropWhile p).map feedToReturn := by
  rw [List.dropWhile_map]
  exact congrArg (List.map _ <| List.dropWhile · cs) (funext (feedToReturn_congr h))

theorem ne_lineEnd_of_isQuote (h : isQuote quote = true) : quote ≠ '\n' ∧ quote ≠ '\r' := by
  rcases eq_of_isQuote h with rfl | rfl <;> decide

theorem isPrefixOf_map_feedToReturn (h : isQuote quote = true) (cs : List Char) :
    [quote, quote].isPrefixOf (cs.map feedToReturn) = [quote, quote].isPrefixOf cs := by
  obtain ⟨hfeed, hreturn⟩ := ne_lineEnd_of_isQuote h
  have hbeq : ∀ c, (quote == feedToReturn c) = (quote == c) := fun c => by
    rw [Bool.eq_iff_iff, beq_iff_eq, beq_iff_eq, eq_comm, feedToReturn_eq_iff hfeed hreturn,
      eq_comm]
  match cs with
  | [] => rfl
  | [c] => simp [List.isPrefixOf]
  | c :: d :: cs => simp [List.isPrefixOf, hbeq]

theorem cutShort_cons_iff (hc : c ≠ '\\') (hfeed : c ≠ '\n') (hquote : c ≠ quote) :
    CutShort quote (c :: cs) ↔ CutShort quote cs := by
  constructor
  · intro h
    cases h with
    | lineFeed => exact absurd rfl hfeed
    | escape => exact absurd rfl hc
    | char _ _ h => exact h
  · exact .char hc hquote

theorem cutShort_escape_iff : CutShort quote ('\\' :: c :: cs) ↔ CutShort quote cs := by
  constructor
  · intro h
    cases h with
    | escape h => exact h
    | char hc => exact absurd rfl hc
  · exact .escape

theorem not_cutShort_quote (h : isQuote quote = true) (cs : List Char) :
    ¬CutShort quote (quote :: cs) := by
  intro hcut
  cases hcut with
  | lineFeed => exact absurd h (by decide)
  | escape => exact absurd h (by decide)
  | char _ hquote _ => exact hquote rfl

/-- The body of a string in three quotes is as long as before. -/
theorem bodyLength_map_triple (h : isQuote quote = true) (cs : List Char) :
    bodyLength quote true (cs.map feedToReturn) = bodyLength quote true cs := by
  obtain ⟨hfeed, hreturn⟩ := ne_lineEnd_of_isQuote h
  induction cs using body_induction with
  | nil => rfl
  | lone => rfl
  | escape c cs ih => exact congrArg (· + 2) ih
  | char c cs hc ih =>
    rw [List.map_cons, bodyLength_cons (feedToReturn_ne_backslash hc), bodyLength_cons hc,
      isPrefixOf_map_feedToReturn h, ih]
    simp [feedToReturn_eq_iff hfeed hreturn]

/-- The body of another string is as long as before exactly if no line feed cuts it short. -/
theorem bodyLength_map_iff (h : isQuote quote = true) (cs : List Char) :
    bodyLength quote false (cs.map feedToReturn) = bodyLength quote false cs ↔
      ¬CutShort quote cs := by
  obtain ⟨hfeed, hreturn⟩ := ne_lineEnd_of_isQuote h
  induction cs using body_induction with
  | nil => exact iff_of_true rfl (fun hcut => by cases hcut)
  | lone => exact iff_of_true rfl (fun hcut => by cases hcut with | char hc => exact hc rfl)
  | escape c cs ih =>
    rw [cutShort_escape_iff, ← ih]
    exact Nat.add_right_cancel_iff
  | char c cs hc ih =>
    rw [List.map_cons, bodyLength_cons (feedToReturn_ne_backslash hc), bodyLength_cons hc]
    by_cases hline : c = '\n'
    · -- the carriage return is one more character of the string
      subst hline
      refine iff_of_false ?_ fun hcut => hcut .lineFeed
      have hreturn' : '\r' ≠ quote := hreturn.symm
      simp [feedToReturn, hreturn']
    · rw [feedToReturn_of_ne hline]
      by_cases hclose : c = quote
      · subst hclose
        exact iff_of_true (by simp [hline]) (not_cutShort_quote h cs)
      · rw [cutShort_cons_iff hc hline hclose, ← ih]
        simp [hline, hclose]

theorem stringLength_map_iff (h : isQuote quote = true) (cs : List Char) :
    stringLength quote (cs.map feedToReturn) = stringLength quote cs ↔
      ¬(¬[quote, quote] <+: cs ∧ CutShort quote cs) := by
  unfold stringLength
  rw [isPrefixOf_map_feedToReturn h, ← List.isPrefixOf_iff_prefix]
  by_cases htriple : [quote, quote].isPrefixOf cs = true
  · rw [if_pos htriple, if_pos htriple, ← List.map_drop, bodyLength_map_triple h]
    exact iff_of_true rfl fun hcut => hcut.1 htriple
  · rw [if_neg htriple, if_neg htriple, Nat.add_right_cancel_iff, bodyLength_map_iff h,
      and_iff_right htriple]

theorem Token.StringAt.map_feedToReturn (h : StringAt text mark quote body) :
    StringAt (text.map feedToReturn) mark quote (body.map feedToReturn) where
  text_eq := by
    have hmark : '\n' ∉ mark := fun hfeed => absurd (h.isNameChar_mark _ hfeed) (by decide)
    rw [h.text_eq, List.map_append, List.map_cons, map_feedToReturn_eq_self hmark,
      feedToReturn_of_ne (ne_lineEnd_of_isQuote h.quote).1]
  mark := h.mark
  quote := h.quote

theorem Token.StringAt.startsCutShort_iff (h : StringAt text mark quote body) :
    StartsCutShort text ↔ ¬[quote, quote] <+: body ∧ CutShort quote body := by
  constructor
  · rintro ⟨mark', quote', body', h', hcut⟩
    obtain ⟨rfl, rfl⟩ := List.cons_eq_cons.mp (h.dropWhile.symm.trans h'.dropWhile)
    exact hcut
  · exact fun hcut => ⟨mark, quote, body, h, hcut⟩

theorem map_mem_longOps_iff {ops : List (List Char)} (hops : ∀ op ∈ ops, '\n' ∉ op ∧ '\r' ∉ op)
    (cs : List Char) : cs.map feedToReturn ∈ ops ↔ cs ∈ ops := by
  constructor
  · intro h
    have hfeed : '\n' ∉ cs := fun hfeed => (hops _ h).2 (List.mem_map_of_mem hfeed)
    rwa [map_feedToReturn_eq_self hfeed] at h
  · intro h
    rwa [map_feedToReturn_eq_self (hops _ h).1]

theorem opLength_map (cs : List Char) : opLength (cs.map feedToReturn) = opLength cs := by
  have hthree : (cs.take 3).map feedToReturn ∈ threeCharOps ↔ cs.take 3 ∈ threeCharOps :=
    map_mem_longOps_iff (by decide) _
  have htwo : (cs.take 2).map feedToReturn ∈ twoCharOps ↔ cs.take 2 ∈ twoCharOps :=
    map_mem_longOps_iff (by decide) _
  simp only [opLength, ← List.map_take, List.contains_iff_mem, hthree, htwo]

/-- What does not start with a string is scanned the same. -/
theorem scan_map_of_noString (hreturn : '\r' ∉ c :: cs)
    (hno : ∀ mark quote body, ¬StringAt (c :: cs) mark quote body) :
    scan (feedToReturn c) (cs.map feedToReturn) = scan c cs := by
  cases kind c with
  | lineEnd h =>
    have hmapped : isLineEnd (feedToReturn c) = true := (feedToReturn_congr (by decide) c).trans h
    have hpair : ¬(feedToReturn c = '\r' ∧ (cs.map feedToReturn).head? = some '\n') := by
      rintro ⟨_, hhead⟩
      rw [List.head?_map] at hhead
      obtain ⟨d, _, hd⟩ := Option.map_eq_some_iff.mp hhead
      exact feedToReturn_ne_feed d hd
    have hsingle : ¬(c = '\r' ∧ cs.head? = some '\n') := fun hc =>
      hreturn (hc.1 ▸ List.mem_cons_self)
    rw [scan_lineEnd hmapped, scan_lineEnd h, if_neg hpair, if_neg hsingle]
  | comment h =>
    subst h
    rw [feedToReturn_of_ne (by decide), scan_comment, scan_comment,
      takeWhile_map_feedToReturn (by decide), List.length_map]
  | quote h => exact absurd ⟨rfl, Or.inl rfl, h⟩ (hno [] c cs)
  | word h =>
    have hc := (ne_of_isLineEnd_eq_false (of_isNameStart h).1).1
    have hfeed : '\n' ∉ cs.takeWhile isNameChar := fun hfeed =>
      absurd (List.all_eq_true.mp List.all_takeWhile _ hfeed) (by decide)
    have hname : ∀ q rest, cs.dropWhile isNameChar = q :: rest → isQuote q = true →
        (c :: cs.takeWhile isNameChar).map Char.toLower ∉ stringMarks := by
      intro q rest hrest hq hmark
      refine hno _ q rest ⟨?_, Or.inr hmark, hq⟩
      rw [← hrest, List.cons_append, List.takeWhile_append_dropWhile]
    have hmapped : ∀ q rest, (cs.dropWhile isNameChar).map feedToReturn = q :: rest →
        isQuote q = true → (c :: cs.takeWhile isNameChar).map Char.toLower ∉ stringMarks := by
      intro q rest hrest hq
      obtain ⟨p, ps, hps, rfl, _⟩ := List.map_eq_cons_iff.mp hrest
      exact hname p ps hps ((feedToReturn_congr (by decide) p).symm.trans hq)
    rw [feedToReturn_of_ne hc, scan_word h, scan_word h, takeWhile_map_feedToReturn (by decide),
      dropWhile_map_feedToReturn (by decide), map_feedToReturn_eq_self hfeed,
      scanWord_of_noString hname, scanWord_of_noString hmapped]
  | number hword h =>
    have hc := (ne_of_isLineEnd_eq_false (of_isDigit h).1).1
    rw [feedToReturn_of_ne hc, scan_number hword h, scan_number hword h,
      takeWhile_map_feedToReturn (by decide), List.length_map]
  | op hend hcomment hquote hword hnumber =>
    have hc := (ne_of_isLineEnd_eq_false hend).1
    have hmapped : c :: cs.map feedToReturn = (c :: cs).map feedToReturn := by
      rw [List.map_cons, feedToReturn_of_ne hc]
    rw [feedToReturn_of_ne hc, scan_op hend hcomment hquote hword hnumber,
      scan_op hend hcomment hquote hword hnumber, hmapped, opLength_map, ← List.map_take,
      map_feedToReturn_eq_self (lineFeed_not_mem_op hc cs)]

/-- A lexeme is scanned the same exactly if it is no string that is cut short by a line feed. -/
theorem scan_map_iff (hreturn : '\r' ∉ c :: cs) :
    scan (feedToReturn c) (cs.map feedToReturn) = scan c cs ↔ ¬StartsCutShort (c :: cs) := by
  by_cases hstring : ∃ mark quote body, StringAt (c :: cs) mark quote body
  · obtain ⟨mark, quote, body, h⟩ := hstring
    have hmapped : StringAt (feedToReturn c :: cs.map feedToReturn) mark quote
        (body.map feedToReturn) := h.map_feedToReturn
    rw [scan_string h, scan_string hmapped, h.startsCutShort_iff, ← stringLength_map_iff h.quote,
      Prod.mk.injEq, Nat.add_left_cancel_iff]
    exact and_iff_right rfl
  · have hno : ∀ mark quote body, ¬StringAt (c :: cs) mark quote body :=
      fun mark quote body h => hstring ⟨mark, quote, body, h⟩
    refine iff_of_true (scan_map_of_noString hreturn hno) ?_
    rintro ⟨mark, quote, body, h, _⟩
    exact hno mark quote body h

end FeedToReturn

/-- The tokens of what is left of a code are the same exactly if each of them is scanned the
same. -/
theorem lexFrom_map_iff (before : List Char) (skip : Nat) {cs : List Char} (hreturn : '\r' ∉ cs) :
    lexFrom before.length skip (cs.map feedToReturn) = lexFrom before.length skip cs ↔
      ∀ t ∈ lexFrom before.length skip cs, ¬StartsCutShort ((before ++ cs).drop t.start) := by
  induction cs generalizing before skip with
  | nil => simp
  | cons c cs ih =>
    have hrest : '\r' ∉ cs := fun h => hreturn (List.mem_cons_of_mem _ h)
    have hnext : ∀ skip, (lexFrom (before.length + 1) skip (cs.map feedToReturn) =
        lexFrom (before.length + 1) skip cs ↔ ∀ t ∈ lexFrom (before.length + 1) skip cs,
          ¬StartsCutShort ((before ++ c :: cs).drop t.start)) := by
      intro skip
      have hnext := ih (before ++ [c]) skip hrest
      rwa [List.length_append, List.append_assoc] at hnext
    cases skip with
    | succ skip => exact hnext skip
    | zero =>
      have hmapped : isBlank (feedToReturn c) = isBlank c := feedToReturn_congr (by decide) c
      rw [List.map_cons]
      cases hblank : isBlank c with
      | true =>
        rw [lexFrom_blank (hmapped.trans hblank), lexFrom_blank hblank]
        exact hnext 0
      | false =>
        rw [lexFrom_cons (hmapped.trans hblank), lexFrom_cons hblank, List.forall_mem_cons,
          ← hnext, List.drop_left, ← scan_map_iff hreturn, List.cons.injEq]
        have htoken : ∀ a b : Lexeme × Nat,
            (⟨a.1, before.length, before.length + a.2⟩ : Token) =
              ⟨b.1, before.length, before.length + b.2⟩ ↔ a = b := fun a b => by
          rw [Token.mk.injEq, Prod.ext_iff, Nat.add_left_cancel_iff]
          simp
        rw [htoken]
        exact and_congr_right fun heq => by rw [heq]

/-- In a code without carriage returns they can take the place of the line feeds exactly if no
string is cut short by a line feed: then the tokens stay the same, and the identifier at every
cursor. -/
theorem line_feeds_and_returns (code : String) (hreturn : '\r' ∉ code.toList) :
    (lex (code.map feedToReturn).toList = lex code.toList ↔
      ∀ t ∈ lex code.toList, ¬StartsCutShort (code.toList.drop t.start)) ∧
    ((∀ t ∈ lex code.toList, ¬StartsCutShort (code.toList.drop t.start)) →
      ∀ cursor, identifierAt (code.map feedToReturn) cursor = identifierAt code cursor) := by
  have htokens : lex (code.toList.map feedToReturn) = lex code.toList ↔
      ∀ t ∈ lex code.toList, ¬StartsCutShort (code.toList.drop t.start) :=
    lexFrom_map_iff [] 0 hreturn
  rw [← String.toList_map] at htokens
  refine ⟨htokens, fun h cursor => ?_⟩
  unfold identifierAt
  rw [htokens.mpr h]

/-- A string in three quotes keeps its line ends, and the comment ends at either of them. -/
theorem line_feeds_and_returns_docstring :
    '\r' ∉ "'''a\n'''# b\nc".toList ∧
      identifierAt ("'''a\n'''# b\nc".map feedToReturn) 13 = "c" := by
  have hreturn : '\r' ∉ "'''a\n'''# b\nc".toList := by decide
  obtain ⟨htokens, hsame⟩ := line_feeds_and_returns "'''a\n'''# b\nc" hreturn
  have hlex : lex ("'''a\n'''# b\nc".map feedToReturn).toList = lex "'''a\n'''# b\nc".toList := by
    rw [String.toList_map]
    decide
  exact ⟨hreturn, (hsame (htokens.mp hlex) 13).trans (by decide)⟩

/-- The carriage return does not end the string, so the name behind it is part of the string. -/
theorem not_always_interchangeable :
    ¬∀ (code : String) (cursor : Nat), '\r' ∉ code.toList → cursor < 0xffffffffffffffff →
      identifierAt (code.map feedToReturn) cursor = identifierAt code cursor := by
  intro h
  have hstring := h "'a\nfoo" 6 (by decide) (by decide)
  unfold identifierAt at hstring
  rw [String.toList_map] at hstring
  exact absurd hstring (by decide)

end KernelBridge.Code
