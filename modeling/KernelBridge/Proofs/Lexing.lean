import KernelBridge.Proofs.Exactness
import KernelBridge.Proofs.Scanning

/-! # Nothing of a code is lost

Each call of the lexer passes over blanks and gives the token behind them, until there is none. The
tokens of all calls stand apart, and what is between them are the blanks: put together they are the
code. An operator is the longest of the known ones that the code goes on with.
-/
namespace KernelBridge.Code.Token
variable {code : List Char} {pos : Nat} {t : Token} {ts us : List Token}

/-- The token behind a position and the blanks that follow it. -/
def next (code : List Char) (pos : Nat) : Option Token :=
  let start := pos + ((code.drop pos).takeWhile isBlank).length
  match code.drop start with
  | [] => none
  | c :: cs => some ⟨(scan c cs).1, start, start + (scan c cs).2⟩

/-- The tokens of successive calls from a position on, each from the end of the one before, up to
the call that gives none. -/
inductive Calls (code : List Char) : Nat → List Token → Prop
  | ended {pos : Nat} (h : next code pos = none) : Calls code pos []
  | token {pos : Nat} {t : Token} {ts : List Token} (h : next code pos = some t)
      (hts : Calls code t.stop ts) : Calls code pos (t :: ts)

/-- The characters from a position up to but without another one. -/
def slice (code : List Char) (start stop : Nat) : List Char := (code.drop start).take (stop - start)

def text (code : List Char) (t : Token) : List Char := slice code t.start t.stop

/-- What stands before each of some tokens, and behind the last. -/
def gaps (code : List Char) : Nat → List Token → List (List Char)
  | pos, [] => [code.drop pos]
  | pos, t :: ts => slice code pos t.start :: gaps code t.stop ts

/-- Texts between gaps, in turn. -/
def weave : List (List Char) → List (List Char) → List Char
  | gap :: gaps, text :: texts => gap ++ (text ++ weave gaps texts)
  | gaps, _ => gaps.flatten

/-- An operator of the tables in front of a text that is as long as any other there, or the first
character if none is there. -/
inductive LongestOp (rest : List Char) : List Char → Prop
  | known {op : List Char} (hop : op ∈ threeCharOps ++ twoCharOps) (h : op <+: rest)
      (hlongest : ∀ other ∈ threeCharOps ++ twoCharOps, other <+: rest → other.length ≤ op.length) :
      LongestOp rest op
  | character {c : Char} {cs : List Char} (h : rest = c :: cs)
      (hnone : ∀ op ∈ threeCharOps ++ twoCharOps, ¬op <+: rest) : LongestOp rest [c]

section Calls

theorem next_eq_none_of_drop (h : code.drop pos = []) : next code pos = none := by
  simp [next, h]

theorem next_of_blank {c : Char} {cs : List Char} (h : code.drop pos = c :: cs)
    (hc : isBlank c = true) : next code pos = next code (pos + 1) := by
  have hcs : code.drop (pos + 1) = cs := by rw [← List.drop_drop, h, List.drop_one, List.tail_cons]
  have hstart : pos + ((code.drop pos).takeWhile isBlank).length =
      pos + 1 + ((code.drop (pos + 1)).takeWhile isBlank).length := by
    rw [h, hcs, List.takeWhile_cons_of_pos hc, List.length_cons]
    omega
  unfold next
  rw [hstart]

theorem next_of_not_blank {c : Char} {cs : List Char} (h : code.drop pos = c :: cs)
    (hc : isBlank c = false) :
    next code pos = some ⟨(scan c cs).1, pos, pos + (scan c cs).2⟩ := by
  simp [next, h, hc]

theorem Calls.congr {other : Nat} (h : next code pos = next code other)
    (hts : Calls code other ts) : Calls code pos ts := by
  cases hts with
  | ended hnone => exact .ended (h.trans hnone)
  | token hsome hts => exact .token (h.trans hsome) hts

/-- Lexing calls for one token after the other. -/
theorem calls_lexFrom (before : List Char) (skip : Nat) (cs : List Char) :
    Calls (before ++ cs) (before.length + skip) (lexFrom before.length skip cs) := by
  induction cs generalizing before skip with
  | nil =>
    rw [lexFrom_nil]
    exact .ended (next_eq_none_of_drop (List.drop_eq_nil_of_le (by simp)))
  | cons c cs ih =>
    have hcode : before ++ [c] ++ cs = before ++ c :: cs := by simp
    -- what lies behind the first character, however much of it that character's token takes along
    have hrest (skip : Nat) : Calls (before ++ c :: cs) (before.length + 1 + skip)
        (lexFrom (before.length + 1) skip cs) := by
      have hcalls := ih (before ++ [c]) skip
      rwa [hcode, List.length_append, List.length_singleton] at hcalls
    cases skip with
    | succ skip =>
      have hpos : before.length + (skip + 1) = before.length + 1 + skip := by omega
      rw [hpos]
      exact hrest skip
    | zero =>
      have hdrop : (before ++ c :: cs).drop before.length = c :: cs := List.drop_left
      cases hblank : isBlank c with
      | true =>
        rw [Nat.add_zero, lexFrom_blank hblank]
        exact (hrest 0).congr (next_of_blank hdrop hblank)
      | false =>
        have hlength := scan_length_pos c cs
        have hstop : before.length + 1 + ((scan c cs).2 - 1) = before.length + (scan c cs).2 := by
          omega
        rw [Nat.add_zero, lexFrom_cons hblank]
        exact .token (next_of_not_blank hdrop hblank) (hstop ▸ hrest ((scan c cs).2 - 1))

theorem calls_lex (code : List Char) : Calls code 0 (lex code) := calls_lexFrom [] 0 code

theorem Calls.unique (h : Calls code pos ts) (g : Calls code pos us) : ts = us := by
  induction h generalizing us with
  | ended h =>
    cases g with
    | ended _ => rfl
    | token g _ => cases h.symm.trans g
  | token h _ ih =>
    cases g with
    | ended g => cases h.symm.trans g
    | token g hus =>
      obtain rfl := Option.some.inj (h.symm.trans g)
      rw [ih hus]

end Calls

section Gaps

theorem isBlank_iff {c : Char} : isBlank c = true ↔ c = ' ' ∨ c = '\t' ∨ c = '\x0c' := by
  simp [isBlank, or_assoc]

theorem drop_blanks (code : List Char) (pos : Nat) :
    code.drop (pos + ((code.drop pos).takeWhile isBlank).length) =
      (code.drop pos).dropWhile isBlank := by
  calc
    code.drop (pos + ((code.drop pos).takeWhile isBlank).length)
      = (code.drop pos).drop ((code.drop pos).takeWhile isBlank).length := List.drop_drop.symm
    _ = ((code.drop pos).takeWhile isBlank ++ (code.drop pos).dropWhile isBlank).drop
          ((code.drop pos).takeWhile isBlank).length := by rw [List.takeWhile_append_dropWhile]
    _ = (code.drop pos).dropWhile isBlank := List.drop_left

/-- A call that gives no token has found blanks alone. -/
theorem isBlank_of_next_eq_none (h : next code pos = none) :
    ∀ c ∈ code.drop pos, isBlank c = true := by
  unfold next at h
  dsimp only at h
  split at h
  · next hdrop =>
    rw [drop_blanks] at hdrop
    exact List.dropWhile_eq_nil_iff.mp hdrop
  · cases h

theorem isBlank_of_next_eq_some (h : next code pos = some t) :
    ∀ c ∈ slice code pos t.start, isBlank c = true := by
  unfold next at h
  dsimp only at h
  split at h
  · cases h
  · cases h
    have hblanks : slice code pos (pos + ((code.drop pos).takeWhile isBlank).length) =
        (code.drop pos).takeWhile isBlank := by
      rw [slice, Nat.add_sub_cancel_left]
      exact (List.prefix_iff_eq_take.mp (List.takeWhile_prefix _)).symm
    intro c hc
    rw [hblanks] at hc
    exact List.all_eq_true.mp List.all_takeWhile c hc

theorem Calls.isBlank_gaps (h : Calls code pos ts) :
    ∀ gap ∈ gaps code pos ts, ∀ c ∈ gap, isBlank c = true := by
  induction h with
  | ended h =>
    intro gap hgap
    rw [List.mem_singleton.mp hgap]
    exact isBlank_of_next_eq_none h
  | token h _ ih => exact List.forall_mem_cons.mpr ⟨isBlank_of_next_eq_some h, ih⟩

theorem slice_append_drop {start stop : Nat} (h : start ≤ stop) :
    slice code start stop ++ code.drop stop = code.drop start := by
  have hdrop : code.drop stop = (code.drop start).drop (stop - start) := by
    rw [List.drop_drop, Nat.add_sub_cancel' h]
  rw [slice, hdrop, List.take_append_drop]

theorem weave_gaps (h : Spaced pos ts) :
    weave (gaps code pos ts) (ts.map (text code)) = code.drop pos := by
  induction h with
  | nil => exact List.append_nil _
  | @cons pos t ts hstart hlength _ ih =>
    rw [gaps, List.map_cons, weave, ih, text, slice_append_drop (Nat.le_of_lt hlength),
      slice_append_drop hstart]

theorem Spaced.add_length_le {bound : Nat} (h : Spaced pos ts) (hpos : pos ≤ bound)
    (hbound : ∀ t ∈ ts, t.stop ≤ bound) : pos + ts.length ≤ bound := by
  induction h with
  | nil => exact hpos
  | cons hstart hlength _ ih =>
    obtain ⟨hstop, hts⟩ := List.forall_mem_cons.mp hbound
    have hlength := ih hstop hts
    rw [List.length_cons]
    omega

theorem Spaced.pairwise (h : Spaced pos ts) : ts.Pairwise fun t u => t.stop ≤ u.start := by
  induction h with
  | nil => exact .nil
  | cons _ _ hts ih => exact .cons (fun u hu => (hts.of_mem hu).1) ih

end Gaps

section Operators
variable {c : Char} {cs rest : List Char}

theorem eq_of_scan_op {s : List Char} (h : (scan c cs).1 = .op s) :
    (scan c cs).2 = opLength (c :: cs) ∧ s = (c :: cs).take (opLength (c :: cs)) := by
  cases kind c with
  | lineEnd hc => simp [scan_lineEnd hc] at h
  | comment hc =>
    subst hc
    simp [scan_comment] at h
  | quote hc => simp [scan_quote hc] at h
  | word hc =>
    rw [scan_word hc] at h
    unfold scanWord at h
    split at h
    · split at h <;> cases h
    · cases h
  | number hword hc => simp [scan_number hword hc] at h
  | op hend hcomment hquote hword hnumber =>
    rw [scan_op hend hcomment hquote hword hnumber] at h ⊢
    exact ⟨rfl, (Lexeme.op.inj h).symm⟩

theorem take_mem_ops {ops : List (List Char)} {n : Nat} (hlength : ∀ op ∈ ops, op.length = n)
    {op : List Char} (hop : op ∈ ops) (h : op <+: rest) : rest.take n ∈ ops := by
  rw [← hlength op hop, ← List.prefix_iff_eq_take.mp h]
  exact hop

/-- Three characters are looked for before two. -/
theorem longestOp_take (c : Char) (cs : List Char) :
    LongestOp (c :: cs) ((c :: cs).take (opLength (c :: cs))) := by
  have hlength : ∀ op ∈ threeCharOps ++ twoCharOps, op.length = 3 ∨ op.length = 2 := by
    intro op hop
    exact (List.mem_append.mp hop).imp length_of_mem_threeCharOps length_of_mem_twoCharOps
  unfold opLength
  split
  · next hthree =>
    have hop := List.contains_iff_mem.mp hthree
    refine .known (List.mem_append_left _ hop) (List.take_prefix _ _) fun other hother _ => ?_
    have hlength := hlength other hother
    rw [length_of_mem_threeCharOps hop]
    omega
  · next hthree =>
    have hnot : ∀ op ∈ threeCharOps, ¬op <+: c :: cs := fun op hop h =>
      hthree (List.contains_iff_mem.mpr
        (take_mem_ops (fun _ => length_of_mem_threeCharOps) hop h))
    split
    · next htwo =>
      have hop := List.contains_iff_mem.mp htwo
      refine .known (List.mem_append_right _ hop) (List.take_prefix _ _) fun other hother h => ?_
      rcases List.mem_append.mp hother with hother | hother
      · exact absurd h (hnot other hother)
      · rw [length_of_mem_twoCharOps hop, length_of_mem_twoCharOps hother]
    · next htwo =>
      refine .character rfl fun op hop h => ?_
      rcases List.mem_append.mp hop with hop | hop
      · exact hnot op hop h
      · exact htwo (List.contains_iff_mem.mpr
          (take_mem_ops (fun _ => length_of_mem_twoCharOps) hop h))

theorem LongestOp.ne_nil {s : List Char} (h : LongestOp rest s) : s ≠ [] := by
  cases h with
  | known hop =>
    rintro rfl
    exact absurd hop (by decide)
  | character => exact List.cons_ne_nil _ _

end Operators

/-- Every token is what is scanned where it starts. -/
theorem exists_drop_of_mem (h : t ∈ lex code) :
    ∃ c cs, code.drop t.start = c :: cs ∧ t.lexeme = (scan c cs).1 ∧
      t.stop = t.start + (scan c cs).2 := by
  obtain ⟨before, c, cs, rfl, _, rfl⟩ := exists_scan_of_mem h
  refine ⟨c, cs, ?_, rfl, rfl⟩
  rw [Nat.zero_add, List.drop_left]

theorem op_of_mem (h : t ∈ lex code) {s : List Char} (hs : t.lexeme = .op s) :
    s = text code t ∧ LongestOp (code.drop t.start) s := by
  obtain ⟨c, cs, hdrop, hlexeme, hstop⟩ := exists_drop_of_mem h
  obtain ⟨hlength, rfl⟩ := eq_of_scan_op (hlexeme.symm.trans hs)
  rw [text, slice, hdrop, hstop, Nat.add_sub_cancel_left, hlength]
  exact ⟨rfl, longestOp_take c cs⟩

/-- In a code that fits a machine no position leaves the words while a token is scanned. -/
theorem scan_of_mem_lex (hcode : Machine.Storable (String.ofList code)) (h : t ∈ lex code) :
    ∃ c cs, code.drop t.start = c :: cs ∧
      Machine.scan code.length t.start c cs = pure (t.lexeme, t.stop) := by
  obtain ⟨c, cs, hdrop, hlexeme, hstop⟩ := exists_drop_of_mem h
  have hsize := hcode.length_lt
  have hstart := start_lt_of_mem_lex h
  have hlength : (code.drop t.start).length = cs.length + 1 := by rw [hdrop, List.length_cons]
  rw [List.length_drop] at hlength
  rw [String.length_ofList] at hsize
  refine ⟨c, cs, hdrop, ?_⟩
  rw [Machine.scan_eq hsize (by omega), hlexeme, hstop]

/-- What is known of the tokens that a code is lexed into. -/
structure LexedInto (code : List Char) (ts : List Token) : Prop where
  calls (us : List Token) : Calls code 0 us ↔ us = ts
  count : ts.length ≤ code.length
  span (t : Token) (ht : t ∈ ts) : t.start < t.stop ∧ t.stop ≤ code.length
  apart : ts.Pairwise fun t u => t.stop ≤ u.start
  blank (gap : List Char) (hgap : gap ∈ gaps code 0 ts) (c : Char) (hc : c ∈ gap) :
    c = ' ' ∨ c = '\t' ∨ c = '\x0c'
  woven : weave (gaps code 0 ts) (ts.map (text code)) = code
  op (t : Token) (ht : t ∈ ts) (s : List Char) (hs : t.lexeme = .op s) :
    s = text code t ∧ s ≠ [] ∧ LongestOp (code.drop t.start) s
  scanned (hcode : Machine.Storable (String.ofList code)) (t : Token) (ht : t ∈ ts) :
    ∃ c cs, code.drop t.start = c :: cs ∧
      Machine.scan code.length t.start c cs = pure (t.lexeme, t.stop)

theorem lexedInto_lex (code : List Char) : LexedInto code (lex code) := by
  have hstop : ∀ t ∈ lex code, t.stop ≤ code.length := by
    intro t ht
    have hle := stop_le_of_mem_lexFrom ht
    rwa [Nat.zero_add] at hle
  have hcount := (spaced_lex code).add_length_le (Nat.zero_le _) hstop
  rw [Nat.zero_add] at hcount
  exact
    { calls := fun us => ⟨fun h => h.unique (calls_lex code), fun h => h ▸ calls_lex code⟩
      count := hcount
      span := fun t ht => ⟨((spaced_lex code).of_mem ht).2, hstop t ht⟩
      apart := (spaced_lex code).pairwise
      blank := fun gap hgap c hc => isBlank_iff.mp ((calls_lex code).isBlank_gaps gap hgap c hc)
      woven := weave_gaps (spaced_lex code)
      op := by
        intro t ht s hs
        obtain ⟨htext, hlongest⟩ := op_of_mem ht hs
        exact ⟨htext, hlongest.ne_nil, hlongest⟩
      scanned := fun hcode t ht => scan_of_mem_lex hcode ht }

/-- A string that nothing closes, with a backslash at the end of the code. -/
theorem lexedInto_unclosed : Machine.Storable (String.ofList "x **= b'\\".toList) ∧
    LexedInto "x **= b'\\".toList
      [⟨.name ['x'], 0, 1⟩, ⟨.op ['*', '*', '='], 2, 5⟩, ⟨.other, 6, 9⟩] := by
  have hlex : lex "x **= b'\\".toList =
      [⟨.name ['x'], 0, 1⟩, ⟨.op ['*', '*', '='], 2, 5⟩, ⟨.other, 6, 9⟩] := by decide
  refine ⟨by decide, ?_⟩
  rw [← hlex]
  exact lexedInto_lex _

end KernelBridge.Code.Token
