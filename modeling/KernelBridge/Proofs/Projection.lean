import KernelBridge.Code.Line

/-! # A cursor on its line

`Cut` says how a code falls into lines without walking through it, and there is one way: `cut_iff`. A
cursor inside a code is projected onto the line of the character before it and keeps its position. A
cursor past the end goes to the last line, but only as far into it as it is past the end, so the
projection steps back there.
-/
namespace KernelBridge.Code

/-- Text without anything that ends a line. -/
def Plain (body : List Char) : Prop := '\n' ∉ body ∧ '\r' ∉ body

def terminators : List (List Char) := [['\n'], ['\r', '\n'], ['\r']]

/-- A text in pieces, each up to and with a line feed, both characters of a pair, or a carriage return
that is no part of a pair. Only the last piece may end without. -/
inductive Cut : List Char → List (List Char) → Prop
  | nil : Cut [] []
  | last {body : List Char} (hbody : Plain body) (hne : body ≠ []) : Cut body [body]
  | line {body stop rest : List Char} {pieces : List (List Char)} (hbody : Plain body)
      (hstop : stop ∈ terminators) (hpair : stop = ['\r'] → rest.head? ≠ some '\n')
      (h : Cut rest pieces) : Cut (body ++ (stop ++ rest)) ((body ++ stop) :: pieces)

section Cut
variable {c : Char} {cs body stop rest l : List Char} {ls pieces : List (List Char)}

theorem plain_nil : Plain [] := ⟨List.not_mem_nil, List.not_mem_nil⟩

theorem plain_cons : Plain (c :: cs) ↔ (c ≠ '\n' ∧ c ≠ '\r') ∧ Plain cs := by
  unfold Plain
  simp only [List.mem_cons, not_or, ne_eq, @eq_comm _ c]
  exact and_and_and_comm

theorem cut_cons_plain (h : c ≠ '\n' ∧ c ≠ '\r') (hcut : Cut cs (l :: ls)) :
    Cut (c :: cs) ((c :: l) :: ls) := by
  cases hcut with
  | last hbody _ => exact .last (plain_cons.mpr ⟨h, hbody⟩) (List.cons_ne_nil _ _)
  | line hbody hstop hpair hrest => exact .line (plain_cons.mpr ⟨h, hbody⟩) hstop hpair hrest

theorem cut_lines (cs : List Char) : Cut cs (lines cs) := by
  fun_induction lines cs with
  | case1 => exact .nil
  | case2 cs ih =>
    have hstop : ['\r', '\n'] ∈ terminators := by decide
    exact .line plain_nil hstop (fun h => by cases h) ih
  | case3 c cs hpair h ih =>
    have hstop : [c] ∈ terminators := by
      rcases h with rfl | rfl <;> decide
    refine .line plain_nil hstop (fun hc hhead => ?_) ih
    obtain ⟨rest, hrest⟩ := List.head?_eq_some_iff.mp hhead
    exact hpair rest (List.singleton_inj.mp hc) hrest
  | case4 c cs hpair h hl ih =>
    rw [hl] at ih
    cases ih
    exact .last (plain_cons.mpr ⟨not_or.mp h, plain_nil⟩) (List.cons_ne_nil _ _)
  | case5 c cs hpair h l ls hl ih => exact cut_cons_plain (not_or.mp h) (hl ▸ ih)

theorem lines_cons_plain (h : c ≠ '\n' ∧ c ≠ '\r') (hl : lines cs = l :: ls) :
    lines (c :: cs) = (c :: l) :: ls := by
  rw [lines.eq_3 _ _ fun _ hr => absurd hr h.2, if_neg (not_or.mpr h), hl]

theorem lines_of_plain (hbody : Plain body) (hne : body ≠ []) : lines body = [body] := by
  induction body with
  | nil => exact absurd rfl hne
  | cons c body ih =>
    obtain ⟨hc, hbody⟩ := plain_cons.mp hbody
    cases body with
    | nil => simp [lines]
    | cons d body => exact lines_cons_plain hc (ih hbody (List.cons_ne_nil _ _))

theorem lines_stop (hstop : stop ∈ terminators) (hpair : stop = ['\r'] → rest.head? ≠ some '\n') :
    lines (stop ++ rest) = stop :: lines rest := by
  simp only [terminators, List.mem_cons, List.not_mem_nil, or_false] at hstop
  rcases hstop with rfl | rfl | rfl
  · exact lines.eq_3 '\n' rest (fun _ h => absurd h (by decide))
  · rfl
  · exact lines.eq_3 '\r' rest (fun _ _ h => hpair rfl (by rw [h, List.head?_cons]))

theorem lines_append (hbody : Plain body) (hstop : stop ∈ terminators)
    (hpair : stop = ['\r'] → rest.head? ≠ some '\n') :
    lines (body ++ (stop ++ rest)) = (body ++ stop) :: lines rest := by
  induction body with
  | nil => exact lines_stop hstop hpair
  | cons c body ih =>
    obtain ⟨hc, hbody⟩ := plain_cons.mp hbody
    exact lines_cons_plain hc (ih hbody)

/-- There is one way to cut a text into lines. -/
theorem cut_iff : Cut cs pieces ↔ lines cs = pieces := by
  constructor
  · intro h
    induction h with
    | nil => rfl
    | last hbody hne => exact lines_of_plain hbody hne
    | line hbody hstop hpair _ ih => rw [lines_append hbody hstop hpair, ih]
  · rintro rfl
    exact cut_lines cs

/-- A piece of a text would not be cut again: what ends it is whole. -/
theorem cut_of_mem (h : Cut cs pieces) (hl : l ∈ pieces) : Cut l [l] := by
  induction h with
  | nil => exact absurd hl List.not_mem_nil
  | last hbody hne =>
    obtain rfl := List.mem_singleton.mp hl
    exact .last hbody hne
  | @line body stop _ _ hbody hstop hpair _ ih =>
    rcases List.mem_cons.mp hl with rfl | hl
    · have hnothing : stop = ['\r'] → ([] : List Char).head? ≠ some '\n' := by
        intro _ h
        cases h
      have hcut := Cut.line hbody hstop hnothing .nil
      rwa [List.append_nil] at hcut
    · exact ih hl

theorem lines_of_mem (h : l ∈ lines cs) : lines l = [l] := cut_iff.mp (cut_of_mem (cut_lines cs) h)

end Cut

/-- How many characters stand before the line that `locate` ends in. -/
def startOf : Nat → List (List Char) → Nat
  | _, [] => 0
  | cursor, l :: ls =>
    if cursor ≤ l.length ∨ ls = [] then 0 else l.length + startOf (cursor - l.length) ls

section Locate
variable {cursor : Nat} {ls : List (List Char)}

/-- What is located is one of the lines, and the cursor lies behind everything before it. -/
theorem exists_piece (last : List Char) (cursor : Nat) (hls : ls ≠ []) :
    ∃ before after, ls = before ++ (locate last cursor ls).1 :: after ∧
      startOf cursor ls = before.flatten.length ∧
      (before = [] ∨ before.flatten.length < cursor) := by
  induction ls generalizing cursor last with
  | nil => exact absurd rfl hls
  | cons l ls ih =>
    by_cases hin : cursor ≤ l.length
    · exact ⟨[], ls, by simp [locate, hin], by simp [startOf, hin], Or.inl rfl⟩
    · cases ls with
      | nil => exact ⟨[], [], by simp [locate, hin], by simp [startOf], Or.inl rfl⟩
      | cons k ls =>
        obtain ⟨before, after, hls, hstart, hbefore⟩ :=
          ih l (cursor - l.length) (List.cons_ne_nil _ _)
        refine ⟨l :: before, after, ?_, ?_, Or.inr ?_⟩
        · rw [locate, if_neg hin, List.cons_append, ← hls]
        · rw [startOf, if_neg (by simp [hin]), hstart, List.flatten_cons, List.length_append]
        · rw [List.flatten_cons, List.length_append]
          rcases hbefore with rfl | hlt
          · simpa using hin
          · omega

theorem mem_of_locate (last : List Char) (cursor : Nat) (hls : ls ≠ []) :
    (locate last cursor ls).1 ∈ ls := by
  obtain ⟨before, after, hpieces, _⟩ := exists_piece last cursor hls
  have hmem : (locate last cursor ls).1 ∈ before ++ (locate last cursor ls).1 :: after := by simp
  rwa [← hpieces] at hmem

theorem locate_le_cursor (last : List Char) (cursor : Nat) (ls : List (List Char)) :
    (locate last cursor ls).2 ≤ cursor := by
  fun_induction locate last cursor ls with
  | case1 => exact Nat.min_le_left ..
  | case2 => exact Nat.le_refl _
  | case3 _ _ _ _ _ ih => exact Nat.le_trans ih (Nat.sub_le ..)

/-- A cursor inside the text is at its own position. -/
theorem startOf_add_offset (last : List Char) (h : cursor ≤ ls.flatten.length) :
    startOf cursor ls + (locate last cursor ls).2 = cursor := by
  induction ls generalizing cursor last with
  | nil =>
    have hzero : cursor = 0 := by simpa using h
    simp [startOf, locate, hzero]
  | cons l ls ih =>
    rw [List.flatten_cons, List.length_append] at h
    by_cases hin : cursor ≤ l.length
    · simp [startOf, locate, hin]
    · have hls : ls ≠ [] := by
        rintro rfl
        simp only [List.flatten_nil, List.length_nil] at h
        omega
      have hin' : cursor - l.length ≤ ls.flatten.length := by omega
      have hrest := ih l hin'
      rw [startOf, locate, if_neg (by simp [hin, hls]), if_neg hin]
      omega

/-- Past the end every line has been taken off, the last one too. -/
theorem locate_past_end {k : Nat} (last : List Char) (hk : 0 < k) (ls : List (List Char)) :
    locate last (ls.flatten.length + k) ls =
      (ls.getLastD last, min k (ls.getLastD last).length) := by
  induction ls generalizing last with
  | nil => simp [locate]
  | cons l ls ih =>
    have hout : ¬l.length + ls.flatten.length + k ≤ l.length := by omega
    have hrest : l.length + ls.flatten.length + k - l.length = ls.flatten.length + k := by omega
    rw [List.flatten_cons, List.length_append, locate, if_neg hout, hrest, ih, List.getLastD_cons]

theorem startOf_past_end {k : Nat} (hk : 0 < k) (ls : List (List Char)) :
    startOf (ls.flatten.length + k) ls + (ls.getLastD []).length = ls.flatten.length := by
  induction ls with
  | nil => rfl
  | cons l ls ih =>
    rw [List.flatten_cons, List.length_append]
    cases ls with
    | nil => simp [startOf]
    | cons m ls =>
      have hout : ¬(l.length + (m :: ls).flatten.length + k ≤ l.length ∨ m :: ls = []) := by
        simp only [List.cons_ne_nil, or_false]
        omega
      have hrest : l.length + (m :: ls).flatten.length + k - l.length =
          (m :: ls).flatten.length + k := by omega
      rw [List.getLastD_cons] at ih
      rw [startOf, if_neg hout, hrest, List.getLastD_cons, List.getLastD_cons, Nat.add_assoc, ih]

/-- The end of a text is the end of its last line, none of the lines being empty. -/
theorem locate_end (last : List Char) (hls : ls ≠ []) (hne : ∀ l ∈ ls, l ≠ []) :
    locate last ls.flatten.length ls = (ls.getLastD last, (ls.getLastD last).length) := by
  obtain ⟨before, after, hpieces, hstart, _⟩ :=
    exists_piece last ls.flatten.length hls
  have hposition := startOf_add_offset last (Nat.le_refl ls.flatten.length)
  have hle := locate_le_length last ls.flatten.length ls
  rcases hlocate : locate last ls.flatten.length ls with ⟨line, offset⟩
  rw [hstart] at hposition
  rw [hlocate] at hpieces hposition hle
  dsimp only at hpieces hposition hle
  have hlength : ls.flatten.length =
      before.flatten.length + (line.length + after.flatten.length) := by
    rw [hpieces, List.flatten_append, List.flatten_cons, List.length_append, List.length_append]
  have hafter : after = [] := by
    cases after with
    | nil => rfl
    | cons l after =>
      have hpos := List.length_pos_iff.mpr (hne l (by simp [hpieces]))
      rw [List.flatten_cons, List.length_append] at hlength
      omega
  have hoffset : offset = line.length := by
    rw [hafter, List.flatten_nil, List.length_nil] at hlength
    omega
  rw [hoffset, hpieces, hafter]
  simp

end Locate

section LineAt
variable {code : String} {cursor k : Nat}

def lastLine (code : String) : List Char := (lines code.toList).getLastD []

/-- Where in the whole code the projected cursor is. -/
def position (code : String) (cursor : Nat) : Nat :=
  startOf cursor (lines code.toList) + (lineAt code cursor).2

theorem length_flatten_lines (code : String) : (lines code.toList).flatten.length = code.length := by
  rw [flatten_lines, String.length_toList]

theorem lines_ne_nil (h : code ≠ "") : lines code.toList ≠ [] := by
  intro hnil
  have hcode : code.toList = [] := by rw [← flatten_lines code.toList, hnil, List.flatten_nil]
  exact h (String.toList_eq_nil_iff.mp hcode)

theorem lineAt_eq (code : String) (cursor : Nat) :
    lineAt code cursor = (String.ofList (locate [] cursor (lines code.toList)).1,
      (locate [] cursor (lines code.toList)).2) := rfl

theorem lineAt_length_add (code : String) (hk : 0 < k) :
    lineAt code (code.length + k) =
      (String.ofList (lastLine code), min k (lastLine code).length) := by
  rw [lineAt_eq, ← length_flatten_lines, locate_past_end [] hk]
  rfl

theorem lineAt_length (h : code ≠ "") :
    lineAt code code.length = (String.ofList (lastLine code), (lastLine code).length) := by
  rw [lineAt_eq, ← length_flatten_lines,
    locate_end [] (lines_ne_nil h) fun l hl => ne_nil_of_mem_lines hl]
  rfl

theorem lineAt_empty (cursor : Nat) : lineAt "" cursor = ("", 0) := by
  change (String.ofList [], min cursor 0) = ("", 0)
  rw [Nat.min_zero]

theorem lineAt_le_length (code : String) (cursor : Nat) :
    (lineAt code cursor).2 ≤ (lineAt code cursor).1.length := by
  rw [lineAt_eq, String.length_ofList]
  exact locate_le_length ..

theorem lineAt_le_cursor (code : String) (cursor : Nat) : (lineAt code cursor).2 ≤ cursor :=
  locate_le_cursor ..

/-- The line of a cursor is the whole code for its offset, also if the cursor is past the end. -/
theorem lineAt_lineAt (code : String) (cursor : Nat) :
    lineAt (lineAt code cursor).1 (lineAt code cursor).2 = lineAt code cursor := by
  by_cases hcode : code = ""
  · rw [hcode, lineAt_empty, lineAt_empty]
  · have hline := lines_of_mem (mem_of_locate [] cursor (lines_ne_nil hcode))
    have hle := locate_le_length [] cursor (lines code.toList)
    rw [lineAt_eq code cursor, lineAt_eq, String.toList_ofList, hline, locate, if_pos hle]

theorem position_of_le (h : cursor ≤ code.length) : position code cursor = cursor := by
  rw [← length_flatten_lines] at h
  exact startOf_add_offset [] h

theorem position_length_add (code : String) (hk : 0 < k) :
    position code (code.length + k) + (lastLine code).length =
      code.length + min k (lastLine code).length := by
  have hstart := startOf_past_end hk (lines code.toList)
  rw [length_flatten_lines] at hstart
  unfold position
  rw [lineAt_length_add code hk, Nat.add_right_comm]
  exact congrArg (· + _) hstart

/-- The projection steps back at the end of a code exactly if its last line has two characters. -/
theorem position_monotone_iff :
    (∀ a b, a ≤ b → position code a ≤ position code b) ↔ (lastLine code).length ≤ 1 := by
  constructor
  · intro h
    have hstep := h code.length (code.length + 1) (Nat.le_succ _)
    rw [position_of_le (Nat.le_refl _)] at hstep
    have hend := position_length_add code (k := 1) (by decide)
    omega
  · intro hshort a b hab
    -- with such a last line every cursor past the end is at the end
    have hpast : ∀ c, code.length < c → position code c = code.length := by
      intro c hc
      have hend := position_length_add code (k := c - code.length) (by omega)
      rw [Nat.add_sub_cancel' (Nat.le_of_lt hc)] at hend
      omega
    rcases Nat.lt_or_ge code.length b with hb | hb
    · rw [hpast b hb]
      rcases Nat.lt_or_ge code.length a with ha | ha
      · exact Nat.le_of_eq (hpast a ha)
      · rwa [position_of_le ha]
    · rwa [position_of_le hb, position_of_le (Nat.le_trans hab hb)]

/-- The character before a position in a piece is the one before that position in the whole. -/
theorem getElem?_in_piece {before after : List (List Char)} {piece : List Char} {offset : Nat}
    (hpos : 0 < offset) (hle : offset ≤ piece.length) :
    (before ++ piece :: after).flatten[before.flatten.length + offset - 1]? =
      piece[offset - 1]? := by
  rw [List.flatten_append, List.flatten_cons, Nat.add_sub_assoc hpos,
    List.getElem?_append_right (Nat.le_add_right ..), Nat.add_sub_cancel_left,
    List.getElem?_append_left (by omega)]

/-- A cursor inside a code is projected onto the line with the character before it, the first line
if there is none, and the offset leads back to the cursor. -/
theorem lineAt_inside (code : String) {cursor : Nat} (h : cursor ≤ code.length) :
    (code = "" → lineAt code cursor = ("", 0)) ∧
    (code ≠ "" → ∃ before piece after offset,
      (∀ pieces, Cut code.toList pieces ↔ before ++ piece :: after = pieces) ∧
      lineAt code cursor = (String.ofList piece, offset) ∧
      code = String.ofList before.flatten ++ String.ofList piece ++ String.ofList after.flatten ∧
      before.flatten.length + offset = cursor ∧ offset ≤ piece.length ∧
      (0 < cursor → before.flatten.length < cursor ∧
        piece[offset - 1]? = code.toList[cursor - 1]?) ∧
      (cursor = 0 → before = [] ∧ offset = 0)) := by
  refine ⟨fun hempty => by rw [hempty, lineAt_empty], fun hne => ?_⟩
  obtain ⟨before, after, hpieces, hstart, hbefore⟩ :=
    exists_piece [] cursor (lines_ne_nil hne)
  have hposition : position code cursor = cursor := position_of_le h
  have hle := locate_le_length [] cursor (lines code.toList)
  have hat := lineAt_eq code cursor
  unfold position at hposition
  rw [hat, hstart] at hposition
  rcases hlocate : locate [] cursor (lines code.toList) with ⟨piece, offset⟩
  rw [hlocate] at hpieces hposition hle hat
  dsimp only at hpieces hposition hle hat
  have hcode : (before ++ piece :: after).flatten = code.toList := by
    rw [← hpieces, flatten_lines]
  refine ⟨before, piece, after, offset, fun pieces => ?_, hat, ?_, hposition, hle, fun hpos => ?_,
    fun hzero => ?_⟩
  · rw [cut_iff, hpieces]
  · rw [← String.ofList_append, ← String.ofList_append, List.append_assoc, ← List.flatten_cons,
      ← List.flatten_append, hcode, String.ofList_toList]
  · have hlt : before.flatten.length < cursor := by
      rcases hbefore with rfl | hlt
      · exact hpos
      · exact hlt
    refine ⟨hlt, ?_⟩
    rw [← hcode, ← hposition, getElem?_in_piece (by omega) hle]
  · subst hzero
    rcases hbefore with rfl | hlt
    · exact ⟨rfl, by simpa using hposition⟩
    · exact absurd hlt (Nat.not_lt_zero _)

/-- Between the characters of a pair the cursor belongs to the line that the pair ends. -/
theorem lineAt_inside_pair :
    2 ≤ "a\r\nb".length ∧ "a\r\nb" ≠ "" ∧ ∃ before piece after offset,
      (∀ pieces, Cut "a\r\nb".toList pieces ↔ before ++ piece :: after = pieces) ∧
      lineAt "a\r\nb" 2 = (String.ofList piece, offset) ∧
      before.flatten.length + offset = 2 ∧ offset ≤ piece.length := by
  have hle : 2 ≤ "a\r\nb".length := by decide
  have hne : "a\r\nb" ≠ "" := by decide
  obtain ⟨before, piece, after, offset, hcut, hat, _, hposition, hoffset, _⟩ :=
    (lineAt_inside "a\r\nb" hle).2 hne
  exact ⟨hle, hne, before, piece, after, offset, hcut, hat, hposition, hoffset⟩

/-- Past the end the last line is located with as much of it as the cursor is past the end. That is
all of the last line, as at the end itself, only for cursors far enough past it, and the projected
position never goes back exactly if the last line has at most one character. -/
theorem lineAt_past_end (code : String) :
    (∀ pieces, Cut code.toList pieces → lastLine code = pieces.getLastD []) ∧
    (code = "" → ∀ cursor, lineAt code cursor = ("", 0)) ∧
    (code ≠ "" →
      lineAt code code.length = (String.ofList (lastLine code), (lastLine code).length)) ∧
    (∀ k, 0 < k →
      lineAt code (code.length + k) =
        (String.ofList (lastLine code), min k (lastLine code).length) ∧
      (lineAt code (code.length + k) =
        (String.ofList (lastLine code), (lastLine code).length) ↔ (lastLine code).length ≤ k)) ∧
    ((∀ a b, a ≤ b → position code a ≤ position code b) ↔ (lastLine code).length ≤ 1) := by
  refine ⟨fun pieces h => ?_, fun hempty cursor => by rw [hempty, lineAt_empty], lineAt_length,
    fun k hk => ⟨lineAt_length_add code hk, ?_⟩, position_monotone_iff⟩
  · rw [← cut_iff.mp h]
    rfl
  · rw [lineAt_length_add code hk]
    simp only [Prod.mk.injEq, true_and]
    omega

theorem lineAt_past_end_shortLine :
    0 < 2 ∧ "x\nab" ≠ "" ∧ lineAt "x\nab" 4 = lineAt "x\nab" 6 := by
  obtain ⟨_, _, hend, hpast, _⟩ := lineAt_past_end "x\nab"
  have hne : "x\nab" ≠ "" := by decide
  exact ⟨by decide, hne, (hend hne).trans ((hpast 2 (by decide)).2.mpr (by decide)).symm⟩

/-- One step past the end the cursor is not at the end of the last line, and behind where it was. -/
theorem not_always_clamped :
    ¬(∀ (code : String) (cursor : Nat), code.length < cursor →
        lineAt code cursor = (String.ofList (lastLine code), (lastLine code).length)) ∧
      ¬∀ (code : String) (a b : Nat), a ≤ b → position code a ≤ position code b := by
  constructor
  · intro h
    exact absurd (h "ab" 3 (by decide)) (by decide)
  · intro h
    exact absurd (h "ab" 2 3 (by decide)) (by decide)

end LineAt

end KernelBridge.Code
