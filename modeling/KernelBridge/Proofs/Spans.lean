import KernelBridge.Code.Token

/-! # Where tokens stand

The tokens of a code stand one behind the other, `Spaced`, each with at least one character, and all
of them start inside the code.
-/
namespace KernelBridge.Code.Token
variable {t u : Token} {ts us : List Token} {pos skip : Nat}

theorem stringLength_pos (quote : Char) (cs : List Char) : 0 < stringLength quote cs := by
  unfold stringLength
  split <;> exact Nat.succ_pos _

theorem opLength_pos (cs : List Char) : 0 < opLength cs := by
  unfold opLength
  split
  · decide
  · split <;> decide

theorem scanWord_length_pos {word : List Char} (h : word ≠ []) (rest : List Char) :
    0 < (scanWord word rest).2 := by
  have hpos := List.length_pos_iff.mpr h
  unfold scanWord
  split
  · split
    · exact Nat.add_pos_left hpos _
    · exact hpos
  · exact hpos

theorem scan_length_pos (c : Char) (cs : List Char) : 0 < (scan c cs).2 := by
  unfold scan
  repeat' split
  · decide
  · decide
  · exact Nat.succ_pos _
  · exact stringLength_pos c cs
  · exact scanWord_length_pos (List.cons_ne_nil _ _) _
  · exact Nat.succ_pos _
  · exact opLength_pos _

/-- Tokens from a position on, none of them empty and none before the end of the one before it. -/
inductive Spaced : Nat → List Token → Prop
  | nil {pos : Nat} : Spaced pos []
  | cons {pos : Nat} {t : Token} {ts : List Token} (hstart : pos ≤ t.start)
      (hlength : t.start < t.stop) (h : Spaced t.stop ts) : Spaced pos (t :: ts)

theorem Spaced.mono {before : Nat} (hle : before ≤ pos) (h : Spaced pos ts) : Spaced before ts := by
  cases h with
  | nil => exact .nil
  | cons hstart hlength h => exact .cons (Nat.le_trans hle hstart) hlength h

/-- Cutting the tokens in two leaves a position between the two parts. -/
theorem Spaced.split (h : Spaced pos (ts ++ us)) :
    ∃ middle, pos ≤ middle ∧ (∀ t ∈ ts, t.start < t.stop ∧ t.stop ≤ middle) ∧ Spaced middle us := by
  induction ts generalizing pos with
  | nil => exact ⟨pos, Nat.le_refl _, by simp, h⟩
  | cons t ts ih =>
    cases h with
    | cons hstart hlength h =>
      obtain ⟨middle, hmiddle, hbefore, hafter⟩ := ih h
      refine ⟨middle, by omega, ?_, hafter⟩
      intro u hu
      rcases List.mem_cons.mp hu with rfl | hu
      · exact ⟨hlength, hmiddle⟩
      · exact hbefore u hu

theorem Spaced.of_mem (h : Spaced pos ts) (ht : t ∈ ts) : pos ≤ t.start ∧ t.start < t.stop := by
  obtain ⟨before, after, rfl⟩ := List.append_of_mem ht
  obtain ⟨middle, hmiddle, _, hafter⟩ := h.split
  cases hafter with
  | cons hstart hlength _ => exact ⟨Nat.le_trans hmiddle hstart, hlength⟩

/-- What is left of a token that is being skipped belongs to no other. -/
theorem spaced_lexFrom (pos skip : Nat) (cs : List Char) :
    Spaced (pos + skip) (lexFrom pos skip cs) := by
  induction cs generalizing pos skip with
  | nil =>
    rw [lexFrom_nil]
    exact .nil
  | cons c cs ih =>
    cases skip with
    | succ skip =>
      have hpos : pos + (skip + 1) = pos + 1 + skip := by omega
      rw [hpos]
      exact ih (pos + 1) skip
    | zero =>
      rw [Nat.add_zero, lexFrom]
      split
      · exact (ih (pos + 1) 0).mono (Nat.le_succ pos)
      · have hlength := scan_length_pos c cs
        have hstop : pos + 1 + ((scan c cs).2 - 1) = pos + (scan c cs).2 := by omega
        exact .cons (Nat.le_refl pos) (Nat.lt_add_of_pos_right hlength) (hstop ▸ ih (pos + 1) _)

theorem spaced_lex (code : List Char) : Spaced 0 (lex code) := spaced_lexFrom 0 0 code

theorem start_lt_of_mem_lexFrom {cs : List Char} (h : t ∈ lexFrom pos skip cs) :
    t.start < pos + cs.length := by
  induction cs generalizing pos skip with
  | nil => simp at h
  | cons c cs ih =>
    rw [List.length_cons]
    cases skip with
    | succ skip =>
      have hlt : t.start < pos + 1 + cs.length := ih h
      omega
    | zero =>
      rw [lexFrom] at h
      split at h
      · have hlt := ih h
        omega
      · rcases List.mem_cons.mp h with rfl | h
        · dsimp only
          omega
        · have hlt := ih h
          omega

theorem start_lt_of_mem_lex {code : List Char} (h : t ∈ lex code) : t.start < code.length := by
  have hlt := start_lt_of_mem_lexFrom h
  rwa [Nat.zero_add] at hlt

end KernelBridge.Code.Token
