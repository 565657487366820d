import KernelBridge.Code.Identifier
import KernelBridge.Proofs.Spans

/-! # Which tokens a cursor reads

Reading stops early, but nothing is lost: a cursor reads exactly the tokens that start before it and,
at the start of a line, the one that starts at it. `Reads` says of each kind of token what it does
to the names and the open calls.
-/
namespace KernelBridge.Code
open Token

/-- What one token does to the stacks, given whether it follows a dot. -/
inductive Reads : Stacks → Bool → Lexeme → Stacks → Prop
  | keyword {s : Stacks} {afterDot : Bool} {text : List Char} (h : text ∈ keywords) :
      Reads s afterDot (.name text) s
  | joined {last : DottedName} {names calls : List DottedName} {text : List Char}
      (h : text ∉ keywords) :
      Reads ⟨last :: names, calls⟩ true (.name text) ⟨(last ++ [text]) :: names, calls⟩
  | name {names calls : List DottedName} {afterDot : Bool} {text : List Char}
      (h : text ∉ keywords) (hfirst : afterDot = false ∨ names = []) :
      Reads ⟨names, calls⟩ afterDot (.name text) ⟨[text] :: names, calls⟩
  | assign {names calls : List DottedName} {afterDot : Bool} :
      Reads ⟨names, calls⟩ afterDot (.op ['=']) ⟨names.tail, calls⟩
  | call {last : DottedName} {names calls : List DottedName} {afterDot : Bool} :
      Reads ⟨last :: names, calls⟩ afterDot (.op ['(']) ⟨last :: names, last :: calls⟩
  | callOfNothing {calls : List DottedName} {afterDot : Bool} :
      Reads ⟨[], calls⟩ afterDot (.op ['(']) ⟨[], calls⟩
  | close {names calls : List DottedName} {afterDot : Bool} :
      Reads ⟨names, calls⟩ afterDot (.op [')']) ⟨names, calls.tail⟩
  | op {s : Stacks} {afterDot : Bool} {text : List Char} (h : text ∉ [['='], ['('], [')']]) :
      Reads s afterDot (.op text) s
  | newline {s : Stacks} {afterDot : Bool} : Reads s afterDot .newline s
  | other {s : Stacks} {afterDot : Bool} : Reads s afterDot .other s

/-- Token after token; a name is an attribute if the token before it is a dot. -/
inductive ReadsAll : Stacks → Bool → List Token → Stacks → Prop
  | nil {s : Stacks} {afterDot : Bool} : ReadsAll s afterDot [] s
  | cons {s r q : Stacks} {afterDot : Bool} {t : Token} {ts : List Token}
      (ht : Reads s afterDot t.lexeme r) (hts : ReadsAll r (isDot t.lexeme) ts q) :
      ReadsAll s afterDot (t :: ts) q

/-- Reads all of some tokens. -/
def readAll : Stacks → Bool → List Token → Stacks
  | s, _, [] => s
  | s, afterDot, t :: ts => readAll (s.read afterDot t.lexeme) (isDot t.lexeme) ts

section Reads
variable {s r : Stacks} {afterDot : Bool} {lexeme : Lexeme} {ts : List Token}

theorem reads_read (s : Stacks) (afterDot : Bool) (lexeme : Lexeme) :
    Reads s afterDot lexeme (s.read afterDot lexeme) := by
  obtain ⟨names, calls⟩ := s
  cases lexeme with
  | name text =>
    by_cases hk : text ∈ keywords
    · have hread : Stacks.read ⟨names, calls⟩ afterDot (.name text) = ⟨names, calls⟩ := by
        simp [Stacks.read, hk]
      rw [hread]
      exact .keyword hk
    · have hread : Stacks.read ⟨names, calls⟩ afterDot (.name text) =
          Stacks.readName ⟨names, calls⟩ afterDot text := by simp [Stacks.read, hk]
      rw [hread]
      cases names with
      | nil => exact .name hk (Or.inr rfl)
      | cons last names =>
        cases afterDot with
        | false => exact .name hk (Or.inl rfl)
        | true => exact .joined hk
  | op text =>
    unfold Stacks.read Stacks.readOp
    dsimp only
    split
    · next h => exact h ▸ .assign
    · split
      · next h =>
        cases names with
        | nil => exact h ▸ .callOfNothing
        | cons last names => exact h ▸ .call
      · split
        · next h => exact h ▸ .close
        · next ha hc hp => exact .op (by simp [ha, hc, hp])
  | newline => exact .newline
  | other => exact .other

theorem Reads.eq_read (h : Reads s afterDot lexeme r) : s.read afterDot lexeme = r := by
  cases h with
  | keyword h => simp [Stacks.read, h]
  | joined h => simp [Stacks.read, Stacks.readName, h]
  | name h hfirst =>
    rcases hfirst with rfl | rfl <;> simp [Stacks.read, Stacks.readName, h]
  | op h =>
    simp only [List.mem_cons, List.not_mem_nil, or_false, not_or] at h
    simp [Stacks.read, Stacks.readOp, h]
  | assign | call | callOfNothing | close | newline | other => rfl

theorem readsAll_iff : ReadsAll s afterDot ts r ↔ readAll s afterDot ts = r := by
  constructor
  · intro h
    induction h with
    | nil => rfl
    | cons ht _ ih => rw [readAll, ht.eq_read, ih]
  · rintro rfl
    induction ts generalizing s afterDot with
    | nil => exact .nil
    | cons t ts ih => exact .cons (reads_read s afterDot t.lexeme) ih

end Reads

/-- What is answered: the innermost open call, without one the last name, and without any name nothing.
The parts of a name are joined by dots. -/
inductive Answers : Stacks → String → Prop
  | call {names calls : List DottedName} {d : DottedName} :
      Answers ⟨names, d :: calls⟩ (String.ofList (['.'].intercalate d))
  | name {names : List DottedName} {d : DottedName} :
      Answers ⟨d :: names, []⟩ (String.ofList (['.'].intercalate d))
  | nothing : Answers ⟨[], []⟩ ""

theorem answers_answer (s : Stacks) : Answers s (String.ofList s.answer) := by
  obtain ⟨names, calls⟩ := s
  cases calls with
  | cons d calls => exact .call
  | nil =>
    cases names with
    | cons d names => exact .name
    | nil => exact .nothing

/-- Where a line starts: at the first position, or where a token that ends a line stops. -/
def StartsLine (first : Nat) (ts : List Token) (pos : Nat) : Prop :=
  pos = first ∨ ∃ t ∈ ts, t.lexeme = .newline ∧ t.stop = pos

instance (first : Nat) (ts : List Token) (pos : Nat) : Decidable (StartsLine first ts pos) :=
  inferInstanceAs (Decidable (pos = first ∨ ∃ t ∈ ts, t.lexeme = .newline ∧ t.stop = pos))

/-- Whether a cursor reads a token. -/
def Counts (first : Nat) (ts : List Token) (cursor : Nat) (t : Token) : Prop :=
  t.start < cursor ∨ t.start = cursor ∧ StartsLine first ts cursor

instance (first : Nat) (ts : List Token) (cursor : Nat) (t : Token) :
    Decidable (Counts first ts cursor t) :=
  inferInstanceAs (Decidable (t.start < cursor ∨ t.start = cursor ∧ StartsLine first ts cursor))

def counted (first : Nat) (ts : List Token) (cursor : Nat) : List Token :=
  ts.filter fun t => Counts first ts cursor t

section Counted
variable {first cursor pos : Nat} {t u : Token} {ts us : List Token} {s : Stacks} {afterDot : Bool}

theorem not_counts_of_lt (h : cursor < t.start) : ¬Counts first ts cursor t := by
  rintro (hlt | ⟨heq, _⟩) <;> omega

theorem counted_eq_nil (h : ∀ u ∈ us, cursor < u.start) :
    us.filter (fun u => Counts first ts cursor u) = [] := by
  rw [List.filter_eq_nil_iff]
  intro u hu
  simpa using not_counts_of_lt (h u hu)

/-- Where the line starts once a token is read. -/
def lineAfter (first : Nat) (t : Token) : Nat := if t.lexeme = .newline then t.stop else first

theorem lineAfter_le (hstart : first ≤ t.start) (hlength : t.start < t.stop) :
    lineAfter first t ≤ t.stop := by
  unfold lineAfter
  split <;> omega

theorem cursor_le_boundary (cursor first : Nat) (t : Token) : cursor ≤ boundary cursor first t := by
  unfold boundary
  split <;> omega

/-- Behind a token the line starts that are left are those of the tokens behind it, and its own. -/
theorem startsLine_cons (hstart : first ≤ t.start) (hlength : t.start < t.stop)
    (hpos : t.stop ≤ pos) : StartsLine first (t :: ts) pos ↔ StartsLine (lineAfter first t) ts pos := by
  have hfirst : pos ≠ first := by omega
  unfold StartsLine lineAfter
  simp only [List.mem_cons, exists_eq_or_imp, hfirst, false_or]
  refine or_congr_left ?_
  by_cases hn : t.lexeme = .newline
  · simp [hn, eq_comm]
  · simp [hn, hfirst]

/-- The tokens from the first one on start lines only behind it. -/
theorem startsLine_head (h : Spaced first (t :: ts)) :
    StartsLine first (t :: ts) t.start ↔ t.start = first := by
  refine or_iff_left ?_
  rintro ⟨u, hu, _, hstop⟩
  cases h with
  | cons hstart hlength h =>
    rcases List.mem_cons.mp hu with rfl | hu
    · omega
    · have hmem := h.of_mem hu
      omega

/-- A token that a cursor does not read starts at the cursor or behind it, and only at the cursor if
no line starts there. -/
theorem counts_head_iff (h : Spaced first (t :: ts)) :
    Counts first (t :: ts) cursor t ↔ t.start < boundary cursor first t := by
  have hline : t.start = cursor → (StartsLine first (t :: ts) cursor ↔ cursor = first) := by
    rintro rfl
    exact startsLine_head h
  unfold Counts boundary
  by_cases heq : t.start = cursor
  · rw [hline heq, heq]
    split <;> omega
  · simp only [heq, false_and, or_false]
    split <;> omega

theorem counted_cons (h : Spaced first (t :: ts)) :
    counted first (t :: ts) cursor =
      if t.start < boundary cursor first t then t :: counted (lineAfter first t) ts cursor else [] := by
  have hhead : Counts first (t :: ts) cursor t ↔ t.start < boundary cursor first t :=
    counts_head_iff h
  cases h with
  | cons hstart hlength h =>
    unfold counted
    split
    · next hcounts =>
      rw [List.filter_cons_of_pos (by simpa using hhead.mpr hcounts)]
      refine congrArg (t :: ·) (List.filter_congr fun u hu => ?_)
      have hmem := h.of_mem hu
      rw [decide_eq_decide]
      unfold Counts
      by_cases hlt : u.start < cursor
      · simp [hlt]
      · refine or_congr_right (and_congr_right fun heq => ?_)
        exact startsLine_cons hstart hlength (by omega)
    · next hcounts =>
      refine List.filter_eq_nil_iff.mpr fun u hu => ?_
      rw [decide_eq_true_eq]
      rcases List.mem_cons.mp hu with rfl | hu
      · exact fun hu => hcounts (hhead.mp hu)
      · have hmem := h.of_mem hu
        have hle := cursor_le_boundary cursor first t
        exact not_counts_of_lt (by omega)

/-- Reading with early stops is reading all that counts. -/
theorem readUpTo_eq (h : Spaced first ts) :
    readUpTo cursor first afterDot s ts = readAll s afterDot (counted first ts cursor) := by
  induction ts generalizing first afterDot s with
  | nil => rfl
  | cons t ts ih =>
    rw [counted_cons h, readUpTo]
    by_cases hcounts : t.start < boundary cursor first t
    · rw [if_neg (Nat.not_le.mpr hcounts), if_pos hcounts, readAll]
      cases h with
      | cons hstart hlength h =>
        dsimp only
        split
        · next hstop =>
          have hnone : counted (lineAfter first t) ts cursor = [] := by
            refine counted_eq_nil fun u hu => ?_
            have hmem := h.of_mem hu
            omega
          rw [hnone, readAll]
        · exact ih (h.mono (lineAfter_le hstart hlength))
    · rw [if_pos (Nat.not_lt.mp hcounts), if_neg hcounts, readAll]

theorem identifierAt_eq (code : String) (cursor : Nat) :
    identifierAt code cursor =
      String.ofList (readAll .empty false (counted 0 (lex code.toList) cursor)).answer := by
  rw [identifierAt, readUpTo_eq (spaced_lex _)]

/-- Between the starts of a token and of the next one the same tokens count, unless a line starts
there. -/
theorem counted_between (h : Spaced first (ts ++ t :: u :: us)) (ht : t.lexeme ≠ .newline)
    (hstart : t.start < cursor) (hnext : cursor ≤ u.start) :
    counted first (ts ++ t :: u :: us) cursor = ts ++ [t] := by
  induction ts generalizing first with
  | nil =>
    have hcounts := Nat.lt_of_lt_of_le hstart (cursor_le_boundary cursor first t)
    rw [List.nil_append, counted_cons h, if_pos hcounts]
    cases h with
    | cons hfirst hlength h =>
      have hline : lineAfter first t = first := if_neg ht
      have hu : boundary cursor first u = cursor := if_neg (by omega)
      rw [counted_cons (h.mono (lineAfter_le hfirst hlength)), hline, hu,
        if_neg (Nat.not_lt.mpr hnext), List.nil_append]
  | cons v ts ih =>
    rw [List.cons_append] at h ⊢
    have hcounts : v.start < boundary cursor first v := by
      have hle := cursor_le_boundary cursor first v
      cases h with
      | cons _ hlength h =>
        have hmem := h.of_mem (t := t) (by simp)
        omega
    rw [counted_cons h, if_pos hcounts]
    cases h with
    | cons hfirst hlength h => rw [ih (h.mono (lineAfter_le hfirst hlength)), List.cons_append]

theorem counted_prefix_tokens (h : Spaced first ts) : counted first ts cursor <+: ts := by
  induction ts generalizing first with
  | nil => exact List.prefix_rfl
  | cons t ts ih =>
    rw [counted_cons h]
    split
    · cases h with
      | cons hstart hlength h =>
        exact (List.prefix_cons_inj t).mpr (ih (h.mono (lineAfter_le hstart hlength)))
    · exact List.nil_prefix

/-- A cursor on a token reads up to and with that token. -/
theorem counted_on (h : Spaced first (ts ++ t :: us)) (ht : t.lexeme ≠ .newline)
    (hstart : t.start < cursor) (hstop : cursor ≤ t.stop) :
    counted first (ts ++ t :: us) cursor = ts ++ [t] := by
  obtain ⟨middle, _, hbefore, hafter⟩ := h.split
  cases hafter with
  | cons hmiddle hlength hrest =>
    cases us with
    | nil =>
      refine List.filter_eq_self.mpr fun u hu => decide_eq_true (Or.inl ?_)
      rcases List.mem_append.mp hu with hu | hu
      · have hmem := hbefore u hu
        omega
      · obtain rfl := List.mem_singleton.mp hu
        exact hstart
    | cons u us =>
      cases hrest with
      | cons hnext _ _ => exact counted_between h ht hstart (Nat.le_trans hstop hnext)

theorem counted_past_end {code : List Char} (h : code.length ≤ cursor) :
    counted 0 (lex code) cursor = lex code := by
  refine List.filter_eq_self.mpr fun t ht => ?_
  have hlt := start_lt_of_mem_lex ht
  exact decide_eq_true (Or.inl (by omega))

/-- The identifier under a cursor answers what reading exactly the tokens that count leaves, so it
stays the same from behind the start of a token to the start of the next one, where no line starts,
and from the end of the code on. -/
theorem identifierAt_reads_counted (code : String) :
    (∀ cursor, ∃ s, Answers s (identifierAt code cursor) ∧
      ∀ r, ReadsAll .empty false (counted 0 (lex code.toList) cursor) r ↔ s = r) ∧
    (∀ before t u after, lex code.toList = before ++ t :: u :: after → t.lexeme ≠ .newline →
      ∀ c d, t.start < c → c ≤ u.start → t.start < d → d ≤ u.start →
        identifierAt code c = identifierAt code d) ∧
    ∀ cursor, code.length ≤ cursor → identifierAt code cursor = identifierAt code code.length := by
  refine ⟨fun cursor => ?_, ?_, ?_⟩
  · refine ⟨readAll .empty false (counted 0 (lex code.toList) cursor), ?_, fun r => readsAll_iff⟩
    rw [identifierAt_eq]
    exact answers_answer _
  · intro before t u after htokens ht c d hc hcu hd hdu
    have hspaced := spaced_lex code.toList
    rw [htokens] at hspaced
    rw [identifierAt_eq, identifierAt_eq, htokens, counted_between hspaced ht hc hcu,
      counted_between hspaced ht hd hdu]
  · intro cursor h
    have hend : code.toList.length ≤ code.length := Nat.le_of_eq String.length_toList
    rw [identifierAt_eq, identifierAt_eq, counted_past_end (Nat.le_trans hend h),
      counted_past_end hend]

/-- From behind the dot to the parenthesis the name with its attribute is answered, and past the end
the call. -/
theorem identifierAt_reads_counted_call :
    lex "os.path(".toList = [⟨.name ['o', 's'], 0, 2⟩, ⟨.op ['.'], 2, 3⟩] ++
      ⟨.name ['p', 'a', 't', 'h'], 3, 7⟩ :: ⟨.op ['('], 7, 8⟩ :: [] ∧
    identifierAt "os.path(" 4 = identifierAt "os.path(" 7 ∧
    identifierAt "os.path(" 100 = identifierAt "os.path(" 8 := by
  have htokens : lex "os.path(".toList = [⟨.name ['o', 's'], 0, 2⟩, ⟨.op ['.'], 2, 3⟩] ++
      ⟨.name ['p', 'a', 't', 'h'], 3, 7⟩ :: ⟨.op ['('], 7, 8⟩ :: [] := by decide
  obtain ⟨_, hbetween, hpast⟩ := identifierAt_reads_counted "os.path("
  exact ⟨htokens, hbetween _ _ _ _ htokens (by decide) 4 7 (by decide) (by decide) (by decide)
    (by decide), hpast 100 (by decide)⟩

end Counted

end KernelBridge.Code
