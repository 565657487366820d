import KernelBridge.Proofs.Reading
import KernelBridge.Proofs.Scanning
import Mathlib.Data.List.Infix

/-! # How an answer is spelled in the code

Reading puts a name behind a dot onto the last name it knows, whatever stands before the dot. So the
parts of an answer stand in the code in order, each further part right behind a dot: `Spells`. They
stand there without a gap if every dot before a name is also behind one.
-/
namespace KernelBridge.Code
open Token

/-- A name that is no keyword. -/
def IsName (lexeme : Lexeme) : Prop := ∃ text, text ∉ keywords ∧ lexeme = .name text

def dot : Lexeme := .op ['.']

/-- Lexemes up to the last part of a dotted name. Before the dot of a part there may be lexemes that
do not belong to the name, but the one right before the dot is no other name. -/
inductive Spells : List Lexeme → DottedName → Prop
  | name {before : List Lexeme} {text : List Char} (h : text ∉ keywords) :
      Spells (before ++ [.name text]) [text]
  | joined {read gap : List Lexeme} {d : DottedName} {text : List Char} (hd : Spells read d)
      (hgap : ∀ u, gap.getLast? = some u → ¬IsName u) (h : text ∉ keywords) :
      Spells (read ++ gap ++ [dot, .name text]) (d ++ [text])

/-- The lexemes of a dotted name without anything between. -/
def spelling (d : DottedName) : List Lexeme := (d.map Lexeme.name).intersperse dot

/-- Every dot right before a name stands right behind one. -/
def DotsFollowNames (ls : List Lexeme) : Prop :=
  ∀ before text after, ls = before ++ dot :: .name text :: after → text ∉ keywords →
    ∃ u, before.getLast? = some u ∧ IsName u

section Spells
variable {read ls : List Lexeme} {d : DottedName} {text : List Char} {u : Lexeme}

theorem Spells.getLast? (h : Spells read d) : ∃ text, read.getLast? = some (.name text) := by
  cases h with
  | name => exact ⟨_, List.getLast?_concat⟩
  | @joined read gap d text => exact ⟨text, by simp⟩

theorem Spells.ne_nil (h : Spells read d) : d ≠ [] := by
  cases h with
  | name => exact List.cons_ne_nil _ _
  | joined => simp

theorem Spells.name_mem (h : Spells read d) {part : List Char} (hpart : part ∈ d) :
    .name part ∈ read := by
  induction h with
  | name =>
    obtain rfl := List.mem_singleton.mp hpart
    simp
  | joined _ _ _ ih =>
    rcases List.mem_append.mp hpart with hpart | hpart
    · exact List.mem_append_left _ (List.mem_append_left _ (ih hpart))
    · obtain rfl := List.mem_singleton.mp hpart
      simp

theorem Spells.not_keyword (h : Spells read d) {part : List Char} (hpart : part ∈ d) :
    part ∉ keywords := by
  induction h with
  | name ht =>
    obtain rfl := List.mem_singleton.mp hpart
    exact ht
  | joined _ _ ht ih =>
    rcases List.mem_append.mp hpart with hpart | hpart
    · exact ih hpart
    · obtain rfl := List.mem_singleton.mp hpart
      exact ht

theorem spelling_append (hd : d ≠ []) (text : List Char) :
    spelling (d ++ [text]) = spelling d ++ [dot, .name text] := by
  induction d with
  | nil => exact absurd rfl hd
  | cons part d ih =>
    cases d with
    | nil => rfl
    | cons next d =>
      have hrest := ih (List.cons_ne_nil _ _)
      unfold spelling at hrest ⊢
      simp only [List.cons_append, List.map_cons, List.intersperse_cons_cons] at hrest ⊢
      rw [hrest]

theorem DotsFollowNames.restrict (h : DotsFollowNames ls) (hread : read <+: ls) :
    DotsFollowNames read := by
  obtain ⟨behind, rfl⟩ := hread
  rintro before text after rfl ht
  exact h before text (after ++ behind) (by simp) ht

/-- Where dots stand behind names nothing fits before the dot of a part. -/
theorem Spells.spelling_suffix (h : Spells read d) (hdots : DotsFollowNames read) :
    spelling d <:+ read := by
  induction h with
  | name => exact List.suffix_append _ _
  | @joined read gap d text hd hgap ht ih =>
    obtain ⟨u, hu, hname⟩ := hdots (read ++ gap) text [] rfl ht
    obtain rfl : gap = [] := by
      rcases List.eq_nil_or_concat gap with hnil | ⟨front, v, rfl⟩
      · exact hnil
      · have hv : v = u := by simpa using hu
        exact absurd hname (hgap u (by simp [hv]))
    rw [List.append_nil] at hdots ⊢
    obtain ⟨before, hbefore⟩ := ih (hdots.restrict (List.prefix_append _ _))
    rw [spelling_append hd.ne_nil, ← hbefore, List.append_assoc]
    exact List.suffix_append _ _

end Spells

/-- Where the names in the stacks come from, after some lexemes. The last name ends where they end
if that is a name, also with a dot behind it. -/
structure Sourced (read : List Lexeme) (s : Stacks) : Prop where
  spelled : ∀ d, d ∈ s.names ∨ d ∈ s.calls → ∃ before, before <+: read ∧ Spells before d
  recent : ∀ before u, read = before ∨ read = before ++ [dot] → before.getLast? = some u →
    IsName u → ∃ d names, s.names = d :: names ∧ Spells before d

section Sourced
variable {read : List Lexeme} {s r : Stacks} {afterDot : Bool} {lexeme : Lexeme} {ts : List Token}
  {d : DottedName} {names calls : List DottedName} {text : List Char}

theorem sourced_empty : Sourced [] .empty where
  spelled d hd := by simp [Stacks.empty] at hd
  recent before u hbefore hu := by
    rcases hbefore with rfl | hbefore
    · cases hu
    · simp at hbefore

/-- A lexeme that is no name only takes names away or copies them; a dot does not even that. -/
theorem Sourced.keep (h : Sourced read s) (hlexeme : ¬IsName lexeme)
    (hspelled : ∀ d, d ∈ r.names ∨ d ∈ r.calls → d ∈ s.names ∨ d ∈ s.calls)
    (hdot : lexeme = dot → r.names = s.names) : Sourced (read ++ [lexeme]) r where
  spelled d hd := by
    obtain ⟨before, hbefore, hd⟩ := h.spelled d (hspelled d hd)
    exact ⟨before, hbefore.trans (List.prefix_append _ _), hd⟩
  recent before u hbefore hu hname := by
    rcases hbefore with rfl | hbefore
    · rw [List.getLast?_concat] at hu
      exact absurd hname (Option.some.inj hu ▸ hlexeme)
    · obtain ⟨rfl, hsingle⟩ := List.append_inj' hbefore rfl
      rw [hdot (List.head_eq_of_cons_eq hsingle)]
      exact h.recent _ u (Or.inl rfl) hu hname

/-- A name goes on top of the others, and there it is the one that was just read. -/
theorem Sourced.push (h : Sourced read ⟨names, calls⟩) (hd : Spells (read ++ [.name text]) d)
    {rest : List DottedName} (hrest : rest ⊆ names) :
    Sourced (read ++ [.name text]) ⟨d :: rest, calls⟩ where
  spelled c hc := by
    have hcases : c = d ∨ c ∈ names ∨ c ∈ calls := by
      rcases hc with hc | hc
      · rcases List.mem_cons.mp hc with rfl | hc
        · exact Or.inl rfl
        · exact Or.inr (Or.inl (hrest hc))
      · exact Or.inr (Or.inr hc)
    rcases hcases with rfl | hc
    · exact ⟨_, List.prefix_rfl, hd⟩
    · obtain ⟨before, hbefore, hc⟩ := h.spelled c hc
      exact ⟨before, hbefore.trans (List.prefix_append _ _), hc⟩
  recent before u hbefore hu hname := by
    rcases hbefore with rfl | hbefore
    · exact ⟨d, rest, rfl, hd⟩
    · obtain ⟨_, hsingle⟩ := List.append_inj' hbefore rfl
      cases List.head_eq_of_cons_eq hsingle

/-- Behind a dot the last name goes on, be it right before the dot or farther away. -/
theorem Sourced.spells_joined (h : Sourced (read ++ [dot]) ⟨d :: names, calls⟩)
    (ht : text ∉ keywords) : Spells (read ++ [dot] ++ [.name text]) (d ++ [text]) := by
  have hassoc : ∀ before gap : List Lexeme, before ++ gap = read →
      before ++ gap ++ [dot, .name text] = read ++ [dot] ++ [.name text] := by
    rintro before gap rfl
    simp
  by_cases hname : ∃ u, read.getLast? = some u ∧ IsName u
  · obtain ⟨u, hu, hname⟩ := hname
    obtain ⟨c, rest, hnames, hc⟩ := h.recent read u (Or.inr rfl) hu hname
    obtain ⟨rfl, rfl⟩ := List.cons_eq_cons.mp hnames
    rw [← hassoc read [] (List.append_nil _)]
    exact .joined hc (fun _ hgap => absurd hgap (by simp)) ht
  · obtain ⟨before, hbefore, hd⟩ := h.spelled d (Or.inl List.mem_cons_self)
    obtain ⟨last, hlast⟩ := hd.getLast?
    have hinside : before <+: read := by
      rcases List.prefix_concat_iff.mp hbefore with rfl | hinside
      · rw [List.getLast?_concat] at hlast
        cases hlast
      · exact hinside
    obtain ⟨gap, rfl⟩ := hinside
    rw [← hassoc before gap rfl]
    refine .joined hd (fun u hu hu' => hname ⟨u, ?_, hu'⟩) ht
    rw [List.getLast?_append, hu]
    rfl

theorem Sourced.step (h : Sourced read s)
    (hdot : afterDot = true → ∃ before, read = before ++ [dot])
    (hr : Reads s afterDot lexeme r) : Sourced (read ++ [lexeme]) r := by
  have hop : ∀ text, ¬IsName (.op text) := fun _ ⟨_, _, he⟩ => by cases he
  cases hr with
  | keyword hk =>
    refine h.keep ?_ (fun _ hd => hd) fun _ => rfl
    rintro ⟨_, ht, he⟩
    cases he
    exact ht hk
  | joined ht =>
    obtain ⟨before, rfl⟩ := hdot rfl
    exact h.push (h.spells_joined ht) (List.subset_cons_self _ _)
  | name ht _ => exact h.push (.name ht) (List.Subset.refl _)
  | assign =>
    refine h.keep (hop _) (fun d hd => ?_) fun he => by cases he
    exact hd.imp_left List.mem_of_mem_tail
  | call =>
    refine h.keep (hop _) (fun d hd => ?_) fun he => by cases he
    rcases hd with hd | hd
    · exact Or.inl hd
    · rcases List.mem_cons.mp hd with rfl | hd
      · exact Or.inl List.mem_cons_self
      · exact Or.inr hd
  | callOfNothing => exact h.keep (hop _) (fun _ hd => hd) fun _ => rfl
  | close =>
    refine h.keep (hop _) (fun d hd => ?_) fun he => by cases he
    exact hd.imp_right List.mem_of_mem_tail
  | op _ => exact h.keep (hop _) (fun _ hd => hd) fun _ => rfl
  | newline => exact h.keep (fun ⟨_, _, he⟩ => by cases he) (fun _ hd => hd) fun _ => rfl
  | other => exact h.keep (fun ⟨_, _, he⟩ => by cases he) (fun _ hd => hd) fun _ => rfl

theorem Sourced.readAll (h : Sourced read s)
    (hdot : afterDot = true → ∃ before, read = before ++ [dot]) :
    Sourced (read ++ ts.map Token.lexeme) (readAll s afterDot ts) := by
  induction ts generalizing read s afterDot with
  | nil => simpa [KernelBridge.Code.readAll] using h
  | cons t ts ih =>
    have hstep := h.step hdot (reads_read s afterDot t.lexeme)
    have hnext : isDot t.lexeme = true → ∃ before, read ++ [t.lexeme] = before ++ [dot] := by
      intro ht
      exact ⟨read, by rw [eq_of_beq ht]; rfl⟩
    rw [List.map_cons, List.append_cons]
    exact ih hstep hnext

theorem sourced_readAll (ts : List Token) :
    Sourced (ts.map Token.lexeme) (KernelBridge.Code.readAll .empty false ts) := by
  have h : Sourced ([] ++ ts.map Token.lexeme) (KernelBridge.Code.readAll .empty false ts) :=
    sourced_empty.readAll fun h => by cases h
  rwa [List.nil_append] at h

end Sourced

def lexemes (code : String) : List Lexeme := (lex code.toList).map Token.lexeme

/-- The parts of an answer between its dots. An answer without any is one empty part. -/
def components (code : String) (cursor : Nat) : List (List Char) :=
  (identifierAt code cursor).toList.splitOn '.'

section Answer
variable {code : String} {cursor : Nat}

/-- The lexemes a cursor reads. -/
def readLexemes (code : String) (cursor : Nat) : List Lexeme :=
  (counted 0 (lex code.toList) cursor).map Token.lexeme

def stacksAt (code : String) (cursor : Nat) : Stacks :=
  readAll .empty false (counted 0 (lex code.toList) cursor)

theorem readLexemes_prefix_lexemes (code : String) (cursor : Nat) :
    readLexemes code cursor <+: lexemes code :=
  (counted_prefix_tokens (spaced_lex _)).map Token.lexeme

theorem sourced_stacksAt (code : String) (cursor : Nat) :
    Sourced (readLexemes code cursor) (stacksAt code cursor) := sourced_readAll _

theorem dot_not_mem_of_lexemes {text : List Char} (h : .name text ∈ lexemes code) : '.' ∉ text := by
  obtain ⟨t, ht, hname⟩ := List.mem_map.mp h
  exact dot_not_mem_of_name ht hname

/-- The name that is answered. -/
def Stacks.top (s : Stacks) : Option DottedName := s.calls.head?.or s.names.head?

theorem Stacks.answer_eq (s : Stacks) : s.answer = ['.'].intercalate (s.top.getD []) := rfl

theorem Stacks.mem_of_top {s : Stacks} {d : DottedName} (h : s.top = some d) :
    d ∈ s.names ∨ d ∈ s.calls := by
  rcases Option.or_eq_some_iff.mp h with hcall | ⟨_, hname⟩
  · exact Or.inr (List.mem_of_head? hcall)
  · exact Or.inl (List.mem_of_head? hname)

theorem components_eq (code : String) (cursor : Nat) :
    components code cursor =
      (['.'].intercalate ((stacksAt code cursor).top.getD [])).splitOn '.' := by
  rw [components, identifierAt_eq, String.toList_ofList]
  rfl

/-- An answer falls into the parts it was joined from, which have no dots. -/
theorem spells_of_top {d : DottedName} (h : (stacksAt code cursor).top = some d) :
    components code cursor = d ∧ ∃ read, read <+: lexemes code ∧ Spells read d := by
  obtain ⟨read, hread, hd⟩ := (sourced_stacksAt code cursor).spelled d (Stacks.mem_of_top h)
  have hcode := hread.trans (readLexemes_prefix_lexemes code cursor)
  have hfree : ∀ part ∈ d, '.' ∉ part := fun part hpart =>
    dot_not_mem_of_lexemes (hcode.subset (hd.name_mem hpart))
  refine ⟨?_, read, hcode, hd⟩
  rw [components_eq, h, Option.getD_some, List.splitOn_intercalate '.' hfree hd.ne_nil]

/-- The parts of an answer are names of the code, in order, and each but the first stands right
behind a dot. They stand next to each other if dots before names are behind names everywhere. -/
theorem attributes_follow_dots (code : String) (cursor : Nat)
    (h : 2 ≤ (components code cursor).length) :
    (∃ read, read <+: lexemes code ∧ Spells read (components code cursor)) ∧
      (DotsFollowNames (lexemes code) → spelling (components code cursor) <:+: lexemes code) := by
  cases htop : (stacksAt code cursor).top with
  | none =>
    rw [components_eq, htop] at h
    exact absurd h (by decide)
  | some d =>
    obtain ⟨rfl, read, hread, hd⟩ := spells_of_top htop
    refine ⟨⟨read, hread, hd⟩, fun hdots => ?_⟩
    exact (hd.spelling_suffix (hdots.restrict hread)).isInfix.trans hread.isInfix

/-- The name on the left of the assignment is forgotten, the others are spelled as they stand. -/
theorem attributes_follow_dots_assigned :
    2 ≤ (components "x = os.path" 11).length ∧ DotsFollowNames (lexemes "x = os.path") ∧
      spelling (components "x = os.path" 11) <:+: lexemes "x = os.path" := by
  have hlength : 2 ≤ (components "x = os.path" 11).length := by decide
  have hlexemes : lexemes "x = os.path" =
      [.name ['x'], .op ['='], .name ['o', 's'], dot, .name ['p', 'a', 't', 'h']] := by decide
  have hdots : DotsFollowNames (lexemes "x = os.path") := by
    intro before text after hcut _
    rw [hlexemes] at hcut
    refine ⟨.name ['o', 's'], ?_, ['o', 's'], by decide, rfl⟩
    -- the dot is the fourth lexeme
    match before with
    | [] | [_] | [_, _] | [_, _, _, _] | _ :: _ :: _ :: _ :: _ :: _ => simp [dot] at hcut
    | [_, _, last] =>
      simp only [List.cons_append, List.nil_append, List.cons.injEq] at hcut
      exact congrArg some hcut.2.2.1.symm
  exact ⟨hlength, hdots, (attributes_follow_dots "x = os.path" 11 hlength).2 hdots⟩

/-- The dot behind the closed call goes to the argument, which is the last name. -/
theorem not_always_spelled :
    ¬∀ (code : String) (cursor : Nat), 2 ≤ (components code cursor).length →
      spelling (components code cursor) <:+: lexemes code := by
  intro h
  exact absurd (h "f(x).y" 6 (by decide)) (by decide)

end Answer

end KernelBridge.Code
