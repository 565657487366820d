import KernelBridge.Proofs.Spelling

/-! # Names inside parentheses

Every opening parenthesis is taken for a call of the last name that is remembered, whatever stands
before it. So a cursor on a name gets that name unless it is inside such a parenthesis; there it
gets a name that was remembered at one of the parentheses that are still open: `component_on_name`.
-/
namespace KernelBridge.Code
open Token

def opening : Lexeme := .op ['(']
def closing : Lexeme := .op [')']

/-- The opening parentheses that are not closed, each as the tokens before it, of tokens whose last
comes first. -/
def unclosedBackwards : List Token → List (List Token)
  | [] => []
  | t :: before =>
    if t.lexeme = opening then before.reverse :: unclosedBackwards before
    else if t.lexeme = closing then (unclosedBackwards before).tail
    else unclosedBackwards before

/-- The opening parentheses that are not closed, innermost first. A closing one closes the
innermost. -/
def unclosed (ts : List Token) : List (List Token) := unclosedBackwards ts.reverse

/-- The name that is last after some tokens. -/
def remembered (ts : List Token) : Option DottedName := (readAll .empty false ts).names.head?

section Unclosed
variable {ts us : List Token} {t : Token} {s : Stacks} {afterDot : Bool} {d : DottedName}
  {text : List Char}

theorem unclosed_concat (ts : List Token) (t : Token) :
    unclosed (ts ++ [t]) =
      if t.lexeme = opening then ts :: unclosed ts
      else if t.lexeme = closing then (unclosed ts).tail else unclosed ts := by
  unfold unclosed
  rw [List.reverse_append, List.reverse_singleton, List.singleton_append, unclosedBackwards,
    List.reverse_reverse]

theorem exists_readAll_append (s : Stacks) (afterDot : Bool) (ts us : List Token) :
    ∃ behindDot, readAll s afterDot (ts ++ us) = readAll (readAll s afterDot ts) behindDot us := by
  induction ts generalizing s afterDot with
  | nil => exact ⟨afterDot, rfl⟩
  | cons t ts ih => exact ih _ _

theorem exists_readAll_concat (ts : List Token) (t : Token) :
    ∃ behindDot, readAll .empty false (ts ++ [t]) =
      (readAll .empty false ts).read behindDot t.lexeme :=
  exists_readAll_append .empty false ts [t]

theorem sublist_tail_filterMap {α β : Type} {f : α → Option β} {l : List β} {xs : List α}
    (h : l.Sublist (xs.filterMap f)) : l.tail.Sublist (xs.tail.filterMap f) := by
  cases xs with
  | nil =>
    rw [List.filterMap_nil, List.sublist_nil] at h
    rw [h]
    exact List.nil_sublist _
  | cons x xs =>
    rw [List.filterMap_cons] at h
    cases hx : f x with
    | none => exact (List.tail_sublist l).trans (by simpa [hx] using h)
    | some y => exact (by simpa [hx] using h : l.Sublist (y :: xs.filterMap f)).tail

/-- The calls that are open belong to parentheses that are not closed, each to its own. -/
theorem calls_sublist_unclosed (ts : List Token) :
    (readAll .empty false ts).calls.Sublist ((unclosed ts).filterMap remembered) := by
  induction ts using List.reverseRecOn with
  | nil => exact List.nil_sublist _
  | append_singleton ts t ih =>
    obtain ⟨behindDot, hread⟩ := exists_readAll_concat ts t
    have hlast : remembered ts = (readAll .empty false ts).names.head? := rfl
    have hstep := reads_read (readAll .empty false ts) behindDot t.lexeme
    rw [hread, unclosed_concat]
    generalize readAll .empty false ts = s at ih hlast hstep ⊢
    generalize s.read behindDot t.lexeme = r at hstep ⊢
    generalize t.lexeme = lexeme at hstep ⊢
    cases hstep with
    | call =>
      rw [if_pos (show Lexeme.op ['('] = opening from rfl), List.filterMap_cons_some hlast]
      exact ih.cons_cons _
    | callOfNothing =>
      rw [if_pos (show Lexeme.op ['('] = opening from rfl), List.filterMap_cons_none hlast]
      exact ih
    | close =>
      rw [if_neg (by decide), if_pos (show Lexeme.op [')'] = closing from rfl)]
      exact sublist_tail_filterMap ih
    | @op _ _ text h =>
      have hopen : Lexeme.op text ≠ opening := by
        rintro ⟨⟩
        exact h (by decide)
      have hclose : Lexeme.op text ≠ closing := by
        rintro ⟨⟩
        exact h (by decide)
      rw [if_neg hopen, if_neg hclose]
      exact ih
    | keyword | joined | name | assign | newline | other =>
      rw [if_neg (by simp [opening]), if_neg (by simp [closing])]
      exact ih

/-- A name leaves the calls as they are and is the last part of the last name. -/
theorem read_name (s : Stacks) (afterDot : Bool) (ht : text ∉ keywords) :
    (s.read afterDot (.name text)).calls = s.calls ∧
      ∃ d, (s.read afterDot (.name text)).names.head? = some d ∧ d.getLast? = some text := by
  have hstep := reads_read s afterDot (.name text)
  generalize s.read afterDot (.name text) = r at hstep ⊢
  cases hstep with
  | keyword h => exact absurd h ht
  | joined => exact ⟨rfl, _, rfl, List.getLast?_concat⟩
  | name => exact ⟨rfl, _, rfl, rfl⟩

theorem calls_read_opening (s : Stacks) (afterDot : Bool) :
    (s.read afterDot opening).calls = s.names.head?.toList ++ s.calls := rfl

/-- Between parentheses nothing happens to the calls. -/
theorem calls_readAll (hts : ∀ t ∈ ts, t.lexeme ≠ opening ∧ t.lexeme ≠ closing) :
    (readAll s afterDot ts).calls = s.calls := by
  induction ts generalizing s afterDot with
  | nil => rfl
  | cons t ts ih =>
    obtain ⟨hopen, hclose⟩ := hts t List.mem_cons_self
    have hcalls : (s.read afterDot t.lexeme).calls = s.calls := by
      have hstep := reads_read s afterDot t.lexeme
      generalize s.read afterDot t.lexeme = r at hstep ⊢
      generalize t.lexeme = lexeme at hstep hopen hclose
      cases hstep with
      | call | callOfNothing => exact absurd rfl hopen
      | close => exact absurd rfl hclose
      | keyword | joined | name | assign | op | newline | other => rfl
    rw [readAll, ih fun u hu => hts u (List.mem_cons_of_mem _ hu), hcalls]

end Unclosed

section OnName
variable {code : String} {cursor : Nat} {before after : List Token} {t : Token} {text : List Char}

/-- On a name a cursor gets the innermost open call, or else a name that ends with this one. -/
theorem top_on_name (htokens : lex code.toList = before ++ t :: after) (ht : t.lexeme = .name text)
    (htext : text ∉ keywords) (hstart : t.start < cursor) (hstop : cursor ≤ t.stop) :
    ∃ d, d.getLast? = some text ∧
      (stacksAt code cursor).top = (readAll .empty false before).calls.head?.or (some d) := by
  have hspaced := spaced_lex code.toList
  rw [htokens] at hspaced
  have hnewline : t.lexeme ≠ .newline := by
    rw [ht]
    exact Lexeme.noConfusion
  obtain ⟨behindDot, hread⟩ := exists_readAll_concat before t
  obtain ⟨hcalls, d, hnames, hd⟩ := read_name (readAll .empty false before) behindDot htext
  refine ⟨d, hd, ?_⟩
  rw [stacksAt, htokens, counted_on hspaced hnewline hstart hstop, hread, ht, Stacks.top, hcalls,
    hnames]

/-- On a name the answer ends with this name, or it is a name that was remembered at a parenthesis
that is still open. Any parenthesis with a name remembered answers that name from behind it up to
the next parenthesis. -/
theorem component_on_name (htokens : lex code.toList = before ++ t :: after)
    (ht : t.lexeme = .name text) (htext : text ∉ keywords) (hstart : t.start < cursor)
    (hstop : cursor ≤ t.stop) :
    ((components code cursor).getLast? = some text ∨
      ∃ outside ∈ unclosed before, remembered outside = some (components code cursor)) ∧
    ∀ outside paren inside d, before = outside ++ paren :: inside → paren.lexeme = opening →
      (∀ u ∈ inside, u.lexeme ≠ opening ∧ u.lexeme ≠ closing) → remembered outside = some d →
        components code cursor = d := by
  obtain ⟨d, hd, htop⟩ := top_on_name htokens ht htext hstart hstop
  constructor
  · cases hcall : (readAll .empty false before).calls.head? with
    | none =>
      rw [hcall, Option.none_or] at htop
      rw [(spells_of_top htop).1]
      exact Or.inl hd
    | some c =>
      rw [hcall, Option.some_or] at htop
      rw [(spells_of_top htop).1]
      have hmem := (calls_sublist_unclosed before).subset (List.mem_of_head? hcall)
      exact Or.inr (List.mem_filterMap.mp hmem)
  · rintro outside paren inside c rfl hparen hinside hc
    obtain ⟨behindDot, hread⟩ := exists_readAll_append .empty false outside (paren :: inside)
    have hcalls : (readAll .empty false (outside ++ paren :: inside)).calls.head? = some c := by
      have hlast : (readAll .empty false outside).names.head? = some c := hc
      rw [hread, readAll, calls_readAll hinside, hparen, calls_read_opening, hlast]
      rfl
    rw [hcalls, Option.some_or] at htop
    exact (spells_of_top htop).1

/-- Behind an assignment no name is remembered, so the parenthesis opens no call. -/
theorem component_on_name_assigned :
    lex "x = (b".toList = [⟨.name ['x'], 0, 1⟩, ⟨.op ['='], 2, 3⟩, ⟨opening, 4, 5⟩] ++
      ⟨.name ['b'], 5, 6⟩ :: [] ∧ ['b'] ∉ keywords ∧
      (components "x = (b" 6).getLast? = some ['b'] := by
  have htokens : lex "x = (b".toList =
      [⟨.name ['x'], 0, 1⟩, ⟨.op ['='], 2, 3⟩, ⟨opening, 4, 5⟩] ++ ⟨.name ['b'], 5, 6⟩ :: [] := by
    decide
  have hname : ['b'] ∉ keywords := by decide
  have hon := component_on_name htokens rfl hname (show 5 < 6 by decide) (show 6 ≤ 6 by decide)
  have hnone : ¬∃ outside ∈ unclosed [⟨.name ['x'], 0, 1⟩, ⟨.op ['='], 2, 3⟩, ⟨opening, 4, 5⟩],
      remembered outside = some (components "x = (b" 6) := by decide
  exact ⟨htokens, hname, hon.1.resolve_right hnone⟩

/-- Whether a parenthesis behind some tokens opens a call: behind a name, or behind what another
parenthesis or bracket closes. -/
def OpensCall (outside : List Token) : Prop :=
  ∃ u, outside.getLast? = some u ∧
    (IsName u.lexeme ∨ u.lexeme = closing ∨ u.lexeme = .op [']'])

/-- Behind an operator a parenthesis groups, and yet the name before the operator is answered. -/
theorem not_always_on_name :
    ¬∀ (code : String) (cursor : Nat) (before after : List Token) (t : Token) (text : List Char),
      lex code.toList = before ++ t :: after → t.lexeme = .name text → text ∉ keywords →
        t.start < cursor → cursor ≤ t.stop → (∀ outside ∈ unclosed before, ¬OpensCall outside) →
          (components code cursor).getLast? = some text := by
  intro h
  have hgroups : ∀ outside ∈ unclosed [⟨.name ['a'], 0, 1⟩, ⟨.op ['+'], 2, 3⟩, ⟨opening, 4, 5⟩],
      ¬OpensCall outside := by
    have hunclosed : unclosed [⟨.name ['a'], 0, 1⟩, ⟨.op ['+'], 2, 3⟩, ⟨opening, 4, 5⟩] =
        [[⟨.name ['a'], 0, 1⟩, ⟨.op ['+'], 2, 3⟩]] := by decide
    rw [hunclosed]
    rintro outside houtside ⟨u, hu, hcall⟩
    obtain rfl := List.mem_singleton.mp houtside
    obtain rfl := Option.some.inj hu
    rcases hcall with ⟨_, _, hname⟩ | hclosing | hbracket
    · cases hname
    · cases hclosing
    · cases hbracket
  exact absurd (h "a + (b" 6 _ [] ⟨.name ['b'], 5, 6⟩ ['b'] (by decide) rfl (by decide) (by decide)
    (by decide) hgroups) (by decide)

end OnName

end KernelBridge.Code
