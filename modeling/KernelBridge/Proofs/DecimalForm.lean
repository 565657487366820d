import KernelBridge.Decimal.Integer

/-! # How integers are written

A reader takes a sign or none and digits, however many zeros lead them. Of the texts of a number
printing gives the canonical one: `canonical_iff`.
-/
namespace KernelBridge.Decimal
variable {cs : List Char} {c : Char} {n : Nat} {i : Int}

/-- At least one digit, and the number that the digits are. -/
structure Digits (cs : List Char) (n : Nat) : Prop where
  ne_nil : cs ≠ []
  isDigit : ∀ c ∈ cs, c.isDigit = true
  value : Nat.ofDigitChars 10 cs 0 = n

/-- Digits with a sign or none. -/
inductive Signed : List Char → Int → Prop
  | plain {cs : List Char} {n : Nat} (h : Digits cs n) : Signed cs n
  | plus {cs : List Char} {n : Nat} (h : Digits cs n) : Signed ('+' :: cs) n
  | minus {cs : List Char} {n : Nat} (h : Digits cs n) : Signed ('-' :: cs) (-n)

/-- A number without a plus, without zeros in front and without a minus before zero. -/
inductive Canonical : List Char → Int → Prop
  | zero : Canonical ['0'] 0
  | positive {d : Char} {cs : List Char} {n : Nat} (hd : d ≠ '0') (h : Digits (d :: cs) n) :
      Canonical (d :: cs) n
  | negative {d : Char} {cs : List Char} {n : Nat} (hd : d ≠ '0') (h : Digits (d :: cs) n) :
      Canonical ('-' :: d :: cs) (-n)

theorem digits?_eq_some_iff : digits? cs = some n ↔ Digits cs n := by
  unfold digits?
  constructor
  · intro h
    split at h
    · next hcs =>
      obtain ⟨hne, hall⟩ := hcs
      exact ⟨hne, List.all_eq_true.mp hall, Option.some.inj h⟩
    · cases h
  · rintro ⟨hne, hall, rfl⟩
    rw [if_pos ⟨hne, List.all_eq_true.mpr hall⟩]

theorem digits_natText (n : Nat) : Digits (natText n) n := digits?_eq_some_iff.mp (digits?_natText n)

/-- A character that is no digit does not stand in front of digits. -/
theorem Digits.ne_cons (h : Digits cs n) (hc : c.isDigit = false) (rest : List Char) :
    cs ≠ c :: rest := by
  rintro rfl
  rw [h.isDigit c List.mem_cons_self] at hc
  cases hc

theorem natural?_eq_some_iff :
    natural? cs = some n ↔ Digits cs n ∨ ∃ rest, cs = '+' :: rest ∧ Digits rest n := by
  have hplus : ∀ rest, ¬Digits ('+' :: rest) n := by
    intro rest h
    exact h.ne_cons (by decide) rest rfl
  unfold natural?
  split
  · next rest =>
    rw [digits?_eq_some_iff]
    constructor
    · intro h
      exact Or.inr ⟨rest, rfl, h⟩
    · rintro (h | ⟨others, ⟨⟩, h⟩)
      · exact absurd h (hplus rest)
      · exact h
  · next hne =>
    rw [digits?_eq_some_iff]
    constructor
    · intro h
      exact Or.inl h
    · rintro (h | ⟨rest, hcs, _⟩)
      · exact h
      · exact absurd hcs (hne rest)

theorem integer?_eq_some_iff : integer? cs = some i ↔ Signed cs i := by
  unfold integer?
  split
  · next rest =>
    simp only [Option.map_eq_some_iff, digits?_eq_some_iff]
    constructor
    · rintro ⟨n, h, rfl⟩
      exact .minus h
    · intro h
      cases h with
      | plain h => exact absurd rfl (h.ne_cons (by decide) rest)
      | minus h => exact ⟨_, h, rfl⟩
  · next hne =>
    simp only [Option.map_eq_some_iff, natural?_eq_some_iff]
    constructor
    · rintro ⟨n, h | ⟨rest, rfl, h⟩, rfl⟩
      · exact .plain h
      · exact .plus h
    · intro h
      cases h with
      | plain h => exact ⟨_, Or.inl h, rfl⟩
      | plus h => exact ⟨_, Or.inr ⟨_, rfl, h⟩, rfl⟩
      | minus h => exact absurd rfl (hne _)

theorem toNat_of_isDigit (h : c.isDigit = true) : 48 ≤ c.toNat ∧ c.toNat ≤ 57 := by
  simpa [Char.isDigit, UInt32.le_iff_toNat_le] using h

theorem digitChar_of_isDigit (h : c.isDigit = true) :
    c.toNat - '0'.toNat < 10 ∧ Nat.digitChar (c.toNat - '0'.toNat) = c := by
  obtain ⟨hleast, hgreatest⟩ := toNat_of_isDigit h
  have hlt : c.toNat - 48 < 10 := by omega
  refine ⟨hlt, Char.toNat_inj.mp ?_⟩
  change (Nat.digitChar (c.toNat - 48)).toNat = c.toNat
  rw [Nat.toNat_digitChar_of_lt_ten hlt]
  omega

/-- Digits behind those of a positive number are the last digits of the number they lead to. -/
theorem toDigits_ofDigitChars (hcs : ∀ c ∈ cs, c.isDigit = true) (hn : 0 < n) :
    Nat.toDigits 10 (Nat.ofDigitChars 10 cs n) = Nat.toDigits 10 n ++ cs := by
  induction cs generalizing n with
  | nil => rw [Nat.ofDigitChars_nil, List.append_nil]
  | cons c cs ih =>
    obtain ⟨hc, hdigit⟩ := digitChar_of_isDigit (hcs c List.mem_cons_self)
    have hrest : ∀ d ∈ cs, d.isDigit = true := fun d hd => hcs d (List.mem_cons_of_mem c hd)
    rw [Nat.ofDigitChars_cons, ih hrest (by omega), ← Nat.toDigits_append_toDigits (by decide) hn hc,
      Nat.toDigits_of_lt_base hc, hdigit, List.append_assoc, List.singleton_append]

/-- The first of the digits of a number is no zero, if there is anything but zeros. -/
theorem Digits.natText_eq {d : Char} (h : Digits (d :: cs) n) (hd : d ≠ '0') :
    0 < n ∧ natText n = d :: cs := by
  obtain ⟨hlt, hdigit⟩ := digitChar_of_isDigit (h.isDigit d List.mem_cons_self)
  have hpos : 0 < d.toNat - '0'.toNat := by
    rcases Nat.eq_zero_or_pos (d.toNat - '0'.toNat) with hzero | hpos
    · rw [hzero] at hdigit
      exact absurd hdigit.symm hd
    · exact hpos
  have hvalue : Nat.ofDigitChars 10 cs (d.toNat - '0'.toNat) = n := by
    rw [← h.value, Nat.ofDigitChars_cons, Nat.mul_zero, Nat.zero_add]
  have htext := toDigits_ofDigitChars (fun c hc => h.isDigit c (List.mem_cons_of_mem d hc)) hpos
  rw [hvalue, Nat.toDigits_of_lt_base hlt, hdigit] at htext
  refine ⟨?_, htext⟩
  rcases Nat.eq_zero_or_pos n with rfl | hn
  · rw [Nat.toDigits_zero] at htext
    cases htext
    exact absurd rfl hd
  · exact hn

theorem natText_head_ne_zero (hn : 0 < n) (cs : List Char) : natText n ≠ '0' :: cs := by
  induction n using Nat.strongRecOn generalizing cs with
  | ind n ih =>
    unfold natText
    rw [Nat.toDigits_eq_if (by decide)]
    split
    · next hlt =>
      intro h
      have hzero : ∀ n < 10, 0 < n → Nat.digitChar n ≠ '0' := by decide
      exact hzero n hlt hn (List.cons.inj h).1
    · next hlt =>
      intro h
      cases hdigits : Nat.toDigits 10 (n / 10) with
      | nil => exact Nat.toDigits_ne_nil hdigits
      | cons d rest =>
        rw [hdigits, List.cons_append] at h
        obtain ⟨rfl, _⟩ := List.cons.inj h
        exact ih (n / 10) (by omega) (by omega) rest hdigits

theorem exists_natText_eq_cons (hn : 0 < n) : ∃ d cs, natText n = d :: cs ∧ d ≠ '0' := by
  cases htext : natText n with
  | nil => exact absurd htext (natText_ne_nil n)
  | cons d cs =>
    refine ⟨d, cs, rfl, ?_⟩
    rintro rfl
    exact natText_head_ne_zero hn cs htext

theorem intText_natCast (n : Nat) : intText n = natText n := by
  rw [intText, if_neg (by omega), Int.natAbs_natCast]

theorem intText_neg (hn : 0 < n) : intText (-n) = '-' :: natText n := by
  rw [intText, if_pos (by omega), Int.natAbs_neg, Int.natAbs_natCast]

theorem canonical_intText (i : Int) : Canonical (intText i) i := by
  obtain ⟨n, hi⟩ := i.eq_nat_or_neg
  rcases Nat.eq_zero_or_pos n with rfl | hn
  · rcases hi with rfl | rfl
    · exact .zero
    · exact .zero
  · have hvalue := digits_natText n
    obtain ⟨d, cs, htext, hd⟩ := exists_natText_eq_cons hn
    rcases hi with rfl | rfl
    · rw [intText_natCast, htext]
      exact .positive hd (htext ▸ hvalue)
    · rw [intText_neg hn, htext]
      exact .negative hd (htext ▸ hvalue)

/-- Printing gives the canonical text of a number, which has no other. -/
theorem canonical_iff : Canonical cs i ↔ intText i = cs := by
  constructor
  · intro h
    cases h with
    | zero => rfl
    | positive hd h =>
      obtain ⟨_, htext⟩ := h.natText_eq hd
      rw [intText_natCast, htext]
    | negative hd h =>
      obtain ⟨hpos, htext⟩ := h.natText_eq hd
      rw [intText_neg hpos, htext]
  · rintro rfl
    exact canonical_intText i

/-- No other character than digits and the minus stands in a canonical text. -/
theorem Canonical.isDigit (h : Canonical cs i) : ∀ c ∈ cs, c = '-' ∨ c.isDigit = true := by
  intro c hc
  cases h with
  | zero => exact Or.inr (by simp_all)
  | positive hd h => exact Or.inr (h.isDigit c hc)
  | negative hd h =>
    rcases List.mem_cons.mp hc with rfl | hc
    · exact Or.inl rfl
    · exact Or.inr (h.isDigit c hc)

end KernelBridge.Decimal
