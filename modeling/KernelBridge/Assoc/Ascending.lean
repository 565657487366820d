import KernelBridge.Assoc

/-! # One list for each finite map

Insertions, erasures and changes in place keep keys ascending, and ascending lists with the same
`get?` are equal: `Ascending.ext`. So an ascending list is the arrangement of itself.
-/
namespace KernelBridge.Assoc
variable {κ α : Type} [LT κ]

@[simp] theorem ascending_nil : Ascending ([] : Assoc κ α) := List.Pairwise.nil

theorem ascending_cons {e : κ × α} {m : Assoc κ α} :
    Ascending (e :: m) ↔ (∀ k ∈ keys m, e.1 < k) ∧ Ascending m := List.pairwise_cons

theorem Ascending.filter {m : Assoc κ α} (h : m.Ascending) (p : κ × α → Bool) :
    Ascending (m.filter p) :=
  List.Pairwise.sublist (List.filter_sublist.map _) h

section Lookup
variable [DecidableEq κ]

omit [LT κ] in
theorem get?_eq_none_iff {m : Assoc κ α} {q : κ} : m.get? q = none ↔ q ∉ keys m := by
  induction m with
  | nil => simp [keys]
  | cons e m ih =>
    rw [get?_cons]
    by_cases h : q = e.1 <;> simp_all [keys]

omit [LT κ] in
theorem mem_keys_of_get? {m : Assoc κ α} {q : κ} {v : α} (h : m.get? q = some v) : q ∈ keys m :=
  Decidable.byContradiction fun hn => by simp [get?_eq_none_iff.mpr hn] at h

omit [LT κ] in
theorem get?_cons_eq_some {e : κ × α} {m : Assoc κ α} {q : κ} {v : α}
    (h : get? (e :: m) q = some v) : q = e.1 ∧ v = e.2 ∨ get? m q = some v := by
  rw [get?_cons] at h
  split at h
  · next he => exact Or.inl ⟨he, (Option.some.inj h).symm⟩
  · exact Or.inr h

theorem Ascending.erase {m : Assoc κ α} (h : m.Ascending) (q : κ) : (m.erase q).Ascending :=
  h.filter _

theorem Ascending.without {m : Assoc κ α} (h : m.Ascending) (names : List κ) :
    (m.without names).Ascending := h.filter _

theorem Ascending.modify {m : Assoc κ α} (h : m.Ascending) (q : κ) (f : α → α) :
    (m.modify q f).Ascending := by
  unfold Ascending
  rw [keys_modify]
  exact h

end Lookup

section Insert
variable [DecidableLT κ] [DecidableEq κ]

theorem mem_keys_insert {m : Assoc κ α} {q k : κ} {x : α} :
    k ∈ (m.insert q x).keys ↔ k = q ∨ k ∈ keys m := by
  have h := get?_insert m q k x
  rw [← Decidable.not_iff_not, ← get?_eq_none_iff, h]
  by_cases hk : k = q <;> simp [hk, get?_eq_none_iff]

variable [Trans (α := κ) (· < ·) (· < ·) (· < ·)] [Std.Trichotomous (α := κ) (· < ·)]

theorem Ascending.insert {m : Assoc κ α} (h : m.Ascending) (q : κ) (x : α) :
    (m.insert q x).Ascending := by
  induction m with
  | nil => simp [Assoc.insert, ascending_cons, keys]
  | cons e m ih =>
    obtain ⟨hhead, htail⟩ := ascending_cons.mp h
    rw [Assoc.insert]
    split
    · next hlt =>
      refine ascending_cons.mpr ⟨fun k hk => ?_, h⟩
      rcases List.mem_cons.mp hk with rfl | hk
      · exact hlt
      · exact Trans.trans hlt (hhead k hk)
    · next hlt =>
      split
      · next heq => exact ascending_cons.mpr ⟨fun k hk => heq ▸ hhead k hk, htail⟩
      · next hne =>
        refine ascending_cons.mpr ⟨fun k hk => ?_, ih htail⟩
        rcases mem_keys_insert.mp hk with rfl | hk
        · rcases Std.Trichotomous.rel_or_eq_or_rel_swap (r := (· < · : κ → κ → Prop))
            (a := e.1) (b := k) with hr | hr | hr
          · exact hr
          · exact absurd hr.symm hne
          · exact absurd hr hlt
        · exact hhead k hk

theorem Ascending.insertNew {m : Assoc κ α} (h : m.Ascending) (q : κ) (x : α) :
    (m.insertNew q x).Ascending := by
  unfold Assoc.insertNew
  split
  · exact h
  · exact h.insert q x

theorem Ascending.insertAll {m : Assoc κ α} (h : m.Ascending) (entries : List (κ × α)) :
    (m.insertAll entries).Ascending := by
  induction entries generalizing m with
  | nil => exact h
  | cons e entries ih => exact ih (h.insert e.1 e.2)

theorem ascending_ofList (entries : List (κ × α)) : (ofList entries).Ascending :=
  ascending_nil.insertAll entries

theorem ascending_arrange (m : Assoc κ α) : m.arrange.Ascending := by
  induction m with
  | nil => exact ascending_nil
  | cons e m ih => exact ih.insert e.1 e.2

end Insert

section Ext
variable [DecidableEq κ] [Std.Asymm (α := κ) (· < ·)]

omit [DecidableEq κ] in
theorem Ascending.head_not_mem {e : κ × α} {m : Assoc κ α} (h : Ascending (e :: m)) :
    e.1 ∉ keys m :=
  fun hm => Std.Irrefl.irrefl (r := (· < · : κ → κ → Prop)) e.1 ((ascending_cons.mp h).1 _ hm)

theorem Ascending.get?_reverse {m : Assoc κ α} (h : m.Ascending) (q : κ) :
    get? m.reverse q = m.get? q := by
  induction m with
  | nil => rfl
  | cons e m ih =>
    rw [List.reverse_cons, get?_append, ih (ascending_cons.mp h).2, get?_cons]
    by_cases hq : q = e.1
    · have hn := get?_eq_none_iff.mpr h.head_not_mem
      simp [hq, hn, get?_cons]
    · simp [hq, get?_cons]

theorem Ascending.get?_insertAll [DecidableLT κ] {m entries : Assoc κ α}
    (h : entries.Ascending) (q : κ) :
    (m.insertAll entries).get? q = (entries.get? q).or (m.get? q) := by
  rw [Assoc.get?_insertAll, h.get?_reverse]

theorem Ascending.ext {m n : Assoc κ α} (hm : m.Ascending) (hn : n.Ascending)
    (h : ∀ q, m.get? q = n.get? q) : m = n := by
  induction m generalizing n with
  | nil =>
    cases n with
    | nil => rfl
    | cons e n =>
      have := h e.1
      simp [get?_cons] at this
  | cons e m ih =>
    cases n with
    | nil =>
      have := h e.1
      simp [get?_cons] at this
    | cons f n =>
      obtain ⟨hme, hmt⟩ := ascending_cons.mp hm
      obtain ⟨hnf, hnt⟩ := ascending_cons.mp hn
      have hkey : e.1 = f.1 := by
        by_cases hef : e.1 = f.1
        · exact hef
        · have he : e.1 ∈ keys n := by
            have := h e.1
            by_cases hc : e.1 ∈ keys n
            · exact hc
            · simp [get?_cons, hef, get?_eq_none_iff.mpr hc] at this
          have hf : f.1 ∈ keys m := by
            have := h f.1
            by_cases hc : f.1 ∈ keys m
            · exact hc
            · simp [get?_cons, Ne.symm hef, get?_eq_none_iff.mpr hc] at this
          exact absurd (hme _ hf) (Std.Asymm.asymm _ _ (hnf _ he))
      have hval : e.2 = f.2 := by
        have := h e.1
        simpa [get?_cons, hkey] using this
      have hrest : m = n := by
        refine ih hmt hnt fun q => ?_
        by_cases hq : q = e.1
        · have h1 := get?_eq_none_iff.mpr hm.head_not_mem
          have h2 := get?_eq_none_iff.mpr hn.head_not_mem
          rw [hq, h1, hkey, h2]
        · have hqf : ¬q = f.1 := hkey ▸ hq
          simpa [get?_cons, hq, hqf] using h q
      rw [hrest, Prod.ext hkey hval]

theorem Ascending.get?_of_tail {e : κ × α} {m : Assoc κ α} {q : κ} {v : α}
    (h : Ascending (e :: m)) (hq : get? m q = some v) :
    e.1 < q ∧ get? (e :: m) q = some v := by
  have hmem := mem_keys_of_get? hq
  have hne : q ≠ e.1 := fun he => h.head_not_mem (he ▸ hmem)
  exact ⟨(ascending_cons.mp h).1 q hmem, by rw [get?_cons, if_neg hne, hq]⟩

/-- The first entry that a search finds is the one with the least key. -/
theorem Ascending.findSome?_eq_some_iff {β : Type} {m : Assoc κ α} (h : m.Ascending)
    {f : κ × α → Option β} {b : β} :
    m.findSome? f = some b ↔
      ∃ k v, m.get? k = some v ∧ f (k, v) = some b ∧
        ∀ j w, m.get? j = some w → j < k → f (j, w) = none := by
  induction m with
  | nil => simp
  | cons e m ih =>
    have hhead : get? (e :: m) e.1 = some e.2 := by rw [get?_cons, if_pos rfl]
    cases hf : f e with
    | some x =>
      rw [List.findSome?_cons, hf]
      constructor
      · rintro ⟨⟩
        refine ⟨e.1, e.2, hhead, hf, fun j w hj hlt => ?_⟩
        rcases get?_cons_eq_some hj with ⟨rfl, rfl⟩ | hj
        · exact absurd hlt (Std.Irrefl.irrefl (r := (· < · : κ → κ → Prop)) e.1)
        · exact absurd hlt (Std.Asymm.asymm _ _ (h.get?_of_tail hj).1)
      · rintro ⟨k, v, hk, hv, hmin⟩
        rcases get?_cons_eq_some hk with ⟨rfl, rfl⟩ | hk
        · exact hf.symm.trans hv
        · have hnone := hmin e.1 e.2 hhead (h.get?_of_tail hk).1
          rw [hf] at hnone
          cases hnone
    | none =>
      rw [List.findSome?_cons, hf, ih (ascending_cons.mp h).2]
      constructor
      · rintro ⟨k, v, hk, hv, hmin⟩
        refine ⟨k, v, (h.get?_of_tail hk).2, hv, fun j w hj hlt => ?_⟩
        rcases get?_cons_eq_some hj with ⟨rfl, rfl⟩ | hj
        · exact hf
        · exact hmin j w hj hlt
      · rintro ⟨k, v, hk, hv, hmin⟩
        rcases get?_cons_eq_some hk with ⟨rfl, rfl⟩ | hk
        · rw [hf] at hv
          cases hv
        · exact ⟨k, v, hk, hv, fun j w hj => hmin j w (h.get?_of_tail hj).2⟩

/-- Of two lists either can be searched for the least key of both that has a result. -/
theorem Ascending.findSome?_join {β γ : Type} {m : Assoc κ α} {n : Assoc κ β} (hm : m.Ascending)
    (hn : n.Ascending) (f : α → β → Option γ) :
    m.findSome? (fun e => (n.get? e.1).bind (f e.2)) =
      n.findSome? (fun e => (m.get? e.1).bind (f · e.2)) := by
  refine Option.ext fun c => ?_
  rw [hm.findSome?_eq_some_iff, hn.findSome?_eq_some_iff]
  simp only [Option.bind_eq_some_iff, Option.bind_eq_none_iff]
  constructor
  · rintro ⟨k, v, hv, ⟨w, hw, hf⟩, hmin⟩
    exact ⟨k, w, hw, ⟨v, hv, hf⟩, fun j y hy hlt x hx => hmin j x hx hlt y hy⟩
  · rintro ⟨k, w, hw, ⟨v, hv, hf⟩, hmin⟩
    exact ⟨k, v, hv, ⟨w, hw, hf⟩, fun j x hx hlt y hy => hmin j y hy hlt x hx⟩

theorem Ascending.arrange_eq [DecidableLT κ] [Trans (α := κ) (· < ·) (· < ·) (· < ·)]
    [Std.Trichotomous (α := κ) (· < ·)] {m : Assoc κ α} (h : m.Ascending) : m.arrange = m :=
  (ascending_arrange m).ext h (get?_arrange m)

theorem Ascending.ofList_eq [DecidableLT κ] [Trans (α := κ) (· < ·) (· < ·) (· < ·)]
    [Std.Trichotomous (α := κ) (· < ·)] {m : Assoc κ α} (h : m.Ascending) : ofList m = m :=
  (ascending_ofList m).ext h fun q => (get?_ofList m q).trans (h.get?_reverse q)

end Ext

end KernelBridge.Assoc
