/-! # Association lists with their keys in ascending order

Inserting puts a key before the first larger one, so a list built by insertions alone is
`Ascending` and has one form for each finite map. The equations for `get?` after `insert`,
`erase`, `modify` and `arrange` hold for every list, ascending or not.
-/
namespace KernelBridge

abbrev Assoc (κ α : Type) := List (κ × α)

namespace Assoc
variable {κ α : Type}

def keys (m : Assoc κ α) : List κ := m.map (·.1)

/-- Each key is smaller than the keys behind it; in particular no key occurs twice. -/
def Ascending [LT κ] (m : Assoc κ α) : Prop := m.keys.Pairwise (· < ·)

instance [LT κ] [DecidableLT κ] (m : Assoc κ α) : Decidable m.Ascending :=
  inferInstanceAs (Decidable (m.keys.Pairwise (· < ·)))

section Lookup
variable [DecidableEq κ]

def get? : Assoc κ α → κ → Option α
  | [], _ => none
  | (k, v) :: m, q => if q = k then some v else get? m q

def contains (m : Assoc κ α) (q : κ) : Bool := (m.get? q).isSome

def erase (m : Assoc κ α) (q : κ) : Assoc κ α := m.filter (·.1 ≠ q)

/-- Drops every key of a list of keys. -/
def without (m : Assoc κ α) (names : List κ) : Assoc κ α := m.filter (·.1 ∉ names)

/-- Changes the value under a key where it stands. -/
def modify : Assoc κ α → κ → (α → α) → Assoc κ α
  | [], _, _ => []
  | (k, v) :: m, q, f => if q = k then (k, f v) :: m else (k, v) :: modify m q f

@[simp] theorem get?_nil (q : κ) : get? ([] : Assoc κ α) q = none := rfl

theorem get?_cons (e : κ × α) (m : Assoc κ α) (q : κ) :
    get? (e :: m) q = if q = e.1 then some e.2 else get? m q := rfl

theorem get?_append (m n : Assoc κ α) (q : κ) :
    get? (m ++ n) q = (m.get? q).or (get? n q) := by
  induction m with
  | nil => rfl
  | cons e m ih =>
    rw [List.cons_append, get?_cons, get?_cons, ih]
    split <;> rfl

theorem get?_map {β : Type} (m : Assoc κ α) (f : κ → α → β) (q : κ) :
    get? (m.map fun e => (e.1, f e.1 e.2)) q = (m.get? q).map (f q) := by
  induction m with
  | nil => rfl
  | cons e m ih =>
    rw [List.map_cons, get?_cons, get?_cons, ih]
    by_cases hq : q = e.1 <;> simp [hq]

theorem get?_filter_key (m : Assoc κ α) (p : κ → Bool) (q : κ) :
    get? (m.filter (fun e => p e.1)) q = if p q then get? m q else none := by
  induction m with
  | nil => simp
  | cons e m ih =>
    obtain ⟨k,v⟩ := e
    by_cases hq : q = k
    · subst hq
      by_cases hp : p q <;> simp [hp, get?_cons, ih]
    · by_cases hp : p k <;> simp [hp, get?_cons, ih, hq]

@[simp] theorem get?_erase (m : Assoc κ α) (k q : κ) :
    (m.erase k).get? q = if q = k then none else m.get? q := by
  have h := get?_filter_key m (fun x => decide (x ≠ k)) q
  by_cases hq : q = k <;> simp_all [erase]

@[simp] theorem get?_without (m : Assoc κ α) (names : List κ) (q : κ) :
    (m.without names).get? q = if q ∈ names then none else m.get? q := by
  have h := get?_filter_key m (fun x => decide (x ∉ names)) q
  by_cases hq : q ∈ names <;> simp_all [without]

@[simp] theorem get?_modify (m : Assoc κ α) (k q : κ) (f : α → α) :
    (m.modify k f).get? q = if q = k then (m.get? q).map f else m.get? q := by
  induction m with
  | nil => simp [modify]
  | cons e m ih =>
    obtain ⟨j,v⟩ := e
    by_cases hk : k = j
    · subst hk
      by_cases hq : q = k <;> simp [modify, get?_cons, hq]
    · by_cases hq : q = j
      · subst hq
        simp [modify, hk, Ne.symm hk, get?_cons]
      · simp [modify, hk, hq, get?_cons, ih]

@[simp] theorem keys_modify (m : Assoc κ α) (k : κ) (f : α → α) : (m.modify k f).keys = m.keys := by
  induction m with
  | nil => rfl
  | cons e m ih =>
    by_cases hk : k = e.1 <;> simp_all [modify, keys]

/-- A change that keeps the value under its key changes nothing. -/
theorem modify_eq_self {m : Assoc κ α} {k : κ} {f : α → α} (h : ∀ v, m.get? k = some v → f v = v) :
    m.modify k f = m := by
  induction m with
  | nil => rfl
  | cons e m ih =>
    obtain ⟨j,v⟩ := e
    by_cases hk : k = j
    · rw [modify, if_pos hk, h v (by rw [get?_cons, if_pos hk])]
    · rw [modify, if_neg hk, ih fun w hw => h w (by rw [get?_cons, if_neg hk, hw])]

@[simp] theorem modify_id (m : Assoc κ α) (k : κ) : m.modify k id = m :=
  modify_eq_self fun _ _ => rfl

/-- Two changes under one key are one change. -/
theorem modify_modify (m : Assoc κ α) (k : κ) (f g : α → α) :
    (m.modify k f).modify k g = m.modify k fun v => g (f v) := by
  induction m with
  | nil => rfl
  | cons e m ih =>
    obtain ⟨j,v⟩ := e
    by_cases hk : k = j <;> simp [modify, hk, ih]

theorem erase_cons_self (k : κ) (v : α) (m : Assoc κ α) : erase ((k, v) :: m) k = erase m k :=
  List.filter_cons_of_neg (by simp)

theorem erase_cons_of_ne {k q : κ} (h : k ≠ q) (v : α) (m : Assoc κ α) :
    erase ((k, v) :: m) q = (k, v) :: erase m q := List.filter_cons_of_pos (by simp [h])

theorem erase_modify {k q : κ} (h : k ≠ q) (m : Assoc κ α) (f : α → α) :
    (m.modify k f).erase q = (m.erase q).modify k f := by
  induction m with
  | nil => rfl
  | cons e m ih =>
    obtain ⟨j,v⟩ := e
    by_cases hk : k = j
    · subst hk
      rw [modify, if_pos rfl, erase_cons_of_ne h, erase_cons_of_ne h, modify, if_pos rfl]
    · rw [modify, if_neg hk]
      by_cases hj : j = q
      · subst hj
        rw [erase_cons_self, erase_cons_self, ih]
      · rw [erase_cons_of_ne hj, erase_cons_of_ne hj, modify, if_neg hk, ih]

theorem erase_eq_self {m : Assoc κ α} {q : κ} (h : m.get? q = none) : m.erase q = m := by
  induction m with
  | nil => rfl
  | cons e m ih =>
    obtain ⟨k,v⟩ := e
    rw [get?_cons] at h
    split at h
    · cases h
    · next hk => rw [erase_cons_of_ne (Ne.symm hk), ih h]

end Lookup

section Insert
variable [LT κ] [DecidableLT κ] [DecidableEq κ]

def insert : Assoc κ α → κ → α → Assoc κ α
  | [], q, x => [(q, x)]
  | (k, v) :: m, q, x =>
    if q < k then (q, x) :: (k, v) :: m
    else if q = k then (q, x) :: m
    else (k, v) :: insert m q x

def insertNew (m : Assoc κ α) (q : κ) (x : α) : Assoc κ α :=
  if m.contains q then m else m.insert q x

/-- Inserts entry after entry, so that of equal keys the last wins. -/
def insertAll (m : Assoc κ α) (entries : List (κ × α)) : Assoc κ α :=
  entries.foldl (fun m e => m.insert e.1 e.2) m

def ofList (entries : List (κ × α)) : Assoc κ α := insertAll [] entries

/-- The ascending list with the same `get?`. -/
def arrange (m : Assoc κ α) : Assoc κ α := m.foldr (fun e m => insert m e.1 e.2) []

@[simp] theorem get?_insert (m : Assoc κ α) (k q : κ) (x : α) :
    (m.insert k x).get? q = if q = k then some x else m.get? q := by
  induction m with
  | nil => simp [insert, get?_cons]
  | cons e m ih =>
    obtain ⟨j,v⟩ := e
    by_cases hlt : k < j
    · simp [insert, hlt, get?_cons]
    · by_cases hk : k = j
      · subst hk
        by_cases hq : q = k <;> simp [insert, hlt, get?_cons, hq]
      · by_cases hq : q = k
        · subst hq
          simp [insert, hlt, hk, get?_cons, ih]
        · simp [insert, hlt, hk, get?_cons, ih, hq]

@[simp] theorem get?_insertNew (m : Assoc κ α) (k q : κ) (x : α) :
    (m.insertNew k x).get? q = if q = k then some ((m.get? k).getD x) else m.get? q := by
  unfold insertNew contains
  cases h : m.get? k <;> by_cases hq : q = k <;> simp [hq, h]

@[simp] theorem erase_insert_self (m : Assoc κ α) (q : κ) (x : α) :
    (m.insert q x).erase q = m.erase q := by
  induction m with
  | nil => exact erase_cons_self q x []
  | cons e m ih =>
    obtain ⟨k,v⟩ := e
    rw [insert]
    split
    · exact erase_cons_self q x _
    · split
      · next hk => rw [← hk, erase_cons_self, erase_cons_self]
      · next hk => rw [erase_cons_of_ne (Ne.symm hk), erase_cons_of_ne (Ne.symm hk), ih]

/-- A key that was not there before can be taken away again. -/
theorem erase_insert {m : Assoc κ α} {q : κ} (h : m.get? q = none) (x : α) :
    (m.insert q x).erase q = m := by
  rw [erase_insert_self, erase_eq_self h]

theorem insertNew_of_get?_eq_none {m : Assoc κ α} {q : κ} (h : m.get? q = none) (x : α) :
    m.insertNew q x = m.insert q x := by simp [insertNew, contains, h]

@[simp] theorem get?_arrange (m : Assoc κ α) (q : κ) : m.arrange.get? q = m.get? q := by
  induction m with
  | nil => rfl
  | cons e m ih =>
    change (insert (arrange m) e.1 e.2).get? q = _
    rw [get?_insert, ih]
    rfl

theorem insertAll_cons (m : Assoc κ α) (e : κ × α) (entries : List (κ × α)) :
    m.insertAll (e :: entries) = (m.insert e.1 e.2).insertAll entries := rfl

/-- Of the entries with one key the last one counts. -/
theorem get?_insertAll (m : Assoc κ α) (entries : List (κ × α)) (q : κ) :
    (m.insertAll entries).get? q = (get? entries.reverse q).or (m.get? q) := by
  induction entries generalizing m with
  | nil => rfl
  | cons e entries ih =>
    rw [insertAll_cons, ih, get?_insert, List.reverse_cons, get?_append, get?_cons]
    cases get? entries.reverse q with
    | some v => rfl
    | none => split <;> rfl

theorem get?_ofList (entries : List (κ × α)) (q : κ) :
    (ofList entries).get? q = get? entries.reverse q := by
  rw [ofList, get?_insertAll, get?_nil, Option.or_none]

end Insert

end Assoc

end KernelBridge
