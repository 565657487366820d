import KernelBridge.Json.Fields
import KernelBridge.Proofs.Outcome

/-! # When a field can be read

A required field is read off exactly the values of its kind; it is an error to leave it out and
another one to give it another kind.
-/
namespace KernelBridge.Json
open Outcome

namespace Value

theorem asString?_eq_some_iff {v : Value} {s : String} : v.asString? = some s ↔ v = .str s := by
  cases v <;> simp [asString?]

theorem asList?_eq_some_iff {v : Value} {items : List Value} :
    v.asList? = some items ↔ v = .arr items := by
  cases v <;> simp [asList?]

theorem asObject?_eq_some_iff {v : Value} {fields : Object} :
    v.asObject? = some fields ↔ v = .obj fields := by
  cases v <;> simp [asObject?]

theorem asInt64?_eq_some_iff {v : Value} {n : Int} :
    v.asInt64? = some n ↔ v = .int n ∧ Word.fitsInt64 n = true := by
  unfold asInt64? int
  split
  · next k =>
    split
    · next h =>
      constructor
      · rintro ⟨⟩
        exact ⟨rfl, h⟩
      · rintro ⟨⟨⟩, _⟩
        rfl
    · next h =>
      constructor
      · rintro ⟨⟩
      · rintro ⟨⟨⟩, hn⟩
        exact absurd hn h
  · next h =>
    constructor
    · rintro ⟨⟩
    · rintro ⟨rfl, _⟩
      exact absurd rfl (h n)

theorem asUInt64?_eq_some_iff {v : Value} {n : Nat} :
    v.asUInt64? = some n ↔ v = .nat n ∧ n < 0x10000000000000000 := by
  unfold asUInt64? nat int
  split
  · next k =>
    rw [← Word.fitsUInt64_iff]
    split
    · next h =>
      have hk : 0 ≤ k := by
        simp only [Word.fitsUInt64, Bool.and_eq_true, decide_eq_true_eq] at h
        exact h.1
      constructor
      · rintro ⟨⟩
        rw [Int.toNat_of_nonneg hk]
        exact ⟨rfl, h⟩
      · rintro ⟨⟨⟩, _⟩
        rfl
    · next h =>
      constructor
      · rintro ⟨⟩
      · rintro ⟨⟨⟩, hn⟩
        exact absurd hn h
  · next h =>
    constructor
    · rintro ⟨⟩
    · rintro ⟨rfl, _⟩
      exact absurd rfl (h n)

theorem asString?_eq_none_iff {v : Value} : v.asString? = none ↔ ∀ s, v ≠ .str s := by
  simp [Option.eq_none_iff_forall_ne_some, asString?_eq_some_iff]

theorem asUInt64?_eq_none_iff {v : Value} :
    v.asUInt64? = none ↔ ∀ n : Nat, n < 0x10000000000000000 → v ≠ .nat n := by
  simp only [Option.eq_none_iff_forall_ne_some, ne_eq, asUInt64?_eq_some_iff, not_and]
  exact forall_congr' fun n => imp_not_comm

end Value

namespace Object
variable {α : Type} {content : Object} {field expected : String} {view : Value → Option α}

theorem required_eq_ok_iff {v : Value} :
    content.required field = .ok v ↔ content.get? field = some v := by
  unfold required
  cases content.get? field <;> simp

theorem requiredAs_eq_ok_iff {x : α} :
    content.requiredAs field expected view = .ok x ↔
      ∃ v, content.get? field = some v ∧ view v = some x := by
  unfold requiredAs
  cases content.get? field with
  | none => simp
  | some v => cases h : view v <;> simp [h]

theorem requiredAs_congr {other : Object} (h : other.get? field = content.get? field) :
    other.requiredAs field expected view = content.requiredAs field expected view := by
  rw [requiredAs, requiredAs, h]

theorem requiredAs_eq_error_iff {e : FieldError} :
    content.requiredAs field expected view = .error e ↔
      (content.get? field = none ∧ e = .missing field) ∨
      ∃ v, content.get? field = some v ∧ view v = none ∧ e = .invalid field expected := by
  unfold requiredAs
  cases content.get? field with
  | none => simp [eq_comm]
  | some v => cases h : view v <;> simp [h, eq_comm]

/-- A field that is there can only be of the wrong kind. -/
theorem requiredAs_eq_error_iff_of_get? {v : Value} (h : content.get? field = some v)
    {e : FieldError} :
    content.requiredAs field expected view = .error e ↔
      view v = none ∧ e = .invalid field expected := by
  simp [requiredAs_eq_error_iff, h]

theorem requiredString_eq_ok_iff {s : String} :
    content.requiredString field = .ok s ↔ content.get? field = some (.str s) := by
  simp [requiredString, requiredAs_eq_ok_iff, Value.asString?_eq_some_iff]

theorem requiredList_eq_ok_iff {items : List Value} :
    content.requiredList field = .ok items ↔ content.get? field = some (.arr items) := by
  simp [requiredList, requiredAs_eq_ok_iff, Value.asList?_eq_some_iff]

theorem requiredObject_eq_ok_iff {fields : Object} :
    content.requiredObject field = .ok fields ↔ content.get? field = some (.obj fields) := by
  simp [requiredObject, requiredAs_eq_ok_iff, Value.asObject?_eq_some_iff]

theorem requiredInteger_eq_ok_iff {n : Int} :
    content.requiredInteger field = .ok n ↔
      content.get? field = some (.int n) ∧ Word.fitsInt64 n = true := by
  simp only [requiredInteger, requiredAs_eq_ok_iff, Value.asInt64?_eq_some_iff]
  constructor
  · rintro ⟨v, hv, rfl, hn⟩
    exact ⟨hv, hn⟩
  · rintro ⟨hv, hn⟩
    exact ⟨_, hv, rfl, hn⟩

theorem requiredCursor_eq_ok_iff {n : Nat} :
    content.requiredCursor field = .ok n ↔
      content.get? field = some (.nat n) ∧ n < 0x10000000000000000 := by
  simp only [requiredCursor, requiredAs_eq_ok_iff, Value.asUInt64?_eq_some_iff]
  constructor
  · rintro ⟨v, hv, rfl, hn⟩
    exact ⟨hv, hn⟩
  · rintro ⟨hv, hn⟩
    exact ⟨_, hv, rfl, hn⟩

theorem editObject_eq_ok_iff {edit : Object → Object} {result : Object} :
    content.editObject field edit = .ok result ↔
      ∃ inner, content.get? field = some (.obj inner) ∧
        content.modify field (fun _ => .obj (edit inner)) = result := by
  unfold editObject
  simp [bind_eq_ok_iff, requiredObject_eq_ok_iff]

end Object

end KernelBridge.Json
