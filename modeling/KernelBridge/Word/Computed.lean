import KernelBridge.Word

/-! # Computing with counts that wrap around

A result next to whether every sum and difference on the way to it was exact. Where one was not, the
result goes on with what the word was left with, and a computation that checks its counts breaks off.
-/
namespace KernelBridge.Word

structure Computed (α : Type) where
  value : α
  exact : Bool
  deriving DecidableEq, Repr

namespace Computed

instance : Monad Computed where
  pure a := ⟨a, true⟩
  bind x f := ⟨(f x.value).value, x.exact && (f x.value).exact⟩

def add (a b : Nat) : Computed Nat := ⟨ofCount (a + b), fitsUInt64 (a + b : Nat)⟩

def sub (a b : Nat) : Computed Nat := ⟨ofCount (a + 0x10000000000000000 - b), b ≤ a⟩

section Laws
variable {α β : Type} {a b : Nat}

@[simp] theorem value_pure (x : α) : (pure x : Computed α).value = x := rfl
@[simp] theorem exact_pure (x : α) : (pure x : Computed α).exact = true := rfl
@[simp] theorem value_bind (x : Computed α) (f : α → Computed β) :
    (x >>= f).value = (f x.value).value := rfl
@[simp] theorem exact_bind (x : Computed α) (f : α → Computed β) :
    (x >>= f).exact = (x.exact && (f x.value).exact) := rfl

instance : LawfulMonad Computed := LawfulMonad.mk' Computed
  (fun x => by simp [Functor.map])
  (fun _ _ => rfl)
  (fun x f g => by simp [bind, Bool.and_assoc])

theorem ofCount_eq_self (h : a < 0x10000000000000000) : ofCount a = a := Nat.mod_eq_of_lt h

theorem add_eq_pure (h : a + b < 0x10000000000000000) : add a b = pure (a + b) := by
  rw [add, ofCount_eq_self h, fitsUInt64_iff.mpr h]
  rfl

theorem sub_eq_pure (h : b ≤ a) (ha : a < 0x10000000000000000) : sub a b = pure (a - b) := by
  have hshift : a + 0x10000000000000000 - b = a - b + 0x10000000000000000 := by omega
  have hvalue : ofCount (a + 0x10000000000000000 - b) = a - b := by
    rw [hshift, ofCount, Nat.add_mod_right]
    exact Nat.mod_eq_of_lt (by omega)
  rw [sub, hvalue, decide_eq_true h]
  rfl

/-- One step behind the greatest word the counting starts again. -/
theorem greatest_add_one : add 0xffffffffffffffff 1 = ⟨0, false⟩ := by decide

end Laws

end Computed

end KernelBridge.Word
