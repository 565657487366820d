import KernelBridge.Decimal.Integer

/-! # From one major version to another

Routes are ordered by their source, then by their target.
-/
namespace KernelBridge

structure Route where
  source : Nat
  target : Nat
  deriving DecidableEq, Repr

namespace Route

instance : LT Route where
  lt a b := a.source < b.source ∨ a.source = b.source ∧ a.target < b.target

theorem lt_iff {a b : Route} :
    a < b ↔ a.source < b.source ∨ a.source = b.source ∧ a.target < b.target := Iff.rfl

instance : DecidableLT Route := fun _ _ => decidable_of_iff' _ lt_iff

instance : Std.Asymm (α := Route) (· < ·) where
  asymm a b hab hba := by
    rw [lt_iff] at hab hba
    omega

instance : Trans (α := Route) (· < ·) (· < ·) (· < ·) where
  trans hab hbc := by
    rw [lt_iff] at *
    omega

instance : Std.Trichotomous (α := Route) (· < ·) where
  trichotomous a b hab hba := by
    cases a
    cases b
    simp only [lt_iff, Route.mk.injEq] at *
    omega

def describe (r : Route) : String :=
  "(" ++ Decimal.natString r.source ++ ", " ++ Decimal.natString r.target ++ ")"

end Route

end KernelBridge
