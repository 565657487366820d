import KernelBridge.Assoc

/-! # Renamed message types

A finite map from old type names to new ones. A name is replaced once; the new name is not looked up
again.
-/
namespace KernelBridge

structure TypeRenames where
  pairs : Assoc String String
  deriving DecidableEq, Repr

namespace TypeRenames

def empty : TypeRenames := ⟨[]⟩

/-- Of pairs with the same old name the last one counts. -/
def ofList (pairs : List (String × String)) : TypeRenames := ⟨Assoc.ofList pairs⟩

def renamed? (r : TypeRenames) (msgType : String) : Option String := r.pairs.get? msgType

def apply (r : TypeRenames) (msgType : String) : String := (r.renamed? msgType).getD msgType

def inverse (r : TypeRenames) : TypeRenames := ofList (r.pairs.map Prod.swap)

def size (r : TypeRenames) : Nat := r.pairs.length

def isEmpty (r : TypeRenames) : Bool := r.pairs.isEmpty

@[simp] theorem renamed?_empty (msgType : String) : empty.renamed? msgType = none := rfl
@[simp] theorem apply_empty (msgType : String) : empty.apply msgType = msgType := rfl

theorem apply_of_renamed? {r : TypeRenames} {old new : String} (h : r.renamed? old = some new) :
    r.apply old = new := by simp [apply, h]

theorem apply_of_not_renamed {r : TypeRenames} {old : String} (h : r.renamed? old = none) :
    r.apply old = old := by simp [apply, h]

example : (ofList [("a", "b"), ("a", "c")]).apply "a" = "c" := by decide

end TypeRenames

end KernelBridge
