import KernelBridge.Proofs.Pipeline
import KernelBridge.Protocol.Downgrade
import KernelBridge.Protocol.Upgrade
import KernelBridge.Registry.Basic

/-! # The standard adapters

Both only stamp the header, the downward one with no version, so of a message they change its type,
its version and its content. They are the adapters of the standard registry.
-/
namespace KernelBridge
open Json Outcome

namespace Protocol

def downgrade (resolve : Downgrade.Resolver) (m : Message) : Adapted Message :=
  (Downgrade.adapter downgradeRenames resolve).adapt m

def upgrade (m : Message) : Adapted Message := (Upgrade.adapter upgradeRenames).adapt m

theorem Downgrade.restamps (renames : TypeRenames) (resolve : Resolver) :
    (adapter renames resolve).Restamps none := ⟨fun _ => rfl, fun _ => rfl, fun _ => rfl⟩

theorem Upgrade.restamps (renames : TypeRenames) :
    (adapter renames).Restamps (some Version.currentText) :=
  ⟨fun _ => rfl, fun _ => rfl, fun _ => rfl⟩

end Protocol

namespace Registry
open Protocol

theorem get?_standard (resolve : Downgrade.Resolver) (c : Config) (route : Route) :
    ((standard resolve).configure c).get? route =
      if route = ⟨4, 5⟩ then some (Upgrade.adapter upgradeRenames)
      else if route = ⟨5, 4⟩ then some (Downgrade.adapter downgradeRenames resolve) else none := by
  simp [standard]

/-- Whatever adapter a message meets in the standard registry, it only restamps. -/
theorem restamps_of_get?_standard {resolve : Downgrade.Resolver} {c : Config} {route : Route}
    {a : Adapter} (h : ((standard resolve).configure c).get? route = some a) :
    ∃ version, a.Restamps version := by
  rw [get?_standard] at h
  split at h
  · cases h
    exact ⟨_, Upgrade.restamps _⟩
  · split at h
    · cases h
      exact ⟨_, Downgrade.restamps _ _⟩
    · cases h

end Registry

end KernelBridge
