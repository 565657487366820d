import KernelBridge.Code.Machine
import KernelBridge.Message.Wire
import KernelBridge.Protocol.Downgrade
import KernelBridge.Protocol.Upgrade
import KernelBridge.Registry.Config
import KernelBridge.Registry.Route

/-! # The adapter for a message and its receiver

A registry holds at most one adapter for each route from one major version to another. A message
takes the route from the major version that its header declares to that of its receiver; where there
is no adapter it passes unchanged.
-/
namespace KernelBridge
open Json

structure Registry where
  adapters : Assoc Route Adapter
  config : Config

namespace Registry

def empty : Registry := ⟨[], {}⟩

def register (r : Registry) (route : Route) (adapter : Adapter) : Registry :=
  { r with adapters := r.adapters.insert route adapter }

def configure (r : Registry) (config : Config) : Registry := { r with config }

/-- Both directions between versions 4 and 5. -/
def standard (resolve : Protocol.Downgrade.Resolver) : Registry :=
  let downward := empty.register ⟨5, 4⟩
    (Protocol.Downgrade.adapter Protocol.downgradeRenames resolve)
  downward.register ⟨4, 5⟩ (Protocol.Upgrade.adapter Protocol.upgradeRenames)

def default : Registry := standard Code.Machine.identifierAt

def get? (r : Registry) (route : Route) : Option Adapter := r.adapters.get? route

def contains (r : Registry) (route : Route) : Bool := r.adapters.contains route

def routes (r : Registry) : List Route := r.adapters.keys

/-- A header without a version was sent at the legacy major version. -/
def majorOf (r : Registry) : Option String → Adapted Nat
  | none => .ok r.config.legacyMajor
  | some version =>
    match Version.major? version with
    | some major => .ok major
    | none => .error (.invalidVersion version)

def senderMajor (r : Registry) (h : Header) : Adapted Nat := r.majorOf h.version

def adapt (r : Registry) (m : Message) (target : Nat) : Adapted Message := do
  let source ← r.senderMajor m.header
  match r.get? ⟨source, target⟩ with
  | some adapter => adapter.adapt m
  | none => return m

def adaptToTarget (r : Registry) (m : Message) : Adapted Message := r.adapt m r.config.targetMajor

/-- The version that a value declares, if it is a message. -/
def declaredVersion (v : Value) : Adapted (Option String) :=
  match (v.member? "header").bind (·.member? "version") with
  | none | some .null => .ok none
  | some (.str version) => .ok (some version)
  | some other => .error (.invalidVersion other.compact)

/-- Decodes the value only when there is an adapter for it. -/
def adaptJson (r : Registry) (v : Value) (target : Nat) : Adapted Value := do
  let source ← r.majorOf (← declaredVersion v)
  match r.get? ⟨source, target⟩ with
  | some adapter => return (← adapter.adapt (← Message.ofValue v)).toValue
  | none => return v

def describe (r : Registry) : String :=
  "AdapterRegistry \x7b pairs: " ++ Text.bracketed (r.routes.map Route.describe) ++ ", config: " ++
    r.config.describe ++ " \x7d"

@[simp] theorem get?_empty (route : Route) : empty.get? route = none := rfl

@[simp] theorem get?_register (r : Registry) (route query : Route) (adapter : Adapter) :
    (r.register route adapter).get? query = if query = route then some adapter else r.get? query :=
  Assoc.get?_insert ..

@[simp] theorem get?_configure (r : Registry) (config : Config) (route : Route) :
    (r.configure config).get? route = r.get? route := rfl

@[simp] theorem config_register (r : Registry) (route : Route) (adapter : Adapter) :
    (r.register route adapter).config = r.config := rfl

@[simp] theorem config_configure (r : Registry) (config : Config) :
    (r.configure config).config = config := rfl

theorem contains_eq_isSome (r : Registry) (route : Route) :
    r.contains route = (r.get? route).isSome := rfl

end Registry

end KernelBridge
