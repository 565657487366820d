import KernelBridge.Assoc.Ascending
import KernelBridge.Proofs.Labelled
import KernelBridge.Proofs.MajorVersion

/-! # Which adapter a message meets

A registry starts empty or with the standard adapters and is then asked to register adapters, to
take other settings and to adapt messages. What it does with a message follows from these requests:
of the adapters for a route the latest counts, and so do the latest settings. Adapting leaves no
trace.
-/
namespace KernelBridge
open Outcome Protocol Version

namespace Registry

/-- The registries to start with. -/
inductive Start where
  | empty
  | default
  | withResolver (resolve : Downgrade.Resolver)

def Start.registry : Start → Registry
  | empty => Registry.empty
  | default => Registry.default
  | withResolver resolve => standard resolve

/-- What a registry is asked for. -/
inductive Request where
  | register (route : Route) (adapter : Adapter)
  | configure (config : Config)
  | adapt (m : Message) (target : Nat)

/-- The registry after a request, and the answer if the request is for a message. -/
def serve (r : Registry) : Request → Registry × Option (Adapted Message)
  | .register route adapter => (r.register route adapter, none)
  | .configure config => (r.configure config, none)
  | .adapt m target => (r, some (r.adapt m target))

def after (start : Registry) (requests : List Request) : Registry :=
  requests.foldl (fun r q => (r.serve q).1) start

/-- The answers to all requests of a run. -/
def answers (r : Registry) : List Request → List (Option (Adapted Message))
  | [] => []
  | q :: requests => (r.serve q).2 :: (r.serve q).1.answers requests

namespace Request

/-- What a request says about the adapter for a route. -/
def adapterFor? (route : Route) : Request → Option (Option Adapter)
  | register other adapter => if other = route then some (some adapter) else none
  | _ => none

/-- What a request says about the settings. -/
def config? : Request → Option Config
  | configure config => some config
  | _ => none

end Request

/-- What the last request says that says anything about a matter, or what was so at the start. -/
inductive Latest {α : Type} (tells : Request → Option α) (start : α) (requests : List Request) :
    α → Prop
  | said {earlier later : List Request} {q : Request} {a : α} (h : requests = earlier ++ q :: later)
      (ha : tells q = some a) (hlater : ∀ p ∈ later, tells p = none) : Latest tells start requests a
  | unsaid (h : ∀ q ∈ requests, tells q = none) : Latest tells start requests start

section Latest
variable {α : Type} {tells : Request → Option α} {start a : α}
variable {requests : List Request} {q : Request}

theorem latest_nil_iff : Latest tells start [] a ↔ a = start := by
  constructor
  · intro h
    cases h with
    | said h _ _ => simp at h
    | unsaid _ => rfl
  · rintro rfl
    exact .unsaid (by simp)

/-- What the first request says is how it is at the start for the others. -/
theorem latest_cons_iff :
    Latest tells start (q :: requests) a ↔ Latest tells ((tells q).getD start) requests a := by
  constructor
  · intro h
    cases h with
    | @said earlier later p _ h ha hlater =>
      -- the request that counts is the first one or one of the others
      cases earlier with
      | nil =>
        obtain ⟨rfl, rfl⟩ := List.cons_eq_cons.mp h
        rw [ha]
        exact .unsaid hlater
      | cons x earlier =>
        obtain ⟨rfl, rfl⟩ := List.cons_eq_cons.mp h
        exact .said rfl ha hlater
    | unsaid h =>
      obtain ⟨hq, hrequests⟩ := List.forall_mem_cons.mp h
      rw [hq]
      exact .unsaid hrequests
  · intro h
    cases h with
    | said h ha hlater => exact .said (by rw [h, List.cons_append]) ha hlater
    | unsaid h =>
      cases hq : tells q with
      | none => exact .unsaid (List.forall_mem_cons.mpr ⟨hq, h⟩)
      | some a => exact .said (List.nil_append _).symm hq h

/-- A view of the registry that a request sets to what it says, if it says anything, is after a run
what was said last. -/
theorem latest_iff_view (view : Registry → α)
    (hstep : ∀ r q, view (r.serve q).1 = (tells q).getD (view r)) (r : Registry) :
    Latest tells (view r) requests a ↔ view (r.after requests) = a := by
  induction requests generalizing r with
  | nil => rw [latest_nil_iff, eq_comm]; rfl
  | cons q requests ih => rw [latest_cons_iff, ← hstep, ih]; rfl

end Latest

section Runs
variable {start r : Registry} {requests : List Request} {route : Route}

theorem get?_serve (route : Route) (r : Registry) (q : Request) :
    (r.serve q).1.get? route = (q.adapterFor? route).getD (r.get? route) := by
  cases q with
  | register other adapter =>
    rw [serve, get?_register, Request.adapterFor?]
    by_cases h : other = route
    · rw [if_pos h, if_pos h.symm]
      rfl
    · rw [if_neg h, if_neg (Ne.symm h)]
      rfl
  | configure _ | adapt _ _ => rfl

theorem config_serve (r : Registry) (q : Request) :
    (r.serve q).1.config = q.config?.getD r.config := by
  cases q <;> rfl

theorem latest_adapter_iff {found : Option Adapter} :
    Latest (Request.adapterFor? route) (start.get? route) requests found ↔
      (start.after requests).get? route = found :=
  latest_iff_view (·.get? route) (get?_serve route) start

theorem latest_config_iff {config : Config} :
    Latest Request.config? start.config requests config ↔ (start.after requests).config = config :=
  latest_iff_view (·.config) config_serve start

theorem ascending_register (h : r.adapters.Ascending) (route : Route) (adapter : Adapter) :
    (r.register route adapter).adapters.Ascending := Assoc.Ascending.insert h route adapter

theorem ascending_serve (h : r.adapters.Ascending) (q : Request) :
    (r.serve q).1.adapters.Ascending := by
  cases q with
  | register route adapter => exact ascending_register h route adapter
  | configure _ | adapt _ _ => exact h

theorem ascending_start (start : Start) : start.registry.adapters.Ascending := by
  have hempty : Registry.empty.adapters.Ascending := Assoc.ascending_nil
  cases start with
  | empty => exact hempty
  | default | withResolver _ => exact ascending_register (ascending_register hempty _ _) _ _

theorem ascending_after (h : start.adapters.Ascending) (requests : List Request) :
    (start.after requests).adapters.Ascending := by
  induction requests generalizing start with
  | nil => exact h
  | cons q requests ih => exact ih (ascending_serve h q)

theorem mem_routes_serve_iff {q : Request} :
    route ∈ (r.serve q).1.routes ↔ (∃ adapter, q = .register route adapter) ∨ route ∈ r.routes := by
  cases q with
  | register other adapter =>
    refine Assoc.mem_keys_insert.trans (or_congr_left ?_)
    simp [eq_comm]
  | configure _ | adapt _ _ => simp [serve, configure, routes]

theorem mem_routes_after_iff :
    route ∈ (start.after requests).routes ↔
      (∃ adapter, .register route adapter ∈ requests) ∨ route ∈ start.routes := by
  induction requests generalizing start with
  | nil => simp [after]
  | cons q requests ih =>
    have hafter : route ∈ ((start.serve q).1.after requests).routes ↔
        (∃ adapter, .register route adapter ∈ requests) ∨ route ∈ (start.serve q).1.routes := ih
    rw [mem_routes_serve_iff] at hafter
    refine hafter.trans ?_
    simp only [List.mem_cons, exists_or, eq_comm (b := q)]
    rw [← or_assoc, or_comm (a := ∃ _, _)]

theorem after_append (start : Registry) (earlier later : List Request) :
    start.after (earlier ++ later) = (start.after earlier).after later := List.foldl_append

/-- A request is served by the registry that the requests before it leave. -/
theorem getElem?_answers (start : Registry) (requests : List Request) (i : Nat) :
    (start.answers requests)[i]? =
      requests[i]?.map fun q => ((start.after (requests.take i)).serve q).2 := by
  induction requests generalizing start i with
  | nil => rfl
  | cons q requests ih =>
    cases i with
    | zero => rfl
    | succ i =>
      rw [answers, List.getElem?_cons_succ, List.getElem?_cons_succ, ih]
      rfl

end Runs

/-- The major that the version of a header stands for under the latest settings. -/
inductive SentAt (start : Registry) (requests : List Request) : Option String → Nat → Prop
  | declared {version : String} {n : Nat} (h : HasMajor version.toList n) :
      SentAt start requests (some version) n
  | assumed {config : Config} (h : Latest Request.config? start.config requests config) :
      SentAt start requests none config.legacyMajor

/-- What becomes of a message: it is refused for its version, or goes through the latest adapter for
its route, or stays as it is if there is none. -/
inductive Dispatched (start : Registry) (requests : List Request) (m : Message) (target : Nat) :
    Adapted Message → Prop
  | refused {version : String} (hv : m.version = some version)
      (h : ∀ n, ¬HasMajor version.toList n) :
      Dispatched start requests m target (.error (.invalidVersion version))
  | adapted {source : Nat} {adapter : Adapter} (hs : SentAt start requests m.version source)
      (h : Latest (Request.adapterFor? ⟨source, target⟩) (start.get? ⟨source, target⟩) requests
        (some adapter)) : Dispatched start requests m target (adapter.adapt m)
  | passed {source : Nat} (hs : SentAt start requests m.version source)
      (h : Latest (Request.adapterFor? ⟨source, target⟩) (start.get? ⟨source, target⟩) requests
        none) : Dispatched start requests m target (.ok m)

section Dispatch
variable {start r : Registry} {requests : List Request} {route : Route} {m : Message}
variable {target source : Nat} {version : Option String} {out : Adapted Message}

theorem sentAt_iff :
    SentAt start requests version source ↔ (start.after requests).majorOf version = .ok source := by
  rw [majorOf_eq_ok_iff]
  cases version with
  | none =>
    constructor
    · intro h
      cases h with
      | assumed h => rw [latest_config_iff.mp h]; rfl
    · intro h
      obtain rfl := Option.some.inj h
      exact .assumed (latest_config_iff.mpr rfl)
  | some version =>
    refine Iff.trans ?_ major?_eq_some_iff.symm
    constructor
    · intro h
      cases h with
      | declared h => exact h
    · exact .declared

/-- Of a message a registry looks at the version and at nothing else. -/
theorem adapt_eq (r : Registry) (m : Message) (target : Nat) :
    r.adapt m target = r.majorOf m.version >>= fun source =>
      match r.get? ⟨source, target⟩ with
      | some adapter => adapter.adapt m
      | none => .ok m := rfl

theorem Dispatched.eq_adapt (h : Dispatched start requests m target out) :
    (start.after requests).adapt m target = out := by
  rw [adapt_eq]
  cases h with
  | refused hv h => rw [hv, majorOf_of_not_hasMajor h, error_bind]
  | adapted hs h => rw [sentAt_iff.mp hs, ok_bind, latest_adapter_iff.mp h]
  | passed hs h => rw [sentAt_iff.mp hs, ok_bind, latest_adapter_iff.mp h]

theorem dispatched_adapt :
    Dispatched start requests m target ((start.after requests).adapt m target) := by
  rw [adapt_eq]
  cases hs : (start.after requests).majorOf m.version with
  | error e =>
    cases hv : m.version with
    | none =>
      rw [hv] at hs
      cases hs
    | some version =>
      rw [hv] at hs
      obtain ⟨hnone, rfl⟩ := majorOf_eq_error_iff.mp hs
      exact .refused hv hnone
  | ok source =>
    rw [ok_bind]
    cases hg : (start.after requests).get? ⟨source, target⟩ with
    | none => exact .passed (sentAt_iff.mpr hs) (latest_adapter_iff.mpr hg)
    | some adapter => exact .adapted (sentAt_iff.mpr hs) (latest_adapter_iff.mpr hg)

theorem adapt_eq_iff :
    (start.after requests).adapt m target = out ↔ Dispatched start requests m target out := by
  constructor
  · rintro rfl
    exact dispatched_adapt
  · exact Dispatched.eq_adapt

/-- An adapter for another route is not met. -/
theorem adapt_register (adapter : Adapter)
    (h : ∀ source, r.majorOf m.version = .ok source → Route.mk source target ≠ route) :
    (r.register route adapter).adapt m target = r.adapt m target := by
  have hmajor : (r.register route adapter).majorOf m.version = r.majorOf m.version := rfl
  rw [adapt_eq, adapt_eq, hmajor]
  cases hs : r.majorOf m.version with
  | error e => rfl
  | ok source => rw [ok_bind, ok_bind, get?_register, if_neg (h source hs)]

end Dispatch

/-- All that can be seen of a registry follows from the requests it has served. Of these the ones to
adapt a message can be left out, whatever came of them. A message with its type beside the header too
has both copies alike in the end, whatever the stages of an adapter write. -/
structure FollowsRequests (start : Registry) (requests : List Request) : Prop where
  get : ∀ route found, (start.after requests).get? route = found ↔
    Latest (Request.adapterFor? route) (start.get? route) requests found
  contains : ∀ route, (start.after requests).contains route = true ↔
    ∃ adapter, (start.after requests).get? route = some adapter
  described : ∃ pairs : List Route,
    (start.after requests).describe =
      "AdapterRegistry \x7b pairs: " ++ Text.bracketed (pairs.map Route.describe) ++ ", config: " ++
        (start.after requests).config.describe ++ " \x7d" ∧
    pairs.Pairwise (· < ·) ∧
    ∀ route, route ∈ pairs ↔ (∃ adapter, .register route adapter ∈ requests) ∨ route ∈ start.routes
  adapt : ∀ (m : Message) (target : Nat) (out : Adapted Message),
    (start.after requests).adapt m target = out ↔ Dispatched start requests m target out
  labelled : ∀ (m : Message) (target : Nat),
    m.labelled.adapt (start.after requests) target =
      ((start.after requests).adapt m target).map Message.labelled
  answered : ∀ (i : Nat) (m : Message) (target : Nat), requests[i]? = some (.adapt m target) →
    ∃ out, (start.answers requests)[i]? = some (some out) ∧
      Dispatched start (requests.take i) m target out
  elsewhere : ∀ (route : Route) (adapter : Adapter) (m : Message) (target : Nat),
    (∀ source, SentAt start requests m.version source → Route.mk source target ≠ route) →
    (start.after (requests ++ [.register route adapter])).adapt m target =
      (start.after requests).adapt m target
  traceless : ∀ (m : Message) (target : Nat) (later : List Request),
    start.after (requests ++ .adapt m target :: later) = start.after (requests ++ later)

/-- Every registry follows its requests, in whatever order they come. -/
theorem follows_requests (start : Start) (requests : List Request) :
    FollowsRequests start.registry requests where
  get _ _ := latest_adapter_iff.symm
  contains route := by rw [contains_eq_isSome, Option.isSome_iff_exists]
  described :=
    ⟨_, rfl, ascending_after (ascending_start start) requests, fun _ => mem_routes_after_iff⟩
  adapt _ _ _ := adapt_eq_iff
  labelled m target := Labelled.adapt_labelled _ m target
  answered i m target h := by
    refine ⟨(start.registry.after (requests.take i)).adapt m target, ?_, dispatched_adapt⟩
    rw [getElem?_answers, h]
    rfl
  elsewhere route adapter m target h := by
    rw [after_append]
    exact adapt_register adapter fun source hs => h source (sentAt_iff.mpr hs)
  traceless m target later := by
    rw [after_append, after_append]
    rfl

/-- Adapts by writing a version of its own. -/
def stamping (version : String) : Adapter where
  target := version
  renames := .empty
  rewrites := .empty
  onHeader m := .ok (m.setVersion (some version))

/-- Says nothing about its version. -/
def plainStatus : Message := .new (.new "status") []

/-- What is asked for before plain messages count as messages of version 5. -/
def beforeSettings : List Request :=
  [.register ⟨5, 5⟩ (stamping "5.1"), .adapt plainStatus 5]

/-- Another adapter in place of the first, and one for the route that plain messages took before. -/
def reconfiguring : List Request :=
  beforeSettings ++ [.configure { legacyMajor := 5 }, .register ⟨5, 5⟩ (stamping "5.2"),
    .register ⟨4, 5⟩ (stamping "4.9")]

theorem follows_requests_reconfiguring :
    ((standard Code.Machine.identifierAt).after beforeSettings).adapt plainStatus 5 =
        .ok (plainStatus.setVersion (some "5.0")) ∧
      ((standard Code.Machine.identifierAt).after reconfiguring).adapt plainStatus 5 =
        .ok (plainStatus.setVersion (some "5.2")) ∧
      ((standard Code.Machine.identifierAt).after
          (reconfiguring ++ [.register ⟨4, 4⟩ (stamping "4.0")])).adapt plainStatus 5 =
        ((standard Code.Machine.identifierAt).after reconfiguring).adapt plainStatus 5 := by
  have hfollows (requests : List Request) :
      FollowsRequests (standard Code.Machine.identifierAt) requests :=
    follows_requests (.withResolver Code.Machine.identifierAt) requests
  have hearly : SentAt (standard Code.Machine.identifierAt) beforeSettings none 4 :=
    .assumed (.unsaid (by simp [beforeSettings, Request.config?]))
  have hlate : SentAt (standard Code.Machine.identifierAt) reconfiguring none 5 := by
    have hsettings : Latest Request.config? (standard Code.Machine.identifierAt).config
        reconfiguring { legacyMajor := 5 } := .said rfl rfl (by simp [Request.config?])
    exact .assumed hsettings
  have hstandard : Latest (Request.adapterFor? ⟨4, 5⟩)
      ((standard Code.Machine.identifierAt).get? ⟨4, 5⟩) beforeSettings
      (some (Upgrade.adapter upgradeRenames)) :=
    .unsaid (by simp [beforeSettings, Request.adapterFor?])
  have hstamping : Latest (Request.adapterFor? ⟨5, 5⟩)
      ((standard Code.Machine.identifierAt).get? ⟨5, 5⟩) reconfiguring (some (stamping "5.2")) := by
    have hsplit : reconfiguring =
        (beforeSettings ++ [.configure { legacyMajor := 5 }]) ++
          .register ⟨5, 5⟩ (stamping "5.2") :: [.register ⟨4, 5⟩ (stamping "4.9")] := rfl
    exact .said hsplit rfl (by simp [Request.adapterFor?])
  refine ⟨?_, ?_, ?_⟩
  · have hadapted := ((hfollows beforeSettings).adapt plainStatus 5 _).mpr (.adapted hearly hstandard)
    exact hadapted.trans rfl
  · have hadapted := ((hfollows reconfiguring).adapt plainStatus 5 _).mpr (.adapted hlate hstamping)
    exact hadapted.trans rfl
  · refine (hfollows reconfiguring).elsewhere _ _ _ _ fun source hsource hroute => ?_
    obtain rfl : source = 4 := congrArg Route.source hroute
    have hfour := (sentAt_iff.mp hsource).symm.trans (sentAt_iff.mp hlate)
    exact absurd (Except.ok.inj hfour) (by decide)

end Registry

end KernelBridge
