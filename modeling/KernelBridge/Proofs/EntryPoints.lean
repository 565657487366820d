import KernelBridge.Proofs.Standard

/-! # Adapting values and adapting messages

A message can be adapted as the value that it arrives as, or read first, adapted and written again.
The first way looks at the declared version without reading the message and gives back a value that
needs no adapter as it is; the second writes the message anew. Runs of both over the same targets go
in lockstep: `Lockstep`.
-/
namespace KernelBridge.Registry
open Json Outcome Protocol

/-- Adapts a value by way of the message that it encodes. -/
def adaptTyped (r : Registry) (v : Value) (target : Nat) : Adapted Value := do
  let adapted ← r.adapt (← Message.ofValue v) target
  return adapted.toValue

/-- The adapter that a value meets on its way to a target, if there is one. -/
def adapterFor? (r : Registry) (v : Value) (target : Nat) : Adapted (Option Adapter) := do
  return r.get? ⟨← r.majorOf (← declaredVersion v), target⟩

/-- The values that successive steps lead to, and the error that ends them early. -/
structure Run where
  values : List Value
  failure : Option Undeliverable

/-- Feeds the result of each step to the next one. -/
def run (step : Value → Nat → Adapted Value) : Value → List Nat → Run
  | _, [] => ⟨[], none⟩
  | v, target :: targets =>
    match step v target with
    | .ok w => ⟨w :: (run step w targets).values, (run step w targets).failure⟩
    | .error e => ⟨[], some e⟩

/-- Some step of a run has an adapter. -/
def MeetsAdapter (r : Registry) : Value → List Nat → Prop
  | _, [] => False
  | v, target :: targets =>
    (∃ adapter, r.adapterFor? v target = .ok (some adapter)) ∨
    ∃ w, r.adaptJson v target = .ok w ∧ r.MeetsAdapter w targets

/-- How the values after some steps of both ways compare, for runs from `v` and of the message `m`. -/
structure InStep (r : Registry) (m : Message) (v : Value) (done : List Nat) (a b : Value) : Prop where
  decoded : ∃ n, Message.ofValue a = .ok n ∧ Message.ofValue b = .ok n
  adapted : r.MeetsAdapter v done → a = b
  untouched : ¬r.MeetsAdapter v done → a = v ∧ b = m.toValue

/-- Runs of both ways, from `v` and from `w`, that go on equally long, compare well after each step
and end for the same reason. -/
structure Lockstep (r : Registry) (m : Message) (targets : List Nat) (v w : Value) : Prop where
  failure : (run r.adaptJson v targets).failure = (run r.adaptTyped w targets).failure
  length : (run r.adaptJson v targets).values.length = (run r.adaptTyped w targets).values.length
  inStep : ∀ (i : Nat) (a b : Value), (run r.adaptJson v targets).values[i]? = some a →
    (run r.adaptTyped w targets).values[i]? = some b → r.InStep m v (targets.take (i + 1)) a b

section Run
variable {step : Value → Nat → Adapted Value} {v w : Value} {target : Nat} {targets : List Nat}

@[simp] theorem run_nil (step : Value → Nat → Adapted Value) (v : Value) :
    run step v [] = ⟨[], none⟩ := rfl

theorem run_cons_ok (h : step v target = .ok w) :
    run step v (target :: targets) =
      ⟨w :: (run step w targets).values, (run step w targets).failure⟩ := by
  rw [run, h]

theorem run_cons_error {e : Undeliverable} (h : step v target = .error e) :
    run step v (target :: targets) = ⟨[], some e⟩ := by
  rw [run, h]

end Run

/-- The version is found without reading the message. -/
theorem declaredVersion_of_ofValue {v : Value} {m : Message} (hv : Message.ofValue v = .ok m) :
    declaredVersion v = .ok m.version := by
  obtain ⟨fields, rfl, hm⟩ := Message.ofValue_eq_ok_iff.mp hv
  obtain ⟨header, hheader, hh, _⟩ := Message.header_of_ofObject hm
  cases header with
  | obj inner =>
    unfold declaredVersion Message.version
    rw [Value.member?_obj, hheader, Option.bind_some, Value.member?_obj]
    rcases Header.version_of_ofObject hh with ⟨h, hn⟩ | ⟨h, hn⟩ | ⟨s, h, hn⟩ <;> rw [h, hn]
  | _ => cases hh

section Step
variable {r : Registry} {v : Value} {m : Message}

theorem adapterFor?_of_ofValue (hv : Message.ofValue v = .ok m) (target : Nat) :
    r.adapterFor? v target = (r.senderMajor m.header).map fun source => r.get? ⟨source, target⟩ := by
  unfold adapterFor?
  rw [declaredVersion_of_ofValue hv, ok_bind]
  change (r.senderMajor m.header >>= _) = _
  cases r.senderMajor m.header <;> rfl

theorem adaptJson_of_ofValue (hv : Message.ofValue v = .ok m) (target : Nat) :
    r.adaptJson v target = r.senderMajor m.header >>= fun source =>
      match r.get? ⟨source, target⟩ with
      | some adapter => (adapter.adapt m).map Message.toValue
      | none => .ok v := by
  unfold adaptJson
  rw [declaredVersion_of_ofValue hv, ok_bind, hv]
  change (r.senderMajor m.header >>= _) = _
  cases r.senderMajor m.header with
  | error e => rfl
  | ok source =>
    simp only [ok_bind]
    cases r.get? ⟨source, target⟩ with
    | none => rfl
    | some adapter => dsimp only; cases adapter.adapt m <;> rfl

theorem adaptTyped_of_ofValue (hv : Message.ofValue v = .ok m) (target : Nat) :
    r.adaptTyped v target = r.senderMajor m.header >>= fun source =>
      match r.get? ⟨source, target⟩ with
      | some adapter => (adapter.adapt m).map Message.toValue
      | none => .ok m.toValue := by
  unfold adaptTyped adapt
  rw [hv, ok_bind]
  cases r.senderMajor m.header with
  | error e => rfl
  | ok source =>
    simp only [ok_bind]
    cases r.get? ⟨source, target⟩ with
    | none => rfl
    | some adapter => dsimp only; cases adapter.adapt m <;> rfl

/-- Without an adapter the first way does nothing and the second writes the message anew. -/
theorem step_pass (hv : Message.ofValue v = .ok m) {source target : Nat}
    (hs : r.senderMajor m.header = .ok source) (hg : r.get? ⟨source, target⟩ = none) :
    r.adaptJson v target = .ok v ∧ r.adaptTyped v target = .ok m.toValue ∧
      r.adapterFor? v target = .ok none := by
  rw [adaptJson_of_ofValue hv, adaptTyped_of_ofValue hv, adapterFor?_of_ofValue hv, hs]
  simp only [ok_bind, map_ok, hg]
  exact ⟨trivial, trivial, trivial⟩

theorem step_adapt (hv : Message.ofValue v = .ok m) {source target : Nat} {a : Adapter}
    (hs : r.senderMajor m.header = .ok source) (hg : r.get? ⟨source, target⟩ = some a) :
    r.adaptJson v target = (a.adapt m).map Message.toValue ∧
      r.adaptTyped v target = (a.adapt m).map Message.toValue ∧
      r.adapterFor? v target = .ok (some a) := by
  rw [adaptJson_of_ofValue hv, adaptTyped_of_ofValue hv, adapterFor?_of_ofValue hv, hs]
  simp only [ok_bind, map_ok, hg]
  exact ⟨trivial, trivial, trivial⟩

theorem step_error (hv : Message.ofValue v = .ok m) {e : Undeliverable}
    (hs : r.senderMajor m.header = .error e) (target : Nat) :
    r.adaptJson v target = .error e ∧ r.adaptTyped v target = .error e := by
  rw [adaptJson_of_ofValue hv, adaptTyped_of_ofValue hv, hs]
  exact ⟨rfl, rfl⟩

/-- A step that both ways fail at. -/
theorem lockstep_of_error {w : Value} {target : Nat} {targets : List Nat} {e : Undeliverable}
    (hj : r.adaptJson v target = .error e)
    (ht : r.adaptTyped w target = .error e) : Lockstep r m (target :: targets) v w := by
  constructor <;> rw [run_cons_error hj, run_cons_error ht]
  simp

end Step

/-- No adapter of the registry spoils the extra keys of a message. -/
def KeepsClean (r : Registry) : Prop :=
  ∀ route a, r.get? route = some a → ∀ m n, a.adapt m = .ok n → m.Clean → n.Clean

theorem keepsClean_standard (resolve : Downgrade.Resolver) (c : Config) :
    ((standard resolve).configure c).KeepsClean := by
  intro route a ha m n hn hm
  obtain ⟨version, h⟩ := restamps_of_get?_standard ha
  exact h.clean hn hm

section Simulation
variable {r : Registry} (hr : r.KeepsClean)
include hr

/-- From a value that was written both ways take the same step, to a value that was written. -/
theorem step_of_clean {n : Message} (hn : n.Clean) (target : Nat) :
    r.adaptTyped n.toValue target = r.adaptJson n.toValue target ∧
      ∀ w, r.adaptJson n.toValue target = .ok w → ∃ k : Message, k.Clean ∧ w = k.toValue := by
  have hv := Message.ofValue_toValue hn
  cases hs : r.senderMajor n.header with
  | error e =>
    obtain ⟨hj, ht⟩ := step_error hv hs target
    refine ⟨ht.trans hj.symm, fun w hw => ?_⟩
    rw [hj] at hw
    cases hw
  | ok source =>
    cases hg : r.get? ⟨source, target⟩ with
    | none =>
      obtain ⟨hj, ht, _⟩ := step_pass hv hs hg
      refine ⟨ht.trans hj.symm, fun w hw => ⟨n, hn, ?_⟩⟩
      rw [hj] at hw
      exact (Except.ok.inj hw).symm
    | some a =>
      obtain ⟨hj, ht, _⟩ := step_adapt hv hs hg
      refine ⟨ht.trans hj.symm, fun w hw => ?_⟩
      rw [hj] at hw
      obtain ⟨k, hk, rfl⟩ := map_eq_ok_iff.mp hw
      exact ⟨k, hr _ _ hg _ _ hk hn, rfl⟩

theorem run_of_clean {n : Message} (hn : n.Clean) (targets : List Nat) :
    run r.adaptTyped n.toValue targets = run r.adaptJson n.toValue targets ∧
      ∀ w ∈ (run r.adaptJson n.toValue targets).values, ∃ k, Message.ofValue w = .ok k := by
  induction targets generalizing n with
  | nil => simp
  | cons target targets ih =>
    obtain ⟨hsame, hnext⟩ := step_of_clean hr hn target
    cases hj : r.adaptJson n.toValue target with
    | error e =>
      rw [run_cons_error hj, run_cons_error (hsame.trans hj)]
      simp
    | ok w =>
      obtain ⟨k, hk, rfl⟩ := hnext w hj
      obtain ⟨hrun, hdecoded⟩ := ih hk
      rw [run_cons_ok hj, run_cons_ok (hsame.trans hj), hrun]
      refine ⟨rfl, fun w hw => ?_⟩
      rcases List.mem_cons.mp hw with rfl | hw
      · exact ⟨k, Message.ofValue_toValue hk⟩
      · exact hdecoded w hw

/-- The first step with an adapter brings both ways to the same value. -/
theorem lockstep_of_adapted {m n : Message} (hn : n.Clean) {v w : Value} {target : Nat}
    {targets : List Nat} {a : Adapter} (ha : r.adapterFor? v target = .ok (some a))
    (hj : r.adaptJson v target = .ok n.toValue) (ht : r.adaptTyped w target = .ok n.toValue) :
    Lockstep r m (target :: targets) v w := by
  obtain ⟨hrun, hdecoded⟩ := run_of_clean hr hn targets
  constructor <;> rw [run_cons_ok hj, run_cons_ok ht, hrun]
  intro i a b hia hib
  have hab : a = b := Option.some.inj (hia.symm.trans hib)
  subst hab
  have hmeets : r.MeetsAdapter v ((target :: targets).take (i + 1)) := Or.inl ⟨_, ha⟩
  refine ⟨?_, fun _ => rfl, fun h => absurd hmeets h⟩
  rcases List.mem_cons.mp (List.mem_of_getElem? hia) with rfl | hmem
  · exact ⟨n, Message.ofValue_toValue hn, Message.ofValue_toValue hn⟩
  · obtain ⟨k, hk⟩ := hdecoded a hmem
    exact ⟨k, hk, hk⟩

/-- Both ways start at values that encode the same message. The second way is at the message written
anew after each step without an adapter, which is what the induction runs over. -/
theorem lockstep_of_ofValue {m : Message} {v w : Value} (hv : Message.ofValue v = .ok m)
    (hw : Message.ofValue w = .ok m) (targets : List Nat) : Lockstep r m targets v w := by
  have hm := Message.clean_of_ofValue hv
  induction targets generalizing w with
  | nil => exact ⟨rfl, rfl, by simp⟩
  | cons target targets ih =>
    cases hs : r.senderMajor m.header with
    | error e =>
      exact lockstep_of_error (step_error hv hs target).1 (step_error hw hs target).2
    | ok source =>
      cases hg : r.get? ⟨source, target⟩ with
      | some a =>
        obtain ⟨hj, _, ha⟩ := step_adapt hv hs hg
        obtain ⟨_, ht, _⟩ := step_adapt hw hs hg
        cases hn : a.adapt m with
        | error e =>
          rw [hn, map_error] at hj ht
          exact lockstep_of_error hj ht
        | ok n =>
          rw [hn, map_ok] at hj ht
          exact lockstep_of_adapted hr (hr _ _ hg _ _ hn hm) ha hj ht
      | none =>
        obtain ⟨hj, _, ha⟩ := step_pass hv hs hg
        obtain ⟨_, ht, _⟩ := step_pass hw hs hg
        have hrest := ih (Message.ofValue_toValue hm)
        have hmeets : ∀ rest, r.MeetsAdapter v (target :: rest) ↔ r.MeetsAdapter v rest := by
          intro rest
          simp [MeetsAdapter, ha, hj]
        constructor
        · rw [run_cons_ok hj, run_cons_ok ht]
          exact hrest.failure
        · rw [run_cons_ok hj, run_cons_ok ht, List.length_cons, List.length_cons, hrest.length]
        · rw [run_cons_ok hj, run_cons_ok ht]
          intro i a b hia hib
          cases i with
          | zero =>
            cases hia
            cases hib
            refine ⟨⟨m, hv, Message.ofValue_toValue hm⟩, fun h => ?_, fun _ => ⟨rfl, rfl⟩⟩
            exact ((hmeets []).mp h).elim
          | succ i =>
            obtain ⟨hd, heq, hpass⟩ := hrest.inStep i a b hia hib
            exact ⟨hd, fun h => heq ((hmeets _).mp h), fun h => hpass (h ∘ (hmeets _).mpr)⟩

end Simulation

/-- The two ways of adapting agree over runs of any length, whatever the configuration. -/
theorem entry_points_in_lockstep (resolve : Downgrade.Resolver) (c : Config) (targets : List Nat)
    {v : Value} {m : Message} (hv : Message.ofValue v = .ok m) :
    Lockstep ((standard resolve).configure c) m targets v v :=
  lockstep_of_ofValue (keepsClean_standard resolve c) hv hv targets

/-- An error broadcast as an older kernel sends it. -/
def legacyError : Value :=
  .obj [("buffers", .arr []), ("content", .obj [("ename", .str "E")]),
    ("header", .obj [("msg_type", .str "pyerr"), ("session", .str "a"), ("version", .null)]),
    ("msg_type", .int 7), ("parent_header", .null)]

def legacyErrorMessage : Message :=
  ⟨⟨"pyerr", none, [("session", .str "a")]⟩, [], [("ename", .str "E")], [], [("buffers", .arr [])]⟩

theorem entry_points_in_lockstep_legacyError :
    Message.ofValue legacyError = .ok legacyErrorMessage ∧
      Lockstep ((standard Code.Machine.identifierAt).configure {}) legacyErrorMessage [4, 5, 5]
        legacyError legacyError :=
  ⟨rfl, entry_points_in_lockstep Code.Machine.identifierAt {} [4, 5, 5] rfl⟩

end KernelBridge.Registry
