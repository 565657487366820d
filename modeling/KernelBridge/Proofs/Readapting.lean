import KernelBridge.Proofs.Crossing
import KernelBridge.Proofs.Downgrade

/-! # Adapting again

What was adapted to a version is left alone when it is adapted to that version again, unless headers
without a version are taken for headers of version 5. The way down drops the version, and such a
registry would then send the message down once more.
-/
namespace KernelBridge.Registry
open Json Outcome Protocol

/-- Adapting a result to its target again gives the same result. -/
def Settles (r : Registry) : Prop :=
  ∀ m target n, r.adapt m target = .ok n → r.adapt n target = .ok n

section Adapt
variable {r : Registry} {m : Message} {source target : Nat}

theorem adapt_of_pass (hs : r.senderMajor m.header = .ok source)
    (hg : r.get? ⟨source, target⟩ = none) : r.adapt m target = .ok m := by
  unfold adapt
  rw [hs, ok_bind, hg]
  rfl

theorem adapt_of_adapter {a : Adapter} (hs : r.senderMajor m.header = .ok source)
    (hg : r.get? ⟨source, target⟩ = some a) : r.adapt m target = a.adapt m := by
  unfold adapt
  rw [hs, ok_bind, hg]

theorem exists_senderMajor {n : Message} (h : r.adapt m target = .ok n) :
    ∃ source, r.senderMajor m.header = .ok source :=
  let ⟨source, hs, _⟩ := bind_eq_ok_iff.mp h
  ⟨source, hs⟩

theorem senderMajor_of_unversioned (h : m.version = none) :
    r.senderMajor m.header = .ok r.config.legacyMajor := by
  change r.majorOf m.version = _
  rw [h, majorOf]

theorem senderMajor_of_current (h : m.version = some Version.currentText) :
    r.senderMajor m.header = .ok 5 := by
  change r.majorOf m.version = _
  rw [h]
  rfl

end Adapt

variable {resolve : Downgrade.Resolver} {c : Config}

theorem get?_standard_eq_none_iff {source target : Nat} :
    ((standard resolve).configure c).get? ⟨source, target⟩ = none ↔
      ¬(source = 4 ∧ target = 5) ∧ ¬(source = 5 ∧ target = 4) := by
  rw [get?_standard]
  simp only [Route.mk.injEq]
  by_cases hup : source = 4 ∧ target = 5
  · simp [hup]
  · by_cases hdown : source = 5 ∧ target = 4 <;> simp [hup, hdown]

/-- An adapted message carries the version of its target, or none below version 5. -/
theorem version_of_adapter {source target : Nat} {a : Adapter} {m n : Message}
    (hg : ((standard resolve).configure c).get? ⟨source, target⟩ = some a)
    (ha : a.adapt m = .ok n) :
    (target = 5 ∧ n.version = some Version.currentText) ∨ (target = 4 ∧ n.version = none) := by
  rw [get?_standard] at hg
  split at hg
  · next hroute =>
    cases hroute
    cases hg
    obtain ⟨content, _, rfl⟩ := (Upgrade.restamps _).exists_restamp ha
    exact Or.inl ⟨rfl, rfl⟩
  · split at hg
    · next hroute =>
      cases hroute
      cases hg
      obtain ⟨content, _, rfl⟩ := (Downgrade.restamps _ _).exists_restamp ha
      exact Or.inr ⟨rfl, rfl⟩
    · cases hg

theorem settles_of_legacyMajor_ne (h : c.legacyMajor ≠ 5) :
    ((standard resolve).configure c).Settles := by
  intro m target n ha
  obtain ⟨source, hs⟩ := exists_senderMajor ha
  cases hg : ((standard resolve).configure c).get? ⟨source, target⟩ with
  | none =>
    rw [adapt_of_pass hs hg] at ha
    cases ha
    exact adapt_of_pass hs hg
  | some a =>
    rw [adapt_of_adapter hs hg] at ha
    rcases version_of_adapter hg ha with ⟨rfl, hv⟩ | ⟨rfl, hv⟩
    · exact adapt_of_pass (senderMajor_of_current hv) (get?_standard_eq_none_iff.mpr (by decide))
    · refine adapt_of_pass (senderMajor_of_unversioned hv) (get?_standard_eq_none_iff.mpr ?_)
      simp [h]

/-- The result of a completion request has no status, and a line in the place of the code. -/
theorem completeRequest_completeRequest {content result : Object}
    (h : Downgrade.completeRequest content = .ok result) :
    result.reportsError = false ∧
      Downgrade.completeRequest result = .error (.missing "code") := by
  obtain ⟨code, cursor, _, _, rfl⟩ := Downgrade.completeRequest_eq_ok_iff.mp h
  constructor
  · simp [← Bool.not_eq_true, Object.reportsError_iff, Assoc.get?_ofList, Assoc.get?_cons]
  · refine Downgrade.completeRequest_eq_error_iff.mpr (Or.inl ?_)
    refine Object.requiredAs_eq_error_iff.mpr (Or.inl ⟨?_, rfl⟩)
    simp [Assoc.get?_ofList, Assoc.get?_cons]

theorem downgrade_completeRequest {m : Message} (ht : m.msgType = "complete_request")
    (he : m.content.reportsError = false) :
    downgrade resolve m =
      ((Downgrade.completeRequest m.content).mapError (FieldError.within "complete_request")).map
        (m.restamp none "complete_request") := by
  have hname : downgradeRenames.apply "complete_request" = "complete_request" := by
    simp [downgrade_apply]
  have hcross : Crossing resolve "complete_request" _ _ := .completeRequest
  rw [downgrade_eq, ht, hcross.downgradeContent_eq he, hname]

/-- A completion request that went down cannot go down a second time. -/
theorem downgrade_downgraded_completeRequest {m n : Message}
    (ht : m.msgType = "complete_request") (he : m.content.reportsError = false)
    (h : downgrade resolve m = .ok n) :
    downgrade resolve n = .error (.missingField "complete_request" "code") := by
  rw [downgrade_completeRequest ht he] at h
  obtain ⟨result, hresult, rfl⟩ := map_eq_ok_iff.mp h
  obtain ⟨hstatus, hagain⟩ := completeRequest_completeRequest (mapError_eq_ok_iff.mp hresult)
  rw [downgrade_completeRequest (m := m.restamp _ _ _) rfl hstatus, Message.content_restamp, hagain]
  rfl

/-- A request to complete three characters. -/
def completion : Message :=
  .new ⟨"complete_request", some "5.0", []⟩ [("code", .str "pri"), ("cursor_pos", .nat 3)]

theorem exists_downgrade_completion (resolve : Downgrade.Resolver) :
    ∃ n, downgrade resolve completion = .ok n ∧ n.version = none := by
  rw [downgrade_completeRequest rfl (by decide), Downgrade.completeRequest_eq_ok_iff.mpr
    ⟨"pri", 3, rfl, ⟨rfl, by decide⟩, rfl⟩]
  exact ⟨_, rfl, rfl⟩

theorem not_settles_of_legacyMajor (h : c.legacyMajor = 5) :
    ¬((standard resolve).configure c).Settles := by
  intro hsettles
  obtain ⟨n, hn, hv⟩ := exists_downgrade_completion resolve
  have hg : ((standard resolve).configure c).get? ⟨5, 4⟩ =
      some (Downgrade.adapter downgradeRenames resolve) := by
    rw [get?_standard]
    rfl
  have hfirst : ((standard resolve).configure c).adapt completion 4 = .ok n :=
    (adapt_of_adapter (senderMajor_of_current rfl) hg).trans hn
  have hsource : ((standard resolve).configure c).senderMajor n.header = .ok 5 := by
    rw [senderMajor_of_unversioned hv, config_configure, h]
  have hsecond := hsettles completion 4 n hfirst
  rw [adapt_of_adapter hsource hg] at hsecond
  cases hsecond.symm.trans (downgrade_downgraded_completeRequest rfl (by decide) hn)

/-- Adapting again does nothing exactly if the registry does not read headers without a version as
headers of version 5. -/
theorem settles_standard_iff (resolve : Downgrade.Resolver) (c : Config) :
    ((standard resolve).configure c).Settles ↔ c.legacyMajor ≠ 5 :=
  ⟨fun hsettles h => not_settles_of_legacyMajor h hsettles, settles_of_legacyMajor_ne⟩

end KernelBridge.Registry
