import KernelBridge.Proofs.Crossing
import KernelBridge.Proofs.Downgrade
import KernelBridge.Proofs.Exactness
import KernelBridge.Proofs.Upgrade

/-! # Which messages find no way back to version 4

The upward rewrites carry some values over without a look at them and fill in others that version 4
cannot express. The errors that await such a content on its way back are read off the content as it
was at first. Apart from them a resolver may fail to count out the object that a name asks for; the
resolver for identifiers does not, since the cursor at the end of a name is not the greatest one.
-/
namespace KernelBridge.Protocol
open Json Outcome
variable {resolve : Downgrade.Resolver} {t : String} {content result : Object}
variable {down up : Object → Object.Field Object} {e : FieldError}

/-- The errors on the way back of messages of version 4. -/
inductive NoWayBack (t : String) (content : Object) : FieldError → Prop
  | completeReply (ht : t = "complete_reply") :
      NoWayBack t content (.invalid "cursor_end" "an integer")
  | executeReply {v : Value} {items : List Value} (ht : t = "execute_reply")
      (h : content.get? "payload" = some (.arr (v :: items))) :
      NoWayBack t content (.unsupported "payloads cannot be expressed in protocol 4")
  | completeRequestLine (ht : t = "complete_request")
      (h : ∀ s, content.get? "line" ≠ some (.str s)) :
      NoWayBack t content (.invalid "code" "a string")
  | completeRequestCursor {s : String} (ht : t = "complete_request")
      (hs : content.get? "line" = some (.str s))
      (h : ∀ n : Nat, n < 0x10000000000000000 → content.get? "cursor_pos" ≠ some (.nat n)) :
      NoWayBack t content (.invalid "cursor_pos" "a non-negative integer")

/-- The types whose contents may find no way back keep their name. -/
theorem NoWayBack.mem (h : NoWayBack t content e) :
    t ∈ ["complete_reply", "execute_reply", "complete_request"] := by
  cases h <;> simp [*]

theorem NoWayBack.mem_rewrittenTypes (h : NoWayBack t content e) : t ∈ rewrittenTypes := by
  cases h <;> simp [*, rewrittenTypes]

theorem NoWayBack.ne_overflow (h : NoWayBack t content e) : e ≠ .overflow := by
  cases h <;> exact FieldError.noConfusion

theorem NoWayBack.within_eq (h : NoWayBack t content e) :
    e.within (downgradeRenames.apply t) = e.within t := by
  rw [downgrade_apply]
  cases h <;> simp [*]

theorem NoWayBack.upgrade_apply_eq (h : NoWayBack t content e) : upgradeRenames.apply t = t := by
  rw [upgrade_apply]
  cases h <;> simp [*]

/-- No renamed type becomes one of these. -/
theorem NoWayBack.upgrade_apply_iff :
    NoWayBack (upgradeRenames.apply t) content e ↔ NoWayBack t content e := by
  constructor
  · intro h
    have hmem := h.mem
    have hkeeps : upgradeRenames.apply t = t := by
      rw [upgrade_apply] at hmem ⊢
      grind
    rwa [hkeeps] at h
  · intro h
    rwa [h.upgrade_apply_eq]

/-- The end of a completion is filled in with null. -/
theorem completeReply_eq_error_iff (hu : Upgrade.completeReply content = .ok result) :
    Downgrade.completeReply result = .error e ↔ NoWayBack "complete_reply" content e := by
  obtain ⟨matched, found, _, _, hr⟩ := Upgrade.completeReply_eq_ok_iff.mp hu
  have hstart : result.get? "cursor_start" =
      some (.int (Word.negate (Word.ofCount matched.length))) := by
    simp [← hr, Assoc.get?_ofList, Assoc.get?_cons]
  have hnull : result.get? "cursor_end" = some .null := by
    simp [← hr, Assoc.get?_ofList, Assoc.get?_cons]
  have hstop : result.requiredInteger "cursor_end" = .error (.invalid "cursor_end" "an integer") :=
    (Object.requiredAs_eq_error_iff_of_get? hnull).mpr ⟨rfl, rfl⟩
  rw [Downgrade.completeReply_eq_error_of_stop hstart (Word.fitsInt64_negate _) hstop]
  constructor
  · intro h
    cases h
    exact .completeReply rfl
  · intro h
    cases h with
    | completeReply _ => rfl
    | _ ht => exact absurd ht (by decide)

theorem executeReply_eq_error_iff (hu : Upgrade.executeReply content = .ok result) :
    Downgrade.executeReply result = .error e ↔ NoWayBack "execute_reply" content e := by
  have hp : Downgrade.hasPayload result = true ↔
      ∃ v items, content.get? "payload" = some (.arr (v :: items)) := by
    rw [Downgrade.hasPayload_iff, Upgrade.get?_executeReply hu (by decide)]
  unfold Downgrade.executeReply
  constructor
  · intro h
    split at h
    · next hr =>
      obtain ⟨v, items, hv⟩ := hp.mp hr
      cases h
      exact .executeReply rfl hv
    · cases h
  · intro h
    cases h with
    | executeReply _ hv => rw [if_pos (hp.mpr ⟨_, _, hv⟩)]
    | _ ht => exact absurd ht (by decide)

theorem completeRequest_eq_error_iff (hu : Upgrade.completeRequest content = .ok result) :
    Downgrade.completeRequest result = .error e ↔ NoWayBack "complete_request" content e := by
  obtain ⟨line, cursor, hl, hc, hr⟩ := Upgrade.completeRequest_eq_ok_iff.mp hu
  have hcode : result.get? "code" = some line := by
    simp [← hr, Assoc.get?_ofList, Assoc.get?_cons]
  have hcursor : result.get? "cursor_pos" = some cursor := by
    simp [← hr, Assoc.get?_ofList, Assoc.get?_cons]
  rw [Downgrade.completeRequest_eq_error_iff, hcode, Object.requiredString, Object.requiredCursor,
    Object.requiredAs_eq_error_iff_of_get? hcode, Object.requiredAs_eq_error_iff_of_get? hcursor,
    Value.asString?_eq_none_iff, Value.asUInt64?_eq_none_iff]
  constructor
  · rintro (⟨hs, rfl⟩ | ⟨⟨s, hs⟩, hn, rfl⟩)
    · exact .completeRequestLine rfl fun s h => hs s (Option.some.inj (hl.symm.trans h))
    · exact .completeRequestCursor rfl (hl.trans hs)
        fun n hlt h => hn n hlt (Option.some.inj (hc.symm.trans h))
  · intro h
    cases h with
    | completeRequestLine _ hs =>
      exact Or.inl ⟨fun s h => hs s (h ▸ hl), rfl⟩
    | completeRequestCursor _ hs hn =>
      exact Or.inr ⟨⟨_, hl.symm.trans hs⟩, fun n hlt h => hn n hlt (h ▸ hc), rfl⟩
    | _ ht => exact absurd ht (by decide)

/-- A status that an upward rewrite puts in is no error. -/
theorem Crossing.status_up (h : Crossing resolve t down up) (hu : up content = .ok result) :
    result.get? "status" = content.get? "status" ∨ result.get? "status" = none ∨
      result.get? "status" = some (.str "ok") := by
  cases h with
  | kernelInfoReply => exact Or.inl (Upgrade.get?_kernelInfoReply hu (by decide))
  | executeRequest =>
    obtain ⟨names, expressions, entries, _, _, _, rfl⟩ := Upgrade.executeRequest_eq_ok_iff.mp hu
    simp [Upgrade.get?_prepareExpressions]
  | executeReply => exact Or.inl (Upgrade.get?_executeReply hu (by decide))
  | completeRequest =>
    obtain ⟨line, cursor, _, _, rfl⟩ := Upgrade.completeRequest_eq_ok_iff.mp hu
    simp [Assoc.get?_ofList, Assoc.get?_cons]
  | completeReply =>
    obtain ⟨matched, found, _, _, rfl⟩ := Upgrade.completeReply_eq_ok_iff.mp hu
    simp [Assoc.get?_ofList, Assoc.get?_cons]
  | inspectRequest =>
    obtain ⟨name, detail, _, _, rfl⟩ := Upgrade.inspectRequest_eq_ok_iff.mp hu
    simp [Assoc.get?_ofList, Assoc.get?_cons]
  | inspectReply =>
    obtain ⟨found, name, _, _, rfl⟩ := Upgrade.inspectReply_eq_ok_iff.mp hu
    simp [Assoc.get?_ofList, Assoc.get?_cons]
  | displayData =>
    obtain ⟨data, _, rfl⟩ := Upgrade.displayData_eq_ok_iff.mp hu
    simp
  | inputRequest =>
    cases hu
    simp

theorem Crossing.reportsError_up (h : Crossing resolve t down up)
    (he : content.reportsError = false) (hu : up content = .ok result) :
    result.reportsError = false := by
  rcases h.status_up hu with hs | hs | hs
  · exact (Object.reportsError_congr hs).trans he
  · simp [← Bool.not_eq_true, Object.reportsError_iff, hs]
  · simp [← Bool.not_eq_true, Object.reportsError_iff, hs]

/-- A request for an object whose name the resolver, with the cursor at its end, cannot count out. -/
def BreaksOffBack (resolve : Downgrade.Resolver) (t : String) (content : Object) : Prop :=
  t = "inspect_request" ∧ ∃ name, content.get? "oname" = some (.str name) ∧
    (resolve name (Word.ofCount name.length)).exact = false

theorem inspectRequest_eq_error_iff (hu : Upgrade.inspectRequest content = .ok result) :
    Downgrade.objectInfoRequest resolve result = .error e ↔
      BreaksOffBack resolve "inspect_request" content ∧ e = .overflow := by
  obtain ⟨name, detail, hname, _, rfl⟩ := Upgrade.inspectRequest_eq_ok_iff.mp hu
  have hcount := Word.fitsUInt64_iff.mp (Word.fitsUInt64_ofCount name.length)
  have hread : Downgrade.inspected (Assoc.ofList [("code", .str name),
      ("cursor_pos", .nat (Word.ofCount name.length)), ("detail_level", detail)]) =
      .ok (name, Word.ofCount name.length, detail) := by
    refine Downgrade.inspected_eq_ok_iff.mpr ⟨?_, ⟨?_, hcount⟩, ?_⟩
    · simp [Assoc.get?_ofList, Assoc.get?_cons]
    · simp [Assoc.get?_ofList, Assoc.get?_cons]
    · simp [Assoc.get?_ofList, Assoc.get?_cons]
  rw [Downgrade.objectInfoRequest_eq, hread, ok_bind, map_eq_error_iff,
    Downgrade.checked_eq_error_iff, BreaksOffBack, and_iff_right rfl, hname]
  simp

/-- All other rewrites leave what the way back asks for. -/
theorem Crossing.exists_down (h : Crossing resolve t down up) (hu : up content = .ok result)
    (ht : t ∉ ["complete_reply", "execute_reply", "complete_request", "inspect_request"]) :
    ∃ d, down result = .ok d := by
  cases h with
  | kernelInfoReply =>
    obtain ⟨language, hl, _⟩ := Upgrade.kernelInfoReply_eq_ok_iff.mp hu
    exact Downgrade.exists_kernelInfoReply
      ((Upgrade.get?_kernelInfoReply hu (by decide)).trans hl)
  | displayData =>
    obtain ⟨data, hdata, rfl⟩ := Upgrade.displayData_eq_ok_iff.mp hu
    refine ⟨_, Downgrade.displayData_eq_ok_iff.mpr ⟨Upgrade.readJson data, ?_, rfl⟩⟩
    simp [hdata]
  | executeRequest => exact ⟨_, rfl⟩
  | inspectReply => exact ⟨_, rfl⟩
  | inputRequest => exact ⟨_, rfl⟩
  | completeReply => simp at ht
  | executeReply => simp at ht
  | completeRequest => simp at ht
  | inspectRequest => simp at ht

/-- The two ways to fail: a field that version 4 cannot take, and a name that cannot be counted out. -/
def FailsBack (resolve : Downgrade.Resolver) (t : String) (content : Object) (e : FieldError) :
    Prop :=
  NoWayBack t content e ∨ BreaksOffBack resolve t content ∧ e = .overflow

theorem FailsBack.mem_rewrittenTypes (h : FailsBack resolve t content e) : t ∈ rewrittenTypes := by
  rcases h with hno | ⟨⟨rfl, _⟩, _⟩
  · exact hno.mem_rewrittenTypes
  · decide

theorem FailsBack.within_eq (h : FailsBack resolve t content e) :
    e.within (downgradeRenames.apply t) = e.within t := by
  rcases h with hno | ⟨_, rfl⟩
  · exact hno.within_eq
  · rfl

theorem failsBack_iff_noWayBack (ht : t ≠ "inspect_request") :
    FailsBack resolve t content e ↔ NoWayBack t content e :=
  or_iff_left fun hbreaks => ht hbreaks.1.1

theorem Crossing.down_eq_error_iff (h : Crossing resolve t down up)
    (hu : up content = .ok result) : down result = .error e ↔ FailsBack resolve t content e := by
  by_cases ht : t ∈ ["complete_reply", "execute_reply", "complete_request", "inspect_request"]
  · cases h with
    | completeReply =>
      exact (completeReply_eq_error_iff hu).trans (failsBack_iff_noWayBack (by decide)).symm
    | executeReply =>
      exact (executeReply_eq_error_iff hu).trans (failsBack_iff_noWayBack (by decide)).symm
    | completeRequest =>
      exact (completeRequest_eq_error_iff hu).trans (failsBack_iff_noWayBack (by decide)).symm
    | inspectRequest =>
      have hnone : ¬NoWayBack "inspect_request" content e := fun hno => absurd hno.mem (by decide)
      exact (inspectRequest_eq_error_iff hu).trans (or_iff_right hnone).symm
    | _ => simp at ht
  · obtain ⟨d, hd⟩ := h.exists_down hu ht
    rw [hd]
    constructor
    · intro h
      cases h
    · rintro (hno | ⟨⟨rfl, _⟩, _⟩)
      · have hmem := hno.mem
        simp_all
      · simp at ht

/-- The errors of the content alone, for the type as version 5 calls it. -/
theorem downgradeContent_upgraded_eq_error_iff {u : Undeliverable} (hl : t ∉ legacyNames)
    (hu : upgradeContent t content = .ok result) :
    downgradeContent resolve t result = .error u ↔
      content.reportsError = false ∧ ∃ f, FailsBack resolve t content f ∧ f.within t = u := by
  rcases carried_or_crossing resolve t content with hc | ⟨he, down, up, hcross⟩
  · obtain ⟨hdown, hup⟩ := content_carried resolve hl hc
    cases hup.symm.trans hu
    rw [hdown]
    constructor
    · intro h
      cases h
    · rintro ⟨he, f, hf, _⟩
      rcases hc with hc | hc
      · rw [hc] at he
        cases he
      · exact absurd hf.mem_rewrittenTypes hc
  · rw [hcross.upgradeContent_eq he] at hu
    have hup := mapError_eq_ok_iff.mp hu
    rw [hcross.downgradeContent_eq (hcross.reportsError_up he hup), mapError_eq_error_iff]
    constructor
    · rintro ⟨f, hdown, rfl⟩
      have hf := (hcross.down_eq_error_iff hup).mp hdown
      exact ⟨he, f, hf, hf.within_eq.symm⟩
    · rintro ⟨_, f, hf, rfl⟩
      exact ⟨f, (hcross.down_eq_error_iff hup).mpr hf, hf.within_eq⟩

section Back
variable {m n : Message} {u : Undeliverable}

theorem downgrade_upgraded_fails_iff (h : upgrade m = .ok n) :
    downgrade resolve n = .error u ↔
      m.content.reportsError = false ∧
        ∃ f, FailsBack resolve (upgradeRenames.apply m.msgType) m.content f ∧
          f.within (upgradeRenames.apply m.msgType) = u := by
  rw [upgrade_eq] at h
  obtain ⟨result, hu, rfl⟩ := map_eq_ok_iff.mp h
  rw [downgrade_eq, Message.msgType_restamp, Message.content_restamp, map_eq_error_iff,
    downgradeContent_upgraded_eq_error_iff (upgrade_apply_not_mem _) hu]

theorem downgrade_upgraded_refuses_iff (h : upgrade m = .ok n) :
    downgrade resolve n = .error u ∧ u ≠ .overflow ↔
      m.content.reportsError = false ∧
        ∃ f, NoWayBack m.msgType m.content f ∧ f.within m.msgType = u := by
  rw [downgrade_upgraded_fails_iff h, and_assoc]
  refine and_congr_right fun _ =>
    (Downgrade.exists_within_and_ne_overflow_iff fun _ => NoWayBack.ne_overflow).trans ?_
  refine exists_congr fun f => ?_
  rw [NoWayBack.upgrade_apply_iff]
  refine and_congr_right fun hf => ?_
  rw [hf.upgrade_apply_eq]

theorem downgrade_upgraded_overflows_iff (h : upgrade m = .ok n) :
    downgrade resolve n = .error .overflow ↔
      m.content.reportsError = false ∧
        BreaksOffBack resolve (upgradeRenames.apply m.msgType) m.content := by
  rw [downgrade_upgraded_fails_iff h]
  exact and_congr_right fun _ =>
    Downgrade.exists_within_eq_overflow_iff fun _ => NoWayBack.ne_overflow

/-- With the cursor at the end of a name that a machine can hold nothing leaves the words. -/
theorem not_breaksOffBack
    (hname : ∀ name, content.get? "oname" = some (.str name) → Code.Machine.Storable name) :
    ¬BreaksOffBack Code.Machine.identifierAt t content := by
  rintro ⟨_, name, hget, hinexact⟩
  have hlength := (hname name hget).length_lt
  rw [Word.Computed.ofCount_eq_self (by omega),
    Code.Machine.identifierAt_eq (hname name hget) (by omega)] at hinexact
  cases hinexact

/-- Exactly the upgraded messages that `NoWayBack` tells, unless they report an error, are refused on
their way back. Nothing else stops them but a name that the resolver cannot count out, and the resolver
for identifiers always can. -/
theorem downgrade_upgraded_eq_error_iff (h : upgrade m = .ok n) :
    (∀ resolve u, downgrade resolve n = .error u ∧ u ≠ .overflow ↔
      m.content.reportsError = false ∧
        ∃ f, NoWayBack m.msgType m.content f ∧ f.within m.msgType = u) ∧
    (∀ resolve, downgrade resolve n = .error .overflow ↔
      m.content.reportsError = false ∧
        BreaksOffBack resolve (upgradeRenames.apply m.msgType) m.content) ∧
    ((∀ name, m.content.get? "oname" = some (.str name) → Code.Machine.Storable name) →
      downgrade Code.Machine.identifierAt n ≠ .error .overflow) :=
  ⟨fun _ _ => downgrade_upgraded_refuses_iff h, fun _ => downgrade_upgraded_overflows_iff h,
    fun hname hover => not_breaksOffBack hname ((downgrade_upgraded_overflows_iff h).mp hover).2⟩

end Back

/-- A completion of version 4. -/
def legacyCompletion : Message :=
  .new ⟨"complete_reply", none, []⟩ [("matched_text", .str "pri"), ("matches", .arr [.str "print"])]

theorem downgrade_upgraded_legacyCompletion :
    ∃ n, upgrade legacyCompletion = .ok n ∧
      downgrade Code.Machine.identifierAt n =
        .error (.invalidField "complete_reply" "cursor_end" "an integer") := by
  obtain ⟨n, hn⟩ : ∃ n, upgrade legacyCompletion = .ok n := ⟨_, rfl⟩
  have hrefused := ((downgrade_upgraded_eq_error_iff hn).1 Code.Machine.identifierAt _).mpr
    ⟨by decide, _, .completeReply rfl, rfl⟩
  exact ⟨n, hn, hrefused.1⟩

end KernelBridge.Protocol
