import KernelBridge.Proofs.Crossing
import KernelBridge.Proofs.Downgrade
import KernelBridge.Proofs.Upgrade

/-! # What is delivered downward can be delivered upward again

Every rewrite to version 4 leaves the fields that its counterpart asks for, except that the reply
about a kernel may take the language from its details and then leaves none to version 4.
-/
namespace KernelBridge.Protocol
open Json Outcome

/-- Contents as version 5 has them: without the keys of version 4, with the others of their kind. -/
structure Modern (content : Object) : Prop where
  userVariables : content.get? "user_variables" = none
  implementation : content.get? implementationKey = none
  ipythonVersion : content.get? "ipython_version" = none
  userExpressions : content.get? "user_expressions" = none ∨
    ∃ expressions, content.get? "user_expressions" = some (.obj expressions)
  language : ∀ v, content.get? "language" = some v → ∃ s, v = .str s
  languageName : ∀ v, (content.get? "language_info").bind (·.member? "name") = some v →
    ∃ s, v = .str s

variable {resolve : Downgrade.Resolver} {t : String} {content result : Object}
variable {down up : Object → Object.Field Object}

theorem Modern.exists_expressions (h : Modern content) :
    ∃ expressions, (content.get? "user_expressions").getD (.obj []) = .obj expressions := by
  rcases h.userExpressions with hn | ⟨expressions, he⟩
  · exact ⟨[], by rw [hn, Option.getD_none]⟩
  · exact ⟨expressions, by rw [he, Option.getD_some]⟩

/-- The upward rewrite finds what it asks for in the result of the downward one. -/
theorem Crossing.exists_up (h : Crossing resolve t down up) (hm : Modern content)
    (hd : down content = .ok result)
    (hx : ¬(t = "kernel_info_reply" ∧ content.get? "language" = none)) :
    ∃ d, up result = .ok d := by
  cases h with
  | kernelInfoReply =>
    cases hl : content.get? "language" with
    | none => exact absurd ⟨rfl, hl⟩ hx
    | some v =>
      obtain ⟨s, rfl⟩ := hm.language v hl
      have hr : result.get? "language" = some (.str s) :=
        (Downgrade.get?_kernelInfoReply hd (by decide)).trans hl
      exact ⟨_, Upgrade.kernelInfoReply_eq_ok_iff.mpr ⟨s, hr, rfl⟩⟩
  | executeRequest =>
    cases hd
    obtain ⟨expressions, he⟩ := hm.exists_expressions
    exact ⟨_, Upgrade.executeRequest_of_empty (by simp [hm.userVariables]) (by simpa using he)⟩
  | executeReply =>
    obtain ⟨_, rfl⟩ := Downgrade.executeReply_eq_ok_iff.mp hd
    obtain ⟨expressions, he⟩ := hm.exists_expressions
    exact ⟨_, Upgrade.executeReply_of_empty (by simp [hm.userVariables]) (by simpa using he)⟩
  | completeRequest =>
    obtain ⟨code, cursor, _, _, rfl⟩ := Downgrade.completeRequest_eq_ok_iff.mp hd
    refine ⟨_, Upgrade.completeRequest_eq_ok_iff.mpr
      ⟨.str (Code.lineAt code cursor).1, .nat (Code.lineAt code cursor).2, ?_, ?_, rfl⟩⟩
    · simp [Assoc.get?_ofList, Assoc.get?_cons]
    · simp [Assoc.get?_ofList, Assoc.get?_cons]
  | completeReply =>
    obtain ⟨start, stop, text, _, _, ⟨items, hi⟩, rfl⟩ := Downgrade.completeReply_eq_ok_iff.mp hd
    refine ⟨_, Upgrade.completeReply_eq_ok_iff.mpr
      ⟨Downgrade.takeSigned text (Word.saturatingSub stop start), .arr (.str text :: items),
        ?_, ?_, rfl⟩⟩
    · rw [Assoc.get?_insert, if_pos rfl]
    · rw [Assoc.get?_insert, if_neg (by decide), Assoc.get?_without, if_neg (by decide), hi]
  | inspectRequest =>
    obtain ⟨_, _, detail, name, _, _, _, _, rfl⟩ := Downgrade.objectInfoRequest_eq_ok_iff.mp hd
    refine ⟨_, Upgrade.inspectRequest_eq_ok_iff.mpr ⟨name, detail, ?_, ?_, rfl⟩⟩
    · simp [Assoc.get?_ofList, Assoc.get?_cons]
    · simp [Assoc.get?_ofList, Assoc.get?_cons]
  | inspectReply =>
    cases hd
    exact ⟨_, Upgrade.inspectReply_eq_ok_iff.mpr ⟨_, _, rfl, rfl, rfl⟩⟩
  | displayData =>
    obtain ⟨data, hdata, rfl⟩ := Downgrade.displayData_eq_ok_iff.mp hd
    refine ⟨_, Upgrade.displayData_eq_ok_iff.mpr ⟨Downgrade.printJson data, ?_, rfl⟩⟩
    simp [hdata]
  | inputRequest => exact ⟨_, rfl⟩

/-- The one way in which a delivered message can be undeliverable on its way back: version 4 only
reads the language of a kernel off its own key. -/
def LanguageInDetails (m : Message) : Prop :=
  m.msgType = "kernel_info_reply" ∧ m.content.reportsError = false ∧
    m.content.get? "language" = none

theorem upgradeContent_of_downgradeContent (hl : t ∉ legacyNames) (hm : Modern content)
    (hd : downgradeContent resolve t content = .ok result)
    (hx : ¬(t = "kernel_info_reply" ∧ content.reportsError = false ∧
      content.get? "language" = none)) :
    ∃ d, upgradeContent t result = .ok d := by
  rcases carried_or_crossing resolve t content with hc | ⟨he, down, up, hcross⟩
  · obtain ⟨hdown, hup⟩ := content_carried resolve hl hc
    cases hdown.symm.trans hd
    exact ⟨_, hup⟩
  · rw [hcross.downgradeContent_eq he] at hd
    have hdown := mapError_eq_ok_iff.mp hd
    cases hr : result.reportsError with
    | true => exact ⟨_, RewriteTable.convert_of_reportsError _ _ hr⟩
    | false =>
      obtain ⟨d, hup⟩ := hcross.exists_up hm hdown fun h => hx ⟨h.1, he, h.2⟩
      rw [hcross.upgradeContent_eq hr]
      exact ⟨d, mapError_eq_ok_iff.mpr hup⟩

/-- The reply about a kernel keeps its status and its language, or the lack of one. -/
theorem upgradeContent_eq_error (he : content.reportsError = false)
    (hl : content.get? "language" = none)
    (hd : downgradeContent resolve "kernel_info_reply" content = .ok result) :
    upgradeContent "kernel_info_reply" result =
      .error (.missingField "kernel_info_reply" "language") := by
  have hcross : Crossing resolve _ _ _ := .kernelInfoReply
  rw [hcross.downgradeContent_eq he] at hd
  have hdown := mapError_eq_ok_iff.mp hd
  have hstatus : result.get? "status" = content.get? "status" :=
    Downgrade.get?_kernelInfoReply hdown (by decide)
  have hlanguage : result.get? "language" = content.get? "language" :=
    Downgrade.get?_kernelInfoReply hdown (by decide)
  have hr : result.reportsError = false := (Object.reportsError_congr hstatus).trans he
  rw [hcross.upgradeContent_eq hr, Upgrade.kernelInfoReply_eq_error (hlanguage.trans hl)]
  rfl

/-- A message that was delivered downward can be delivered upward again, unless it only gives its
language with the details. -/
theorem upgrade_downgraded {m n : Message} (hl : m.msgType ∉ legacyNames) (hm : Modern m.content)
    (h : downgrade resolve m = .ok n) :
    (¬LanguageInDetails m → ∃ k, upgrade n = .ok k) ∧
      (LanguageInDetails m →
        upgrade n = .error (.missingField "kernel_info_reply" "language")) := by
  rw [downgrade_eq] at h
  obtain ⟨result, hd, rfl⟩ := map_eq_ok_iff.mp h
  rw [upgrade_eq, Message.msgType_restamp, Message.content_restamp, upgrade_apply_downgrade hl]
  constructor
  · intro hx
    obtain ⟨d, hup⟩ := upgradeContent_of_downgradeContent hl hm hd hx
    exact ⟨_, map_eq_ok_iff.mpr ⟨d, hup, rfl⟩⟩
  · rintro ⟨ht, he, hlanguage⟩
    rw [ht] at hd ⊢
    rw [upgradeContent_eq_error he hlanguage hd]
    rfl

/-- A reply about a kernel that only gives its language with the details. -/
def detailedReply : Message :=
  .new ⟨"kernel_info_reply", some "5.0", []⟩
    [("language_info", .obj [("name", .str "python"), ("version", .str "3.4.0")])]

theorem modern_detailedReply : Modern detailedReply.content where
  userVariables := rfl
  implementation := rfl
  ipythonVersion := rfl
  userExpressions := Or.inl rfl
  language := fun v h => by cases h
  languageName := fun v h => ⟨"python", (Option.some.inj h).symm⟩

/-- The same reply with the implementation that version 4 knows. -/
def legacyReply : Message :=
  .new ⟨"kernel_info_reply", none, []⟩
    [(implementationKey, .str "python"),
      ("language_info", .obj [("name", .str "python"), ("version", .str "3.4.0")])]

theorem upgrade_downgraded_detailedReply :
    downgrade Code.Machine.identifierAt detailedReply = .ok legacyReply ∧
      upgrade legacyReply = .error (.missingField "kernel_info_reply" "language") :=
  ⟨rfl, (upgrade_downgraded (m := detailedReply) (by decide) modern_detailedReply
    (rfl : downgrade Code.Machine.identifierAt detailedReply = .ok legacyReply)).2
      ⟨rfl, by decide, rfl⟩⟩

/-- Not all that is delivered downward can be delivered upward again. -/
theorem not_always_deliverable_again :
    ¬∀ m n, m.msgType ∉ legacyNames → Modern m.content →
      downgrade Code.Machine.identifierAt m = .ok n → ∃ k, upgrade n = .ok k := by
  intro h
  obtain ⟨k, hk⟩ := h detailedReply legacyReply (by decide) modern_detailedReply rfl
  have hup : upgrade legacyReply = .error (.missingField "kernel_info_reply" "language") := rfl
  rw [hk] at hup
  cases hup

end KernelBridge.Protocol
