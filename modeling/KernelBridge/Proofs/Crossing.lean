import KernelBridge.Proofs.Standard

/-! # Types of messages on both sides

The two tables of renames are inverse to each other apart from names that one side does not know. A
type is either carried in both directions without a rewrite or crosses with a pair of them, which
`Crossing` lists under the names of version 5.
-/
namespace KernelBridge.Protocol
open Json Outcome

/-- What only version 5 calls a type. -/
def currentNames : List String := typeNames.map (·.1)

/-- What only version 4 calls a type. -/
def legacyNames : List String := typeNames.map (·.2)

theorem downgrade_renamed? (t : String) :
    downgradeRenames.renamed? t = Assoc.get? typeNames t := by
  have h : downgradeRenames.pairs = Assoc.arrange typeNames := by decide
  rw [TypeRenames.renamed?, h, Assoc.get?_arrange]

theorem upgrade_renamed? (t : String) :
    upgradeRenames.renamed? t = Assoc.get? (typeNames.map Prod.swap) t := by
  have h : upgradeRenames.pairs = Assoc.arrange (typeNames.map Prod.swap) := by decide
  rw [TypeRenames.renamed?, h, Assoc.get?_arrange]

theorem downgrade_apply (t : String) :
    downgradeRenames.apply t =
      if t = "execute_result" then "pyout"
      else if t = "execute_input" then "pyin"
      else if t = "error" then "pyerr"
      else if t = "inspect_request" then "object_info_request"
      else if t = "inspect_reply" then "object_info_reply" else t := by
  rw [TypeRenames.apply, downgrade_renamed?]
  simp only [typeNames, Assoc.get?_cons, Assoc.get?_nil]
  repeat' split
  all_goals rfl

theorem upgrade_apply (t : String) :
    upgradeRenames.apply t =
      if t = "pyout" then "execute_result"
      else if t = "pyin" then "execute_input"
      else if t = "pyerr" then "error"
      else if t = "object_info_request" then "inspect_request"
      else if t = "object_info_reply" then "inspect_reply" else t := by
  rw [TypeRenames.apply, upgrade_renamed?]
  simp only [typeNames, List.map_cons, List.map_nil, Prod.swap_prod_mk, Assoc.get?_cons,
    Assoc.get?_nil]
  repeat' split
  all_goals rfl

theorem mem_currentNames {t : String} :
    t ∈ currentNames ↔ t = "execute_result" ∨ t = "execute_input" ∨ t = "error" ∨
      t = "inspect_request" ∨ t = "inspect_reply" := by
  simp [currentNames, typeNames]

theorem mem_legacyNames {t : String} :
    t ∈ legacyNames ↔ t = "pyout" ∨ t = "pyin" ∨ t = "pyerr" ∨ t = "object_info_request" ∨
      t = "object_info_reply" := by
  simp [legacyNames, typeNames]

theorem upgrade_apply_downgrade {t : String} (h : t ∉ legacyNames) :
    upgradeRenames.apply (downgradeRenames.apply t) = t := by
  rw [mem_legacyNames] at h
  rw [downgrade_apply, upgrade_apply]
  grind

theorem downgrade_apply_upgrade {t : String} (h : t ∉ currentNames) :
    downgradeRenames.apply (upgradeRenames.apply t) = t := by
  rw [mem_currentNames] at h
  rw [downgrade_apply, upgrade_apply]
  grind

/-- An upgraded message has a type that version 5 knows. -/
theorem upgrade_apply_not_mem (t : String) : upgradeRenames.apply t ∉ legacyNames := by
  rw [mem_legacyNames, upgrade_apply]
  grind

/-- The types whose contents differ, with the rewrite in each direction. -/
inductive Crossing (resolve : Downgrade.Resolver) :
    String → (Object → Object.Field Object) → (Object → Object.Field Object) → Prop
  | kernelInfoReply : Crossing resolve "kernel_info_reply" Downgrade.kernelInfoReply
      Upgrade.kernelInfoReply
  | executeRequest : Crossing resolve "execute_request" Downgrade.executeRequest
      Upgrade.executeRequest
  | executeReply : Crossing resolve "execute_reply" Downgrade.executeReply Upgrade.executeReply
  | completeRequest : Crossing resolve "complete_request" Downgrade.completeRequest
      Upgrade.completeRequest
  | completeReply : Crossing resolve "complete_reply" Downgrade.completeReply Upgrade.completeReply
  | inspectRequest : Crossing resolve "inspect_request" (Downgrade.objectInfoRequest resolve)
      Upgrade.inspectRequest
  | inspectReply : Crossing resolve "inspect_reply" Downgrade.objectInfoReply Upgrade.inspectReply
  | displayData : Crossing resolve "display_data" Downgrade.displayData Upgrade.displayData
  | inputRequest : Crossing resolve "input_request" Downgrade.inputRequest Upgrade.inputRequest

/-- The types, as version 5 calls them, whose contents differ. -/
def rewrittenTypes : List String :=
  ["kernel_info_reply", "execute_request", "execute_reply", "complete_request", "complete_reply",
    "inspect_request", "inspect_reply", "display_data", "input_request"]

variable {resolve : Downgrade.Resolver} {t : String}
variable {down up : Object → Object.Field Object}

theorem exists_crossing (resolve : Downgrade.Resolver) (h : t ∈ rewrittenTypes) :
    ∃ down up, Crossing resolve t down up := by
  simp only [rewrittenTypes, List.mem_cons, List.not_mem_nil, or_false] at h
  rcases h with rfl | rfl | rfl | rfl | rfl | rfl | rfl | rfl | rfl
  · exact ⟨_, _, .kernelInfoReply⟩
  · exact ⟨_, _, .executeRequest⟩
  · exact ⟨_, _, .executeReply⟩
  · exact ⟨_, _, .completeRequest⟩
  · exact ⟨_, _, .completeReply⟩
  · exact ⟨_, _, .inspectRequest⟩
  · exact ⟨_, _, .inspectReply⟩
  · exact ⟨_, _, .displayData⟩
  · exact ⟨_, _, .inputRequest⟩

theorem Crossing.mem (h : Crossing resolve t down up) : t ∈ rewrittenTypes := by
  cases h <;> decide

theorem Crossing.downgrade_get? (h : Crossing resolve t down up) :
    (Downgrade.rewrites resolve).get? (downgradeRenames.apply t) =
      some fun content => (down content).mapError (FieldError.within (downgradeRenames.apply t)) := by
  rw [Downgrade.rewrites, RewriteTable.get?_ofList, downgrade_apply]
  cases h <;> simp [Assoc.get?_cons]

theorem Crossing.upgrade_get? (h : Crossing resolve t down up) :
    Upgrade.rewrites.get? t = some fun content => (up content).mapError (FieldError.within t) := by
  rw [Upgrade.rewrites, RewriteTable.get?_ofList]
  cases h <;> simp [Assoc.get?_cons]

/-- A type under its name in version 5 keeps it on the way up. -/
theorem Crossing.upgrade_apply (h : Crossing resolve t down up) : upgradeRenames.apply t = t := by
  cases h <;> decide

theorem downgrade_get?_eq_none (resolve : Downgrade.Resolver) (h : t ∉ rewrittenTypes)
    (hl : t ∉ legacyNames) :
    (Downgrade.rewrites resolve).get? (downgradeRenames.apply t) = none := by
  rw [mem_legacyNames] at hl
  simp only [rewrittenTypes, List.mem_cons, List.not_mem_nil, or_false] at h
  rw [Downgrade.rewrites, RewriteTable.get?_ofList, Option.map_eq_none_iff,
    Assoc.get?_eq_none_iff, downgrade_apply]
  repeat' split
  all_goals simp_all [Assoc.keys]

theorem upgrade_get?_eq_none (h : t ∉ rewrittenTypes) : Upgrade.rewrites.get? t = none := by
  simp only [rewrittenTypes, List.mem_cons, List.not_mem_nil, or_false] at h
  rw [Upgrade.rewrites, RewriteTable.get?_ofList, Option.map_eq_none_iff, Assoc.get?_eq_none_iff]
  simp_all [Assoc.keys]

/-- The content of a message of a type, as version 5 calls it, on the way down. -/
def downgradeContent (resolve : Downgrade.Resolver) (t : String) (content : Object) :
    Adapted Object :=
  (Downgrade.rewrites resolve).convert (downgradeRenames.apply t) content

/-- The content of a message of a type, as version 5 calls it, on the way up. -/
def upgradeContent (t : String) (content : Object) : Adapted Object :=
  Upgrade.rewrites.convert t content

theorem Crossing.downgradeContent_eq (h : Crossing resolve t down up) {content : Object}
    (he : content.reportsError = false) :
    downgradeContent resolve t content =
      (down content).mapError (FieldError.within (downgradeRenames.apply t)) := by
  simp [downgradeContent, RewriteTable.convert, h.downgrade_get?, he]

theorem Crossing.upgradeContent_eq (h : Crossing resolve t down up) {content : Object}
    (he : content.reportsError = false) :
    upgradeContent t content = (up content).mapError (FieldError.within t) := by
  simp [upgradeContent, RewriteTable.convert, h.upgrade_get?, he]

/-- Both rewrites apply if the first keeps the status. -/
theorem Crossing.down_up (h : Crossing resolve t down up) {content middle result : Object}
    (he : content.reportsError = false) (hd : down content = .ok middle)
    (hs : middle.get? "status" = content.get? "status") (hu : up middle = .ok result) :
    (downgradeContent resolve t content >>= upgradeContent t) = .ok result := by
  have hr : middle.reportsError = false := by rw [Object.reportsError_congr hs, he]
  rw [h.downgradeContent_eq he, hd, mapError_ok, ok_bind, h.upgradeContent_eq hr, hu, mapError_ok]

theorem Crossing.up_down (h : Crossing resolve t down up) {content middle result : Object}
    (he : content.reportsError = false) (hu : up content = .ok middle)
    (hs : middle.get? "status" = content.get? "status") (hd : down middle = .ok result) :
    (upgradeContent t content >>= downgradeContent resolve t) = .ok result := by
  have hr : middle.reportsError = false := by rw [Object.reportsError_congr hs, he]
  rw [h.upgradeContent_eq he, hu, mapError_ok, ok_bind, h.downgradeContent_eq hr, hd, mapError_ok]

/-- Contents that pass unchanged in both directions. -/
theorem content_carried (resolve : Downgrade.Resolver) {content : Object} (hl : t ∉ legacyNames)
    (h : content.reportsError = true ∨ t ∉ rewrittenTypes) :
    downgradeContent resolve t content = .ok content ∧ upgradeContent t content = .ok content := by
  unfold downgradeContent upgradeContent
  rcases h with h | h
  · exact ⟨RewriteTable.convert_of_reportsError _ _ h, RewriteTable.convert_of_reportsError _ _ h⟩
  · unfold RewriteTable.convert
    rw [downgrade_get?_eq_none resolve h hl, upgrade_get?_eq_none h]
    exact ⟨rfl, rfl⟩

/-- A content is carried in both directions, or a pair of rewrites applies to it. -/
theorem carried_or_crossing (resolve : Downgrade.Resolver) (t : String) (content : Object) :
    (content.reportsError = true ∨ t ∉ rewrittenTypes) ∨
    (content.reportsError = false ∧ ∃ down up, Crossing resolve t down up) := by
  cases he : content.reportsError with
  | true => exact Or.inl (Or.inl rfl)
  | false =>
    by_cases ht : t ∈ rewrittenTypes
    · exact Or.inr ⟨rfl, exists_crossing resolve ht⟩
    · exact Or.inl (Or.inr ht)

theorem downgrade_eq (resolve : Downgrade.Resolver) (m : Message) :
    downgrade resolve m = (downgradeContent resolve m.msgType m.content).map
      (m.restamp none (downgradeRenames.apply m.msgType)) :=
  (Downgrade.restamps _ _).adapt_eq m

theorem upgrade_eq (m : Message) :
    upgrade m = (upgradeContent (upgradeRenames.apply m.msgType) m.content).map
      (m.restamp (some Version.currentText) (upgradeRenames.apply m.msgType)) :=
  (Upgrade.restamps _).adapt_eq m

/-- A message of a rewritten type goes down exactly if its content does. -/
theorem Crossing.downgrade_eq_ok_iff (h : Crossing resolve t down up) {m n : Message}
    (ht : m.msgType = t) (he : m.content.reportsError = false) :
    downgrade resolve m = .ok n ↔
      ∃ result, down m.content = .ok result ∧
        m.restamp none (downgradeRenames.apply t) result = n := by
  rw [downgrade_eq, ht, h.downgradeContent_eq he, map_eq_ok_iff]
  simp only [mapError_eq_ok_iff]

theorem Crossing.downgrade_eq_error_iff (h : Crossing resolve t down up) {m : Message}
    (ht : m.msgType = t) (he : m.content.reportsError = false) {u : Undeliverable} :
    downgrade resolve m = .error u ↔
      ∃ e, down m.content = .error e ∧ e.within (downgradeRenames.apply t) = u := by
  rw [downgrade_eq, ht, h.downgradeContent_eq he, map_eq_error_iff, mapError_eq_error_iff]

/-- A message of a rewritten type, under its name in version 5, goes up exactly if its content does. -/
theorem Crossing.upgrade_eq_ok_iff (h : Crossing resolve t down up) {m n : Message}
    (ht : m.msgType = t) (he : m.content.reportsError = false) :
    upgrade m = .ok n ↔
      ∃ result, up m.content = .ok result ∧
        m.restamp (some Version.currentText) t result = n := by
  rw [upgrade_eq, ht, h.upgrade_apply, h.upgradeContent_eq he, map_eq_ok_iff]
  simp only [mapError_eq_ok_iff]

/-- Down and up again: of the envelope only the version differs in the end. -/
theorem downgrade_bind_upgrade (resolve : Downgrade.Resolver) {m : Message}
    (hl : m.msgType ∉ legacyNames) :
    (downgrade resolve m >>= upgrade) =
      (downgradeContent resolve m.msgType m.content >>= upgradeContent m.msgType).map
        (m.restamp (some Version.currentText) m.msgType) := by
  rw [downgrade_eq]
  cases downgradeContent resolve m.msgType m.content with
  | error e => rfl
  | ok content =>
    rw [map_ok, ok_bind, ok_bind, upgrade_eq, Message.msgType_restamp, Message.content_restamp,
      upgrade_apply_downgrade hl]
    rfl

/-- Up and down again: a message that declared no version keeps its envelope. -/
theorem upgrade_bind_downgrade (resolve : Downgrade.Resolver) {m : Message}
    (hc : m.msgType ∉ currentNames) :
    (upgrade m >>= downgrade resolve) =
      (upgradeContent (upgradeRenames.apply m.msgType) m.content >>=
        downgradeContent resolve (upgradeRenames.apply m.msgType)).map
        (m.restamp none m.msgType) := by
  rw [upgrade_eq]
  cases upgradeContent (upgradeRenames.apply m.msgType) m.content with
  | error e => rfl
  | ok content =>
    rw [map_ok, ok_bind, ok_bind, downgrade_eq, Message.msgType_restamp, Message.content_restamp,
      downgrade_apply_upgrade hc]
    rfl

end KernelBridge.Protocol
