import KernelBridge.Assoc.Ascending
import KernelBridge.Proofs.Crossing
import KernelBridge.Proofs.Downgrade
import KernelBridge.Proofs.Labelled
import KernelBridge.Proofs.Upgrade

/-! # What comes back as it was

A message that goes to the other version and back keeps everything but the version it declares when
its content is carried, and also when the rewrites of its type only add what the way back takes away
or take away what it adds.
-/
namespace KernelBridge.Protocol
open Json Outcome
variable {resolve : Downgrade.Resolver} {t : String} {content result expressions : Object}
variable {down up : Object → Object.Field Object}

/-- Messages of version 5 that come back from version 4 with the same content. -/
inductive Lossless (t : String) (content : Object) : Prop
  | errorReply (h : content.reportsError = true)
  | carried (h : t ∉ rewrittenTypes)
  | executeRequest {expressions : Object} (ht : t = "execute_request")
      (hv : content.get? "user_variables" = none)
      (he : content.get? "user_expressions" = some (.obj expressions))
  | executeReply {expressions : Object} (ht : t = "execute_reply")
      (hp : ∀ v items, content.get? "payload" ≠ some (.arr (v :: items)))
      (hv : content.get? "user_variables" = none)
      (he : content.get? "user_expressions" = some (.obj expressions))
  | inputRequest (ht : t = "input_request") (h : content.get? "password" = some (.bool false))

/-- Messages of version 4 that come back from version 5 with the same content. -/
inductive LegacyLossless (t : String) (content : Object) : Prop
  | errorReply (h : content.reportsError = true)
  | carried (h : upgradeRenames.apply t ∉ rewrittenTypes)
  | executeRequest {expressions : Object} (ht : t = "execute_request")
      (hv : content.get? "user_variables" = some (.arr []))
      (he : content.get? "user_expressions" = some (.obj expressions))
  | executeReply {expressions : Object} (ht : t = "execute_reply")
      (hp : ∀ v items, content.get? "payload" ≠ some (.arr (v :: items)))
      (hv : content.get? "user_variables" = some (.obj []))
      (he : content.get? "user_expressions" = some (.obj expressions))
  | inputRequest (ht : t = "input_request") (h : content.get? "password" = none)

/-- Variables that were added on the way down are dropped again, and the expressions are left. -/
theorem modify_prepareExpressions_insertNew (hm : content.Ascending)
    (hv : content.get? "user_variables" = none)
    (he : content.get? "user_expressions" = some (.obj expressions)) (v : Value) :
    Assoc.modify (Upgrade.prepareExpressions (content.insertNew "user_variables" v))
      "user_expressions" (fun _ => .obj expressions) = content := by
  have hprepared := ((hm.insertNew "user_variables" v).erase "user_variables").insertNew
    "user_expressions" (.obj [])
  refine Assoc.Ascending.ext (hprepared.modify _ _) hm fun k => ?_
  rw [Assoc.get?_modify, Upgrade.get?_prepareExpressions]
  by_cases hk : k = "user_expressions"
  · simp [hk, he]
  · by_cases hk : k = "user_variables" <;> simp [*]

/-- Variables that were dropped on the way up are added again. -/
theorem insertNew_modify_prepareExpressions (hm : content.Ascending) {v : Value}
    (hv : content.get? "user_variables" = some v)
    (he : content.get? "user_expressions" = some (.obj expressions)) :
    Assoc.insertNew (Assoc.modify (Upgrade.prepareExpressions content) "user_expressions"
      (fun _ => .obj expressions)) "user_variables" v = content := by
  have hprepared := (hm.erase "user_variables").insertNew "user_expressions" (.obj [])
  refine Assoc.Ascending.ext ((hprepared.modify _ _).insertNew _ _) hm fun k => ?_
  rw [Assoc.get?_insertNew, Assoc.get?_modify, Assoc.get?_modify, Upgrade.get?_prepareExpressions,
    Upgrade.get?_prepareExpressions]
  by_cases hk : k = "user_expressions"
  · simp [hk, he]
  · by_cases hk : k = "user_variables" <;> simp [*]

theorem executeRequest_insertNew (hm : content.Ascending)
    (hv : content.get? "user_variables" = none)
    (he : content.get? "user_expressions" = some (.obj expressions)) :
    Upgrade.executeRequest (content.insertNew "user_variables" (.arr [])) = .ok content := by
  have hx : (Assoc.get? (content.insertNew "user_variables" (.arr [])) "user_expressions").getD
      (.obj []) = .obj expressions := by simp [he]
  rw [Upgrade.executeRequest_of_empty (by simp [hv]) hx,
    modify_prepareExpressions_insertNew hm hv he]

theorem executeReply_insertNew (hm : content.Ascending)
    (hv : content.get? "user_variables" = none)
    (he : content.get? "user_expressions" = some (.obj expressions)) :
    Upgrade.executeReply (content.insertNew "user_variables" (.obj [])) = .ok content := by
  have hx : (Assoc.get? (content.insertNew "user_variables" (.obj [])) "user_expressions").getD
      (.obj []) = .obj expressions := by simp [he]
  rw [Upgrade.executeReply_of_empty (by simp [hv]) hx,
    modify_prepareExpressions_insertNew hm hv he]

theorem Lossless.down_up (h : Lossless t content) (hl : t ∉ legacyNames)
    (hm : content.Ascending) :
    (downgradeContent resolve t content >>= upgradeContent t) = .ok content := by
  rcases carried_or_crossing resolve t content with hc | ⟨hr, down, up, hcross⟩
  · obtain ⟨hdown, hup⟩ := content_carried resolve hl hc
    rw [hdown, ok_bind, hup]
  · cases h with
    | errorReply h => simp [h] at hr
    | carried h => exact absurd hcross.mem h
    | executeRequest ht hv he =>
      subst ht
      exact Crossing.executeRequest.down_up hr rfl (by simp) (executeRequest_insertNew hm hv he)
    | executeReply ht hp hv he =>
      subst ht
      have hdown := Downgrade.executeReply_eq_ok_iff.mpr
        ⟨Downgrade.hasPayload_eq_false_iff.mpr hp, rfl⟩
      exact Crossing.executeReply.down_up hr hdown (by simp) (executeReply_insertNew hm hv he)
    | inputRequest ht h =>
      subst ht
      refine Crossing.inputRequest.down_up hr rfl (by simp) (congrArg Except.ok ?_)
      refine Assoc.Ascending.ext ((hm.erase _).insertNew _ _) hm fun k => ?_
      by_cases hk : k = "password" <;> simp [hk, h]

theorem LegacyLossless.up_down (h : LegacyLossless t content) (hm : content.Ascending) :
    (upgradeContent (upgradeRenames.apply t) content >>=
      downgradeContent resolve (upgradeRenames.apply t)) = .ok content := by
  rcases carried_or_crossing resolve (upgradeRenames.apply t) content with
    hc | ⟨hr, down, up, hcross⟩
  · obtain ⟨hdown, hup⟩ := content_carried resolve (upgrade_apply_not_mem t) hc
    rw [hup, ok_bind, hdown]
  -- The three rewritten types that are left keep their name.
  · have hkeeps : ∀ s ∈ ["execute_request", "execute_reply", "input_request"],
        upgradeRenames.apply s = s := by decide
    cases h with
    | errorReply h => simp [h] at hr
    | carried h => exact absurd hcross.mem h
    | executeRequest ht hv he =>
      subst ht
      have hup := Upgrade.executeRequest_of_empty hv (by rw [he, Option.getD_some])
      rw [hkeeps _ (by simp)]
      refine Crossing.executeRequest.up_down hr hup ?_ (congrArg Except.ok ?_)
      · simp [Upgrade.get?_prepareExpressions]
      · exact insertNew_modify_prepareExpressions hm hv he
    | executeReply ht hp hv he =>
      subst ht
      have hup := Upgrade.executeReply_of_empty hv (by rw [he, Option.getD_some])
      rw [hkeeps _ (by simp)]
      refine Crossing.executeReply.up_down hr hup (Upgrade.get?_executeReply hup (by decide)) ?_
      refine Downgrade.executeReply_eq_ok_iff.mpr ⟨Downgrade.hasPayload_eq_false_iff.mpr ?_, ?_⟩
      · rw [Upgrade.get?_executeReply hup (by decide)]
        exact hp
      · exact insertNew_modify_prepareExpressions hm hv he
    | inputRequest ht h =>
      subst ht
      rw [hkeeps _ (by simp)]
      refine Crossing.inputRequest.up_down hr rfl (by simp) (congrArg Except.ok ?_)
      refine Assoc.Ascending.ext ((hm.insertNew _ _).erase _) hm fun k => ?_
      by_cases hk : k = "password" <;> simp [hk, h]

/-- On messages with both copies of the type. -/
def downgradeLabelled (resolve : Downgrade.Resolver) (l : Labelled) : Adapted Labelled :=
  l.adaptBy (Downgrade.adapter downgradeRenames resolve)

def upgradeLabelled (l : Labelled) : Adapted Labelled :=
  l.adaptBy (Upgrade.adapter upgradeRenames)

theorem downgradeLabelled_bind (resolve : Downgrade.Resolver) (m : Message) :
    (downgradeLabelled resolve m.labelled >>= upgradeLabelled) =
      (downgrade resolve m >>= upgrade).map Message.labelled :=
  Labelled.adaptBy_bind_labelled _ _ m

theorem upgradeLabelled_bind (resolve : Downgrade.Resolver) (m : Message) :
    (upgradeLabelled m.labelled >>= downgradeLabelled resolve) =
      (upgrade m >>= downgrade resolve).map Message.labelled :=
  Labelled.adaptBy_bind_labelled _ _ m

theorem Lossless.round_trip {m : Message} (h : Lossless m.msgType m.content)
    (hl : m.msgType ∉ legacyNames) (hm : m.content.Ascending) :
    (downgrade resolve m >>= upgrade) = .ok (m.setVersion (some "5.0")) := by
  rw [downgrade_bind_upgrade resolve hl, h.down_up hl hm, map_ok, Message.restamp_self]
  rfl

theorem LegacyLossless.round_trip {m : Message} (h : LegacyLossless m.msgType m.content)
    (hc : m.msgType ∉ currentNames) (hv : m.version = none) (hm : m.content.Ascending) :
    (upgrade m >>= downgrade resolve) = .ok m := by
  rw [upgrade_bind_downgrade resolve hc, h.up_down hm, map_ok, Message.restamp_self, ← hv]
  rfl

/-- Down and up again only the declared version changes, and up and down again nothing does, neither of
a message nor of its type beside the header. Contents are objects with their keys in order, so that a
key which was dropped comes back to its place. -/
theorem lossless_round_trips (resolve : Downgrade.Resolver) {m : Message}
    (hm : m.content.Ascending) :
    (m.msgType ∉ legacyNames → Lossless m.msgType m.content →
      (downgrade resolve m >>= upgrade) = .ok (m.setVersion (some "5.0")) ∧
      (downgradeLabelled resolve m.labelled >>= upgradeLabelled) =
        .ok (m.setVersion (some "5.0")).labelled) ∧
    (m.msgType ∉ currentNames → m.version = none →
      LegacyLossless m.msgType m.content →
      (upgrade m >>= downgrade resolve) = .ok m ∧
      (upgradeLabelled m.labelled >>= downgradeLabelled resolve) = .ok m.labelled) := by
  constructor
  · intro hl h
    have hround : (downgrade resolve m >>= upgrade) = .ok (m.setVersion (some "5.0")) :=
      h.round_trip hl hm
    exact ⟨hround, by rw [downgradeLabelled_bind, hround, map_ok]⟩
  · intro hc hv h
    have hround : (upgrade m >>= downgrade resolve) = .ok m := h.round_trip hc hv hm
    exact ⟨hround, by rw [upgradeLabelled_bind, hround, map_ok]⟩

/-- A request that asks for expressions only. -/
def plainRequest : Message :=
  .new ⟨"execute_request", some "5.3", [("session", .str "a")]⟩
    [("code", .str "x"), ("user_expressions", .obj [("y", .str "y")])]

/-- A reply of version 4 without values. -/
def emptyReply : Message :=
  .new ⟨"execute_reply", none, [("session", .str "a")]⟩
    [("payload", .arr []), ("user_expressions", .obj []), ("user_variables", .obj [])]

theorem lossless_round_trips_execute :
    (downgrade Code.Machine.identifierAt plainRequest >>= upgrade) =
        .ok (plainRequest.setVersion (some "5.0")) ∧
      (upgrade emptyReply >>= downgrade Code.Machine.identifierAt) = .ok emptyReply := by
  have hrequest : plainRequest.content.Ascending := by decide
  have hreply : emptyReply.content.Ascending := by decide
  constructor
  · exact ((lossless_round_trips Code.Machine.identifierAt hrequest).1 (by decide)
      (.executeRequest rfl rfl rfl)).1
  · exact ((lossless_round_trips Code.Machine.identifierAt hreply).2 (by decide) rfl
      (.executeReply rfl (fun v items h => by cases h) rfl rfl)).1

end KernelBridge.Protocol
