import KernelBridge.Proofs.Labelled

/-! # What the adapters leave alone

Of a message an adapter of this library changes the version, both copies of the type and the
content. It goes by the label and the content alone: messages that agree in these come out with the
same label and the same content, or fail for the same reason, whatever envelopes they have.
-/
namespace KernelBridge
open Json Outcome Protocol

namespace Labelled
variable {a : Adapter} {version : Option String} {l n : Labelled}

/-- What has become of a message after the header stage set the version. The new name of its type is
looked up once; what that name is renamed to does not matter. Copies of the type that were equal are
equal again. -/
structure Framed (a : Adapter) (version : Option String) (l n : Labelled) : Prop where
  parentHeader : n.message.parentHeader = l.message.parentHeader
  metadata : n.message.metadata = l.message.metadata
  headerExtra : n.message.header.extra = l.message.header.extra
  extra : n.message.extra = l.message.extra
  version : n.message.version = version
  renamed : ∀ msgType, a.renames.renamed? l.label = some msgType →
    n.label = msgType ∧ n.message.msgType = msgType
  notRenamed : a.renames.renamed? l.label = none →
    n.label = l.label ∧ n.message.msgType = l.message.msgType
  copies : l.message.msgType = l.label →
    n.label = a.renames.apply l.label ∧ n.message.msgType = a.renames.apply l.label
  carried : a.rewrites.get? n.label = none ∨ l.message.isErrorReply = true →
    n.message.content = l.message.content
  rewritten : ∀ rewrite, a.rewrites.get? n.label = some rewrite → l.message.isErrorReply = false →
    rewrite l.message.content = .ok n.message.content

/-- What an adapter looks at and what it makes of it. -/
def essence (l : Labelled) : String × Object := (l.label, l.message.content)

theorem renameBy_of_renamed {renames : TypeRenames} {msgType : String}
    (h : renames.renamed? l.label = some msgType) : l.renameBy renames = l.retype msgType := by
  unfold renameBy
  rw [h]

theorem renameBy_of_notRenamed {renames : TypeRenames} (h : renames.renamed? l.label = none) :
    l.renameBy renames = l := by
  unfold renameBy
  rw [h]

def setVersion (l : Labelled) (version : Option String) : Labelled :=
  { l with message := l.message.setVersion version }

/-- The rewrite is the one for the new type, and what it gives is the content. -/
theorem adaptBy_eq_ok_iff (h : a.Restamps version) :
    l.adaptBy a = .ok n ↔ ∃ content,
      a.rewrites.convert (a.renames.apply l.label) l.message.content = .ok content ∧
        ((l.setVersion version).renameBy a.renames).withContent content = n := by
  rw [adaptBy_eq h, map_eq_ok_iff]
  rfl

theorem framed_of_adaptBy (h : a.Restamps version) (hn : l.adaptBy a = .ok n) :
    Framed a version l n := by
  obtain ⟨content, hcontent, rfl⟩ := (adaptBy_eq_ok_iff h).mp hn
  have hcarried : a.rewrites.get? (a.renames.apply l.label) = none ∨
      l.message.isErrorReply = true → content = l.message.content := by
    rintro (hnone | herror)
    · exact Except.ok.inj (hcontent.symm.trans (RewriteTable.convert_of_absent hnone _))
    · exact Except.ok.inj (hcontent.symm.trans (RewriteTable.convert_of_reportsError _ _ herror))
  have hrewritten : ∀ rewrite, a.rewrites.get? (a.renames.apply l.label) = some rewrite →
      l.message.isErrorReply = false → rewrite l.message.content = .ok content := by
    intro rewrite hsome herror
    exact (RewriteTable.convert_of_get? hsome herror).symm.trans hcontent
  cases hr : a.renames.renamed? l.label with
  | none =>
    rw [TypeRenames.apply_of_not_renamed hr] at hcarried hrewritten
    rw [renameBy_of_notRenamed (l := l.setVersion version) hr]
    refine ⟨rfl, rfl, rfl, rfl, rfl, fun t ht => ?_, fun _ => ⟨rfl, rfl⟩, fun hcopies => ?_,
      hcarried, hrewritten⟩
    · cases hr.symm.trans ht
    · rw [TypeRenames.apply_of_not_renamed hr]
      exact ⟨rfl, hcopies⟩
  | some msgType =>
    rw [TypeRenames.apply_of_renamed? hr] at hcarried hrewritten
    rw [renameBy_of_renamed (l := l.setVersion version) hr]
    refine ⟨rfl, rfl, rfl, rfl, rfl, fun t ht => ?_, fun ht => ?_, fun _ => ?_, hcarried,
      hrewritten⟩
    · cases hr.symm.trans ht
      exact ⟨rfl, rfl⟩
    · cases hr.symm.trans ht
    · rw [TypeRenames.apply_of_renamed? hr]
      exact ⟨rfl, rfl⟩

/-- All that an adapter does to messages: what it leaves alone, that it delivers error replies, what
its outcome depends on, and that on messages with equal copies it is `Adapter.adapt`. -/
structure KeepsEnvelopes (a : Adapter) (version : Option String) : Prop where
  framed : ∀ l n : Labelled, l.adaptBy a = .ok n → Framed a version l n
  delivers : ∀ l : Labelled, l.message.isErrorReply = true → ∃ n, l.adaptBy a = .ok n
  independent : ∀ l k : Labelled, l.essence = k.essence →
    (l.adaptBy a).map essence = (k.adaptBy a).map essence
  single : ∀ m : Message, m.labelled.adaptBy a = (a.adapt m).map Message.labelled

theorem map_essence_adaptBy (h : a.Restamps version) (l : Labelled) :
    (l.adaptBy a).map essence =
      (a.rewrites.convert (a.renames.apply l.label) l.message.content).map
        fun content => (a.renames.apply l.label, content) := by
  rw [adaptBy_eq h]
  cases a.rewrites.convert (a.renames.apply l.label) l.message.content with
  | error e => rfl
  | ok content =>
    have hlabel := label_renameBy (l.setVersion version) a.renames
    exact congrArg (fun label => Except.ok (label, content)) hlabel

theorem keepsEnvelopes_of_restamps (h : a.Restamps version) : KeepsEnvelopes a version where
  framed _ _ hn := framed_of_adaptBy h hn
  delivers l herror :=
    ⟨_, (adaptBy_eq_ok_iff h).mpr ⟨_, RewriteTable.convert_of_reportsError _ _ herror, rfl⟩⟩
  independent l k hlk := by
    obtain ⟨hlabel, hcontent⟩ := Prod.mk.inj hlk
    rw [map_essence_adaptBy h, map_essence_adaptBy h, hlabel, hcontent]
  single m := adaptBy_labelled a m

/-- Both adapters keep the envelopes of messages, under any table of renames; headers that went down
have no version, and those that went up have version 5.0. -/
theorem envelopes_kept (renames : TypeRenames) (resolve : Downgrade.Resolver) :
    KeepsEnvelopes (Downgrade.adapter renames resolve) none ∧
      KeepsEnvelopes (Upgrade.adapter renames) (some "5.0") :=
  ⟨keepsEnvelopes_of_restamps (Downgrade.restamps renames resolve),
    keepsEnvelopes_of_restamps (Upgrade.restamps renames)⟩

/-- The new name of a type has a new name itself. -/
def chained : TypeRenames := .ofList [("drawing", "display_data"), ("display_data", "pyout")]

def drawing (content : Object) : Labelled :=
  Message.labelled ⟨⟨"drawing", some "5.3", [("session", .str "a")]⟩, [("msg_id", .int 1)], content,
    [("client", .str "b")], [("buffers", .arr [])]⟩

def displayed : Labelled :=
  Message.labelled ⟨⟨"display_data", none, [("session", .str "a")]⟩, [("msg_id", .int 1)],
    [("data", .obj []), ("source", .str "display")], [("client", .str "b")], [("buffers", .arr [])]⟩

/-- The rewrite for the new name applies, and a drawing that was given up needs none. -/
theorem envelopes_kept_drawing :
    Labelled.adaptBy (Downgrade.adapter chained Code.Machine.identifierAt)
        (drawing [("data", .obj [])]) = .ok displayed ∧
      (displayed.label = "display_data" ∧ displayed.message.msgType = "display_data") ∧
      displayed.message.metadata = [("client", .str "b")] ∧
      ∃ n, Labelled.adaptBy (Downgrade.adapter chained Code.Machine.identifierAt)
        (drawing [("status", .str "aborted")]) = .ok n := by
  have hkept := (envelopes_kept chained Code.Machine.identifierAt).1
  have hadapted : Labelled.adaptBy (Downgrade.adapter chained Code.Machine.identifierAt)
      (drawing [("data", .obj [])]) = .ok displayed := rfl
  have hframed := hkept.framed _ _ hadapted
  exact ⟨hadapted, hframed.renamed "display_data" rfl, hframed.metadata, hkept.delivers _ rfl⟩

end Labelled

end KernelBridge
