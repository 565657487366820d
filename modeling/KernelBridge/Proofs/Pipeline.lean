import KernelBridge.Adapter.Basic
import KernelBridge.Json.Fields
import KernelBridge.Proofs.Outcome
import KernelBridge.Proofs.Wire

/-! # What an adapter does to a message

An adapter whose header stage only sets the version, and which has no other stage of its own, keeps
the envelope of a message: `Restamps.adapt_eq`. Whether it fails and which content it gives depend
on the type and the content alone.
-/
namespace KernelBridge
open Json Outcome

/-- Contents of replies that report an error, in either of two ways. -/
def Json.Object.reportsError (content : Object) : Bool :=
  content.text? "status" == some "error" || content.text? "status" == some "aborted"

theorem Json.Object.text?_eq_some_iff {content : Object} {field s : String} :
    content.text? field = some s ↔ content.get? field = some (.str s) := by
  unfold text?
  cases content.get? field with
  | none => simp
  | some v => cases v <;> simp [Value.asString?]

theorem Json.Object.reportsError_iff {content : Object} :
    content.reportsError = true ↔
      content.get? "status" = some (.str "error") ∨
      content.get? "status" = some (.str "aborted") := by
  simp [reportsError, text?_eq_some_iff]

theorem Json.Object.reportsError_congr {content other : Object}
    (h : content.get? "status" = other.get? "status") :
    content.reportsError = other.reportsError := by
  rw [Bool.eq_iff_iff, reportsError_iff, reportsError_iff, h]

namespace Message

theorem isErrorReply_eq (m : Message) : m.isErrorReply = m.content.reportsError := rfl

/-- The same message with another version, type and content. -/
def restamp (m : Message) (version : Option String) (msgType : String) (content : Object) :
    Message :=
  { (m.setVersion version).retype msgType with content }

@[simp] theorem msgType_restamp (m : Message) (v : Option String) (t : String) (c : Object) :
    (m.restamp v t c).msgType = t := rfl
@[simp] theorem content_restamp (m : Message) (v : Option String) (t : String) (c : Object) :
    (m.restamp v t c).content = c := rfl
@[simp] theorem restamp_self (m : Message) (v : Option String) :
    m.restamp v m.msgType m.content = m.setVersion v := rfl

theorem Clean.restamp {m : Message} (h : m.Clean) (v : Option String) (t : String) (c : Object) :
    (m.restamp v t c).Clean := ⟨h.header, h.extra⟩

end Message

namespace RewriteTable

/-- The content of a message of a type as the table leaves it. -/
def convert (t : RewriteTable) (msgType : String) (content : Object) : Adapted Object :=
  match t.get? msgType with
  | none => .ok content
  | some rewrite => if content.reportsError then .ok content else rewrite content

theorem convert_of_absent {t : RewriteTable} {msgType : String} (h : t.get? msgType = none)
    (content : Object) : t.convert msgType content = .ok content := by
  rw [convert, h]

theorem convert_of_get? {t : RewriteTable} {msgType : String} {rewrite : ContentRewrite}
    {content : Object} (h : t.get? msgType = some rewrite) (he : content.reportsError = false) :
    t.convert msgType content = rewrite content := by
  simp only [convert, h, he, Bool.false_eq_true, if_false]

theorem convert_of_reportsError (t : RewriteTable) (msgType : String) {content : Object}
    (h : content.reportsError = true) : t.convert msgType content = .ok content := by
  unfold convert
  cases t.get? msgType with
  | none => rfl
  | some rewrite => simp only [h, if_true]

theorem convert_eq_error_iff {t : RewriteTable} {msgType : String} {content : Object}
    {e : Undeliverable} :
    t.convert msgType content = .error e ↔
      content.reportsError = false ∧
        ∃ rewrite, t.get? msgType = some rewrite ∧ rewrite content = .error e := by
  unfold convert
  cases t.get? msgType with
  | none => simp
  | some rewrite => cases content.reportsError <;> simp

theorem get?_ofList (rewrites : List (String × (Object → Except FieldError Object)))
    (msgType : String) :
    (ofList rewrites).get? msgType =
      (Assoc.get? rewrites.reverse msgType).map fun rewrite content =>
        (rewrite content).mapError (FieldError.within msgType) := by
  have h := Assoc.get?_insertAll ([] : Assoc String ContentRewrite)
    (rewrites.map fun e => (e.1, fun content => (e.2 content).mapError (FieldError.within e.1)))
    msgType
  rw [Assoc.get?_nil, Option.or_none, ← List.map_reverse] at h
  exact h.trans (Assoc.get?_map rewrites.reverse
    (fun t (rewrite : Object → Except FieldError Object) (content : Object) =>
      (rewrite content).mapError (FieldError.within t)) msgType)

end RewriteTable

namespace Adapter

/-- The header stage sets the version, and the two optional stages do nothing. -/
structure Restamps (a : Adapter) (version : Option String) : Prop where
  onHeader : ∀ m, a.onHeader m = .ok (m.setVersion version)
  onMetadata : ∀ m, a.onMetadata m = .ok m
  onErrorReply : ∀ m, a.onErrorReply m = .ok m

theorem Restamps.adapt_eq {a : Adapter} {version : Option String} (h : a.Restamps version)
    (m : Message) :
    a.adapt m = (a.rewrites.convert (a.renames.apply m.msgType) m.content).map
      (m.restamp version (a.renames.apply m.msgType)) := by
  unfold adapt
  rw [h.onHeader, ok_bind, h.onMetadata, ok_bind, renameType_eq]
  unfold rewriteContent RewriteTable.convert
  rw [Message.msgType_retype, Message.msgType_setVersion]
  cases a.rewrites.get? (a.renames.apply m.msgType) with
  | none => rfl
  | some rewrite =>
    simp only [Message.isErrorReply_eq, Message.content_retype, Message.content_setVersion,
      h.onErrorReply]
    split <;> rfl

theorem Restamps.adapt_eq_error_iff {a : Adapter} {version : Option String} (h : a.Restamps version)
    {m : Message} {e : Undeliverable} :
    a.adapt m = .error e ↔
      a.rewrites.convert (a.renames.apply m.msgType) m.content = .error e := by
  rw [h.adapt_eq, map_eq_error_iff]

/-- Nothing but the type, the version and the content can change. -/
theorem Restamps.exists_restamp {a : Adapter} {version : Option String} (h : a.Restamps version)
    {m n : Message} (ha : a.adapt m = .ok n) :
    ∃ content, a.rewrites.convert (a.renames.apply m.msgType) m.content = .ok content ∧
      m.restamp version (a.renames.apply m.msgType) content = n := by
  rw [h.adapt_eq] at ha
  exact map_eq_ok_iff.mp ha

theorem Restamps.clean {a : Adapter} {version : Option String} (h : a.Restamps version)
    {m n : Message} (ha : a.adapt m = .ok n) (hm : m.Clean) : n.Clean := by
  obtain ⟨content, _, rfl⟩ := h.exists_restamp ha
  exact hm.restamp _ _ _

end Adapter

end KernelBridge
