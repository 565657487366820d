import KernelBridge.Adapter.RewriteTable
import KernelBridge.Adapter.TypeRenames
import KernelBridge.Message.Basic

/-! # Adapters from one protocol version to another

A message goes through the header stage and the metadata stage and has its type renamed. A rewrite
registered for the new type is then applied to the content, unless the message is an error reply:
that goes to a stage of its own. A message of a type without a rewrite passes. The first stage that
fails decides.
-/
namespace KernelBridge

structure Adapter where
  target : String
  renames : TypeRenames
  rewrites : RewriteTable
  onHeader : Message → Adapted Message := .ok
  onMetadata : Message → Adapted Message := .ok
  onErrorReply : Message → Adapted Message := .ok

namespace Adapter

def renameType (a : Adapter) (m : Message) : Message :=
  match a.renames.renamed? m.msgType with
  | some msgType => m.retype msgType
  | none => m

def rewriteContent (a : Adapter) (m : Message) : Adapted Message :=
  match a.rewrites.get? m.msgType with
  | none => .ok m
  | some rewrite => if m.isErrorReply then a.onErrorReply m else m.editContent rewrite

def adapt (a : Adapter) (m : Message) : Adapted Message := do
  let headed ← a.onHeader m
  let annotated ← a.onMetadata headed
  a.rewriteContent (a.renameType annotated)

@[simp] theorem msgType_renameType (a : Adapter) (m : Message) :
    (a.renameType m).msgType = a.renames.apply m.msgType := by
  unfold renameType TypeRenames.apply
  cases h : a.renames.renamed? m.msgType <;> simp

theorem renameType_eq (a : Adapter) (m : Message) :
    a.renameType m = m.retype (a.renames.apply m.msgType) := by
  unfold renameType TypeRenames.apply
  cases h : a.renames.renamed? m.msgType <;> rfl

end Adapter

end KernelBridge
