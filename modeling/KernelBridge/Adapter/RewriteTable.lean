import KernelBridge.Undeliverable
import KernelBridge.Json.Value
import KernelBridge.Text.Quoted

/-! # Content rewrites by message type

A table holds at most one rewrite for each type; registering another replaces it.
-/
namespace KernelBridge
open Json

abbrev ContentRewrite := Object → Adapted Object

structure RewriteTable where
  rewrites : Assoc String ContentRewrite

namespace RewriteTable

def empty : RewriteTable := ⟨[]⟩

def register (t : RewriteTable) (msgType : String) (rewrite : ContentRewrite) : RewriteTable :=
  ⟨t.rewrites.insert msgType rewrite⟩

/-- Names the message type in the errors of each rewrite. -/
def ofList (rewrites : List (String × (Object → Except FieldError Object))) : RewriteTable :=
  ⟨Assoc.ofList (rewrites.map fun (msgType, rewrite) =>
    (msgType, fun content => (rewrite content).mapError (FieldError.within msgType)))⟩

def get? (t : RewriteTable) (msgType : String) : Option ContentRewrite := t.rewrites.get? msgType

def contains (t : RewriteTable) (msgType : String) : Bool := t.rewrites.contains msgType

def describe (t : RewriteTable) : String :=
  "TransformTable \x7b types: " ++ Text.bracketed (t.rewrites.keys.map Text.quoted) ++ " \x7d"

@[simp] theorem get?_empty (msgType : String) : empty.get? msgType = none := rfl

@[simp] theorem get?_register (t : RewriteTable) (name msgType : String)
    (rewrite : ContentRewrite) :
    (t.register name rewrite).get? msgType =
      if msgType = name then some rewrite else t.get? msgType := Assoc.get?_insert ..

theorem contains_eq_isSome (t : RewriteTable) (msgType : String) :
    t.contains msgType = (t.get? msgType).isSome := rfl

end RewriteTable

end KernelBridge
