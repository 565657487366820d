import KernelBridge.Undeliverable
import KernelBridge.Json.Value

/-! # Reading the fields of a content

A field that must be there is missing or, if it is there, of the wrong kind.
-/
namespace KernelBridge.Json.Object

abbrev Field (α : Type) := Except FieldError α

def required (content : Object) (field : String) : Field Value :=
  match content.get? field with
  | some v => .ok v
  | none => .error (.missing field)

/-- A required field in the form that a view of values sees in it. -/
def requiredAs {α : Type} (content : Object) (field expected : String) (view : Value → Option α) :
    Field α :=
  match content.get? field with
  | none => .error (.missing field)
  | some v =>
    match view v with
    | some x => .ok x
    | none => .error (.invalid field expected)

def requiredString (content : Object) (field : String) : Field String :=
  content.requiredAs field "a string" Value.asString?

def requiredInteger (content : Object) (field : String) : Field Int :=
  content.requiredAs field "an integer" Value.asInt64?

def requiredCursor (content : Object) (field : String) : Field Nat :=
  content.requiredAs field "a non-negative integer" Value.asUInt64?

def requiredList (content : Object) (field : String) : Field (List Value) :=
  content.requiredAs field "a list" Value.asList?

def requiredObject (content : Object) (field : String) : Field Object :=
  content.requiredAs field "an object" Value.asObject?

/-- The text of a field that holds a string. -/
def text? (content : Object) (field : String) : Option String :=
  (content.get? field).bind Value.asString?

/-- Edits the object in a required field. -/
def editObject (content : Object) (field : String) (edit : Object → Object) : Field Object := do
  let inner ← content.requiredObject field
  return content.modify field fun _ => .obj (edit inner)

/-- Replaces a field if there is one to which the change applies. -/
def change (content : Object) (field : String) (f : Value → Option Value) : Object :=
  content.modify field fun v => (f v).getD v

@[simp] theorem get?_change (content : Object) (field q : String) (f : Value → Option Value) :
    (content.change field f).get? q =
      if q = field then (content.get? q).map fun v => (f v).getD v else content.get? q :=
  Assoc.get?_modify ..

end KernelBridge.Json.Object
