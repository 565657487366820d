import KernelBridge.Json.Printer

/-! # What is wrong with a value that does not decode

An error keeps the value that was found; its text names the value's kind and what was expected
instead.
-/
namespace KernelBridge.Json

inductive DecodeError where
  | missingField (name : String)
  | invalidType (found : Value) (expected : String)
  | invalidValue (found : Int) (expected : String)
  | invalidLength (length : Nat) (expected : String)

def backticked (text : String) : String := "`" ++ text ++ "`"

def Value.describe : Value → String
  | .null => "null"
  | .bool b => "boolean " ++ backticked (compact (.bool b))
  | .num (.int n) => "integer " ++ backticked (compact (.int n))
  | .num (.float x) => "floating point " ++ backticked (compact (.num (.float x)))
  | .str s => "string " ++ Text.quoted s
  | .arr _ => "sequence"
  | .obj _ => "map"

namespace DecodeError

def text : DecodeError → String
  | missingField name => "missing field " ++ backticked name
  | invalidType found expected => "invalid type: " ++ found.describe ++ ", expected " ++ expected
  | invalidValue found expected =>
    "invalid value: " ++ (Value.int found).describe ++ ", expected " ++ expected
  | invalidLength length expected =>
    "invalid length " ++ (Value.nat length).compact ++ ", expected " ++ expected

end DecodeError

abbrev Decoded (α : Type) := Except DecodeError α

namespace Value

def decodeString : Value → Decoded String
  | .str s => .ok s
  | v => .error (.invalidType v "a string")

def decodeObject : Value → Decoded Object
  | .obj fields => .ok fields
  | v => .error (.invalidType v "a map")

/-- Null stands for the absent value. -/
def decodeUnlessNull {α : Type} (decode : Value → Decoded α) : Value → Decoded (Option α)
  | .null => .ok none
  | v => (decode v).map some

end Value

/-- Decodes a member if it is there. -/
def Object.decodeMember {α : Type} (fields : Object) (name : String) (decode : Value → Decoded α) :
    Decoded (Option α) :=
  match fields.get? name with
  | none => .ok none
  | some v => (decode v).map some

theorem Object.decodeMember_of_get? {α : Type} {fields : Object} {name : String} {v : Value}
    (h : fields.get? name = some v) (decode : Value → Decoded α) :
    fields.decodeMember name decode = (decode v).map some := by
  rw [decodeMember, h]

theorem Object.decodeMember_of_absent {α : Type} {fields : Object} {name : String}
    (h : fields.get? name = none) (decode : Value → Decoded α) :
    fields.decodeMember name decode = .ok none := by
  rw [decodeMember, h]

end KernelBridge.Json
