/-! # Why a message cannot be adapted

A rewrite of a content only knows the field it stumbles on; which type of message the content
belongs to is added by the table that holds the rewrite. An overflow is no fault of the content and
no answer to its sender: a count has left the words of the machine, and the program stops.
-/
namespace KernelBridge

inductive FieldError where
  | missing (field : String)
  | invalid (field expected : String)
  | unsupported (reason : String)
  | overflow
  deriving DecidableEq, Repr

inductive Undeliverable where
  | missingField (msgType field : String)
  | invalidField (msgType field expected : String)
  | unsupported (msgType reason : String)
  | invalidVersion (text : String)
  | malformed (text : String)
  | overflow
  deriving DecidableEq, Repr

namespace Undeliverable

def message : Undeliverable → String
  | missingField msgType field => msgType ++ " content is missing required field '" ++ field ++ "'"
  | invalidField msgType field expected =>
    msgType ++ " content field '" ++ field ++ "' is invalid: expected " ++ expected
  | unsupported msgType reason => "adapting " ++ msgType ++ " is not supported: " ++ reason
  | invalidVersion text => "invalid protocol version in header: '" ++ text ++ "'"
  | malformed text => "malformed message: " ++ text
  | overflow => "attempt to add with overflow"

end Undeliverable

/-- The error for a content of a message type. -/
def FieldError.within (msgType : String) : FieldError → Undeliverable
  | missing field => .missingField msgType field
  | invalid field expected => .invalidField msgType field expected
  | unsupported reason => .unsupported msgType reason
  | overflow => .overflow

theorem FieldError.within_eq_overflow_iff {msgType : String} {e : FieldError} :
    e.within msgType = .overflow ↔ e = .overflow := by
  cases e <;> simp [within]

abbrev Adapted (α : Type) := Except Undeliverable α

end KernelBridge
