import KernelBridge.Json.DecodeError
import KernelBridge.Version

/-! # Version settings

The major version that messages go to when no other is named, and the one that headers without a
version are taken to have. As JSON an object with either field or both, or a list in this order.
-/
namespace KernelBridge
open Json

structure Config where
  targetMajor : Nat := Version.currentMajor
  legacyMajor : Nat := Version.legacyMajor
  deriving DecidableEq, Repr

namespace Config

def decodeMajor : Value → Decoded Nat
  | .num (.int n) => if Word.fitsUInt32 n then .ok n.toNat else .error (.invalidValue n "u32")
  | v => .error (.invalidType v "u32")

def build (target legacy : Option Nat) : Config :=
  ⟨target.getD Version.currentMajor, legacy.getD Version.legacyMajor⟩

def ofObject (fields : Object) : Decoded Config := do
  let legacy ← fields.decodeMember "legacy_major" decodeMajor
  let target ← fields.decodeMember "target_major" decodeMajor
  return build target legacy

def ofItems : List Value → Decoded Config
  | [] => .ok {}
  | [target] => do return build (some (← decodeMajor target)) none
  | target :: legacy :: rest => do
    let target ← decodeMajor target
    let legacy ← decodeMajor legacy
    if rest.isEmpty then return ⟨target, legacy⟩
    else .error (.invalidLength (rest.length + 2) "fewer elements in array")

def ofValue : Value → Decoded Config
  | .obj fields => ofObject fields
  | .arr items => ofItems items
  | v => .error (.invalidType v "struct AdaptConfig")

def toValue (c : Config) : Value :=
  .obj (Assoc.ofList [("target_major", .nat c.targetMajor), ("legacy_major", .nat c.legacyMajor)])

def describe (c : Config) : String :=
  "AdaptConfig \x7b target_major: " ++ Decimal.natString c.targetMajor ++ ", legacy_major: " ++
    Decimal.natString c.legacyMajor ++ " \x7d"

end Config

end KernelBridge
