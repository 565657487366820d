import KernelBridge.Json.DecodeError
import KernelBridge.Message.Basic

/-! # Messages as JSON values

A message is an object with its header and its type side by side. Reading takes the type from the
header, whatever stands beside it; keys are checked in ascending order and a missing header is
reported last. Writing puts the extra keys in after the others, so that of one key the extra one
stays.
-/
namespace KernelBridge
open Json

namespace Header

def ownKeys : List String := ["msg_type", "version"]

def toObject (h : Header) : Object :=
  let own := Assoc.ofList [("msg_type", Value.str h.msgType)]
  let versioned := own.insertAll (h.version.map fun v => ("version", Value.str v)).toList
  versioned.insertAll h.extra

def ofObject (fields : Object) : Decoded Header := do
  let msgType ← fields.decodeMember "msg_type" Value.decodeString
  let version ← fields.decodeMember "version" (Value.decodeUnlessNull Value.decodeString)
  match msgType with
  | none => .error (.missingField "msg_type")
  | some msgType => return ⟨msgType, version.join, (fields.without ownKeys).arrange⟩

def ofValue : Value → Decoded Header
  | .obj fields => ofObject fields
  | v => .error (.invalidType v "struct Header")

end Header

namespace Message

def ownKeys : List String := ["header", "msg_type", "parent_header", "content", "metadata"]

def toObject (m : Message) : Object :=
  let own := Assoc.ofList
    [("header", Value.obj m.header.toObject), ("msg_type", .str m.msgType),
      ("parent_header", .obj m.parentHeader), ("content", .obj m.content),
      ("metadata", .obj m.metadata)]
  own.insertAll m.extra

def toValue (m : Message) : Value := .obj m.toObject

def ofObject (fields : Object) : Decoded Message := do
  let content ← fields.decodeMember "content" Value.decodeObject
  let header ← fields.decodeMember "header" Header.ofValue
  let metadata ← fields.decodeMember "metadata" (Value.decodeUnlessNull Value.decodeObject)
  let parent ← fields.decodeMember "parent_header" (Value.decodeUnlessNull Value.decodeObject)
  match header with
  | none => .error (.missingField "header")
  | some header =>
    return ⟨header, parent.join.getD [], content.getD [], metadata.join.getD [],
      (fields.without ownKeys).arrange⟩

def decode : Value → Decoded Message
  | .obj fields => ofObject fields
  | v => .error (.invalidType v "struct WireMessage")

def ofValue (v : Value) : Adapted Message := (decode v).mapError fun e => .malformed e.text

end Message

end KernelBridge
