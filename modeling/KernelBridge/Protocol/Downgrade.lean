import KernelBridge.Adapter.Basic
import KernelBridge.Code.Identifier
import KernelBridge.Code.Line
import KernelBridge.Json.Fields
import KernelBridge.Json.Printer
import KernelBridge.Protocol.Names
import KernelBridge.Version
import KernelBridge.Word.Computed

/-! # From version 5 to version 4

One rewrite for each type of message whose content differs. Version 4 has no room for the banner of
a kernel, the span of a completion, the payload of a reply or the contents of an inspection.
-/
namespace KernelBridge.Protocol.Downgrade
open Json

/-- Names the object that a position of a code is about, and tells whether it counted exactly. -/
abbrev Resolver := String → Nat → Word.Computed String

/-- Goes on with what was computed, or stops if a count on the way to it was not exact. -/
def checked {α : Type} (x : Word.Computed α) : Object.Field α :=
  if x.exact then .ok x.value else .error .overflow

def segmentList (v : Value) : Option Value :=
  v.asString?.map fun version => .arr ((Version.segments version).map .int)

/-- The language of a kernel, which newer replies only give with the details of the language. -/
def language? (content : Object) : Option Value :=
  (content.get? "language").or ((content.get? "language_info").bind (·.member? "name"))

/-- The version of an implementation is kept under the name of the one that version 4 knows. -/
def foldImplementation (content : Object) : Object :=
  let versioned :=
    match content.text? "implementation", content.get? "implementation_version" with
    | some "ipython", some version => content.insert "ipython_version" version
    | _, _ => content
  versioned.without ["implementation", "implementation_version"]

def kernelInfoReply (content : Object) : Object.Field Object :=
  let silent : Object := content.erase "banner"
  let folded := foldImplementation
    ((silent.change "language_version" segmentList).change "protocol_version" segmentList)
  if folded.contains implementationKey then .ok folded
  else
    match language? folded with
    | some language => .ok (folded.insert implementationKey language)
    | none => .error (.missing "language")

def executeRequest (content : Object) : Object.Field Object :=
  .ok (content.insertNew "user_variables" (.arr []))

def hasPayload (content : Object) : Bool :=
  match (content.get? "payload").bind Value.asList? with
  | some items => !items.isEmpty
  | none => false

def executeReply (content : Object) : Object.Field Object :=
  if hasPayload content then .error (.unsupported "payloads cannot be expressed in protocol 4")
  else .ok (content.insertNew "user_variables" (.obj []))

def completeRequest (content : Object) : Object.Field Object := do
  let code ← content.requiredString "code"
  let cursor ← content.requiredCursor "cursor_pos"
  let (line, offset) := Code.lineAt code cursor
  return .ofList
    [("text", .str ""), ("line", .str line), ("block", .null), ("cursor_pos", .nat offset)]

/-- The first characters of a text; of a negative number, all but the last ones. -/
def takeSigned (text : String) (count : Int) : String :=
  let cs := text.toList
  String.ofList (cs.take (if 0 ≤ count then count.toNat else cs.length - count.natAbs))

def firstMatch (content : Object) : Object.Field String := do
  match ← content.requiredList "matches" with
  | [] => .error (.missing "matches[0]")
  | .str text :: _ => .ok text
  | _ :: _ => .error (.invalid "matches[0]" "a string")

def completeReply (content : Object) : Object.Field Object := do
  let start ← content.requiredInteger "cursor_start"
  let stop ← content.requiredInteger "cursor_end"
  let text ← firstMatch content
  let matched := takeSigned text (Word.saturatingSub stop start)
  let kept : Object := content.without ["cursor_start", "cursor_end", "metadata"]
  return kept.insert "matched_text" (.str matched)

def objectInfoRequest (resolve : Resolver) (content : Object) : Object.Field Object := do
  let code ← content.requiredString "code"
  let cursor ← content.requiredCursor "cursor_pos"
  let detail ← content.required "detail_level"
  let name ← checked (resolve code cursor)
  return .ofList [("oname", .str name), ("detail_level", detail)]

def objectInfoReply (_ : Object) : Object.Field Object :=
  .ok (.ofList [("found", .bool false), ("name", .str "unknown")])

/-- Version 4 carries JSON data as text. -/
def printJson (data : Object) : Object :=
  data.modify "application/json" fun v => .str v.compact

def displayData (content : Object) : Object.Field Object :=
  Object.editObject (content.insertNew "source" (.str "display")) "data" printJson

def inputRequest (content : Object) : Object.Field Object := .ok (content.erase "password")

def rewrites (resolve : Resolver) : RewriteTable :=
  .ofList
    [("kernel_info_reply", kernelInfoReply), ("execute_request", executeRequest),
      ("execute_reply", executeReply), ("complete_request", completeRequest),
      ("complete_reply", completeReply), ("object_info_request", objectInfoRequest resolve),
      ("object_info_reply", objectInfoReply), ("display_data", displayData),
      ("input_request", inputRequest)]

/-- Headers of version 4 declare no version. -/
def adapter (renames : TypeRenames) (resolve : Resolver) : Adapter where
  target := Version.legacyText
  renames := renames
  rewrites := rewrites resolve
  onHeader m := .ok (m.setVersion none)

end KernelBridge.Protocol.Downgrade
