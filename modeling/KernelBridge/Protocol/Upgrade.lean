import KernelBridge.Adapter.Basic
import KernelBridge.Json.Fields
import KernelBridge.Json.Reader
import KernelBridge.Json.Printer
import KernelBridge.Protocol.Names
import KernelBridge.Version

/-! # From version 4 to version 5

One rewrite for each type of message whose content differs. What version 4 does not tell is filled
in with empty values; the span of a completion is given relative to the cursor.
-/
namespace KernelBridge.Protocol.Upgrade
open Json

def segmentText : Value → List Char
  | .str s => s.toList
  | v => v.chars

/-- Strings in the list stand for themselves. -/
def dottedText (v : Value) : Option Value :=
  v.asList?.map fun parts => .str (String.ofList (['.'].intercalate (parts.map segmentText)))

def isPython (language : String) : Bool := "python".toList.isPrefixOf language.toList

/-- The version that version 4 kept under the name of the implementation. -/
def unfoldImplementation (content : Object) : Object :=
  match content.get? "ipython_version" with
  | none => content
  | some version =>
    ((content.erase "ipython_version").insert "implementation" (.str "ipython")).insert
      "implementation_version" version

def kernelInfoReply (content : Object) : Object.Field Object := do
  let dotted := ((content.change "language_version" dottedText).change
    "protocol_version" dottedText).change "ipython_version" dottedText
  let language ← Object.requiredString dotted "language"
  let unfolded := if isPython language then unfoldImplementation dotted else dotted
  return unfolded.insert "banner" (.str "")

/-- The content without variables, and with expressions if only empty ones. -/
def prepareExpressions (content : Object) : Object :=
  Assoc.insertNew (content.erase "user_variables") "user_expressions" (.obj [])

/-- The variables that a request asks for. -/
def requestedVariables (content : Object) : Object.Field (List Value) :=
  match content.get? "user_variables" with
  | none => .ok []
  | some (.arr names) => .ok names
  | some _ => .error (.invalid "user_variables" "a list of names")

/-- A variable is asked for as the expression of its name. -/
def expressionOf : Value → Object.Field (String × Value)
  | .str name => .ok (name, .str name)
  | _ => .error (.invalid "user_variables" "a list of names")

def executeRequest (content : Object) : Object.Field Object := do
  let names ← requestedVariables content
  let prepared := prepareExpressions content
  let expressions ← prepared.requiredObject "user_expressions"
  let entries ← names.mapM expressionOf
  return prepared.modify "user_expressions" fun _ => .obj (expressions.insertAll entries)

/-- The values of the variables in a reply. -/
def repliedVariables (content : Object) : Object.Field Object :=
  match content.get? "user_variables" with
  | none | some .null => .ok []
  | some (.obj values) => .ok values
  | some _ => .error (.invalid "user_variables" "an object")

def executeReply (content : Object) : Object.Field Object := do
  let values ← repliedVariables content
  (prepareExpressions content).editObject "user_expressions" (·.insertAll values)

def completeRequest (content : Object) : Object.Field Object := do
  let line ← content.required "line"
  let cursor ← content.required "cursor_pos"
  return .ofList [("code", line), ("cursor_pos", cursor)]

def completeReply (content : Object) : Object.Field Object := do
  let matched ← content.requiredString "matched_text"
  let found ← content.required "matches"
  return .ofList
    [("status", .str "ok"), ("matches", found),
      ("cursor_start", .int (Word.negate (Word.ofCount matched.length))), ("cursor_end", .null),
      ("metadata", .obj [])]

def inspectRequest (content : Object) : Object.Field Object := do
  let name ← content.requiredString "oname"
  let detail ← content.required "detail_level"
  return .ofList
    [("code", .str name), ("cursor_pos", .nat (Word.ofCount name.length)), ("detail_level", detail)]

/-- The first of some fields that holds a non-empty text. -/
def firstText? (content : Object) (fields : List String) : Option String :=
  fields.findSome? fun field => (content.text? field).filter (· ≠ "")

def definition? (content : Object) : Option String :=
  firstText? content ["call_def", "init_definition", "definition"]

def docstring? (content : Object) : Option String :=
  firstText? content ["call_docstring", "init_docstring", "docstring"]

/-- The definition and the documentation of an object, one above the other. -/
def inspectionText (content : Object) : String :=
  match definition? content, docstring? content with
  | some definition, some doc => definition ++ "\n" ++ doc
  | some definition, none => definition
  | none, some doc => doc
  | none, none => emptyDocstring

def inspectReply (content : Object) : Object.Field Object := do
  let found ← content.required "found"
  let name ← content.required "name"
  let data : Object := if found.truthy then [("text/plain", .str (inspectionText content))] else []
  return .ofList
    [("status", .str "ok"), ("found", found), ("name", name), ("data", .obj data),
      ("metadata", .obj [])]

/-- Text that is no JSON stays as it is. -/
def readJson (data : Object) : Object :=
  Object.change data "application/json" fun v => v.asString?.bind Json.read

def displayData (content : Object) : Object.Field Object :=
  Object.editObject (content.erase "source") "data" readJson

def inputRequest (content : Object) : Object.Field Object :=
  .ok (content.insertNew "password" (.bool false))

def rewrites : RewriteTable :=
  .ofList
    [("kernel_info_reply", kernelInfoReply), ("execute_request", executeRequest),
      ("execute_reply", executeReply), ("complete_request", completeRequest),
      ("complete_reply", completeReply), ("inspect_request", inspectRequest),
      ("inspect_reply", inspectReply), ("display_data", displayData),
      ("input_request", inputRequest)]

def adapter (renames : TypeRenames) : Adapter where
  target := Version.currentText
  renames := renames
  rewrites := rewrites
  onHeader m := .ok (m.setVersion (some Version.currentText))

end KernelBridge.Protocol.Upgrade
