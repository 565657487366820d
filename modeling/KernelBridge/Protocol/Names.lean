import KernelBridge.Adapter.TypeRenames

/-! # Names that both directions share -/
namespace KernelBridge.Protocol

/-- The types that version 5 (left) and version 4 (right) call differently. -/
def typeNames : List (String × String) :=
  [("execute_result", "pyout"), ("execute_input", "pyin"), ("error", "pyerr"),
    ("inspect_request", "object_info_request"), ("inspect_reply", "object_info_reply")]

def downgradeRenames : TypeRenames := .ofList typeNames

def upgradeRenames : TypeRenames := downgradeRenames.inverse

/-- The field of version 4 for the implementation of a kernel; its peers read this spelling. -/
def implementationKey : String := "implmentation"

/-- Stands for the documentation of an object that has none. -/
def emptyDocstring : String := "<empty docstring>"

end KernelBridge.Protocol
