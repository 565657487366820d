import KernelBridge.Proofs.Fields
import KernelBridge.Protocol.Upgrade

/-! # Contents on the way up

For each rewrite to version 5, when it succeeds and what its result is.
-/
namespace KernelBridge.Protocol.Upgrade
open Json Outcome
variable {content result : Object}

/-- The versions of a kernel as dotted texts. -/
def dotVersions (content : Object) : Object :=
  Object.change (Object.change (Object.change content "language_version" dottedText)
    "protocol_version" dottedText) "ipython_version" dottedText

theorem get?_dotVersions {k : String} (hk : k ∉ ["language_version", "protocol_version",
    "ipython_version"]) : (dotVersions content).get? k = content.get? k := by
  simp only [List.mem_cons, List.not_mem_nil, or_false, not_or] at hk
  simp [dotVersions, hk]

theorem kernelInfoReply_eq (content : Object) :
    kernelInfoReply content =
      (Object.requiredString (dotVersions content) "language" >>= fun language =>
        .ok (Assoc.insert (if isPython language then unfoldImplementation (dotVersions content)
          else dotVersions content) "banner" (.str ""))) := rfl

theorem requiredLanguage_eq (content : Object) :
    Object.requiredString (dotVersions content) "language" =
      content.requiredString "language" :=
  Object.requiredAs_congr (get?_dotVersions (by decide))

theorem kernelInfoReply_eq_ok_iff :
    kernelInfoReply content = .ok result ↔
      ∃ language, content.get? "language" = some (.str language) ∧
        Assoc.insert (if isPython language then unfoldImplementation (dotVersions content)
          else dotVersions content) "banner" (.str "") = result := by
  simp [kernelInfoReply_eq, requiredLanguage_eq, bind_eq_ok_iff, Object.requiredString_eq_ok_iff]

theorem kernelInfoReply_eq_error (h : content.get? "language" = none) :
    kernelInfoReply content = .error (.missing "language") := by
  have hr : content.requiredString "language" = .error (.missing "language") :=
    Object.requiredAs_eq_error_iff.mpr (Or.inl ⟨h, rfl⟩)
  rw [kernelInfoReply_eq, requiredLanguage_eq, hr, error_bind]

/-- The keys that the reply about a kernel does not keep as they are. -/
def kernelInfoKeys : List String :=
  ["language_version", "protocol_version", "ipython_version", "implementation",
    "implementation_version", "banner"]

theorem get?_kernelInfoReply (h : kernelInfoReply content = .ok result) {k : String}
    (hk : k ∉ kernelInfoKeys) : result.get? k = content.get? k := by
  obtain ⟨language, _, rfl⟩ := kernelInfoReply_eq_ok_iff.mp h
  simp only [kernelInfoKeys, List.mem_cons, List.not_mem_nil, or_false, not_or] at hk
  have hd : (dotVersions content).get? k = content.get? k := get?_dotVersions (by simp [hk])
  have hu : (unfoldImplementation (dotVersions content)).get? k = content.get? k := by
    unfold unfoldImplementation
    split <;> simp [hk, hd]
  split <;> simp [hk, hd, hu]

theorem requestedVariables_eq_ok_iff {names : List Value} :
    requestedVariables content = .ok names ↔
      (content.get? "user_variables" = none ∧ names = []) ∨
      content.get? "user_variables" = some (.arr names) := by
  unfold requestedVariables
  cases content.get? "user_variables" with
  | none => simp [eq_comm]
  | some v => cases v <;> simp

theorem repliedVariables_eq_ok_iff {values : Object} :
    repliedVariables content = .ok values ↔
      ((content.get? "user_variables" = none ∨ content.get? "user_variables" = some .null) ∧
        values = []) ∨
      content.get? "user_variables" = some (.obj values) := by
  unfold repliedVariables
  cases content.get? "user_variables" with
  | none => simp [eq_comm]
  | some v => cases v <;> simp [eq_comm]

theorem get?_prepareExpressions (content : Object) (k : String) :
    (prepareExpressions content).get? k =
      if k = "user_expressions" then some ((content.get? "user_expressions").getD (.obj []))
      else if k = "user_variables" then none else content.get? k := by
  unfold prepareExpressions
  rw [Assoc.get?_insertNew, Assoc.get?_erase, Assoc.get?_erase]
  simp

/-- The expressions of a content; without any there are none. -/
theorem requiredExpressions_eq_ok_iff {expressions : Object} :
    (prepareExpressions content).requiredObject "user_expressions" = .ok expressions ↔
      (content.get? "user_expressions").getD (.obj []) = .obj expressions := by
  rw [Object.requiredObject_eq_ok_iff, get?_prepareExpressions, if_pos rfl, Option.some.injEq]

theorem executeRequest_eq_ok_iff :
    executeRequest content = .ok result ↔
      ∃ names expressions entries, requestedVariables content = .ok names ∧
        (prepareExpressions content).requiredObject "user_expressions" = .ok expressions ∧
        names.mapM expressionOf = .ok entries ∧
        Assoc.modify (prepareExpressions content) "user_expressions"
          (fun _ => .obj (expressions.insertAll entries)) = result := by
  simp only [executeRequest, bind_eq_ok_iff, pure_eq_ok, Except.ok.injEq]
  constructor
  · rintro ⟨names, hn, expressions, he, entries, hm, hr⟩
    exact ⟨names, expressions, entries, hn, he, hm, hr⟩
  · rintro ⟨names, expressions, entries, hn, he, hm, hr⟩
    exact ⟨names, hn, expressions, he, entries, hm, hr⟩

theorem executeReply_eq_ok_iff :
    executeReply content = .ok result ↔
      ∃ values expressions, repliedVariables content = .ok values ∧
        (prepareExpressions content).requiredObject "user_expressions" = .ok expressions ∧
        Assoc.modify (prepareExpressions content) "user_expressions"
          (fun _ => .obj (expressions.insertAll values)) = result := by
  simp only [executeReply, bind_eq_ok_iff, Object.editObject_eq_ok_iff,
    Object.requiredObject_eq_ok_iff]
  constructor
  · rintro ⟨values, hv, expressions, he, hr⟩
    exact ⟨values, expressions, hv, he, hr⟩
  · rintro ⟨values, expressions, hv, he, hr⟩
    exact ⟨values, hv, expressions, he, hr⟩

/-- A request for no variables keeps its expressions. -/
theorem executeRequest_of_empty {expressions : Object}
    (hv : content.get? "user_variables" = some (.arr []))
    (he : (content.get? "user_expressions").getD (.obj []) = .obj expressions) :
    executeRequest content = .ok (Assoc.modify (prepareExpressions content) "user_expressions"
      (fun _ => .obj expressions)) :=
  executeRequest_eq_ok_iff.mpr ⟨[], expressions, [], requestedVariables_eq_ok_iff.mpr (Or.inr hv),
    requiredExpressions_eq_ok_iff.mpr he, rfl, rfl⟩

theorem executeReply_of_empty {expressions : Object}
    (hv : content.get? "user_variables" = some (.obj []))
    (he : (content.get? "user_expressions").getD (.obj []) = .obj expressions) :
    executeReply content = .ok (Assoc.modify (prepareExpressions content) "user_expressions"
      (fun _ => .obj expressions)) :=
  executeReply_eq_ok_iff.mpr ⟨[], expressions, repliedVariables_eq_ok_iff.mpr (Or.inr hv),
    requiredExpressions_eq_ok_iff.mpr he, rfl⟩

theorem get?_executeReply (h : executeReply content = .ok result) {k : String}
    (hk : k ∉ ["user_variables", "user_expressions"]) : result.get? k = content.get? k := by
  obtain ⟨values, expressions, _, _, rfl⟩ := executeReply_eq_ok_iff.mp h
  simp only [List.mem_cons, List.not_mem_nil, or_false, not_or] at hk
  rw [Assoc.get?_modify, if_neg hk.2, get?_prepareExpressions, if_neg hk.2, if_neg hk.1]

theorem completeRequest_eq_ok_iff :
    completeRequest content = .ok result ↔
      ∃ line cursor, content.get? "line" = some line ∧ content.get? "cursor_pos" = some cursor ∧
        Assoc.ofList [("code", line), ("cursor_pos", cursor)] = result := by
  simp [completeRequest, bind_eq_ok_iff, Object.required_eq_ok_iff]

theorem completeReply_eq_ok_iff :
    completeReply content = .ok result ↔
      ∃ matched found, content.get? "matched_text" = some (.str matched) ∧
        content.get? "matches" = some found ∧
        Assoc.ofList
          [("status", .str "ok"), ("matches", found),
            ("cursor_start", .int (Word.negate (Word.ofCount matched.length))),
            ("cursor_end", .null), ("metadata", .obj [])] = result := by
  simp [completeReply, bind_eq_ok_iff, Object.requiredString_eq_ok_iff, Object.required_eq_ok_iff]

theorem inspectRequest_eq_ok_iff :
    inspectRequest content = .ok result ↔
      ∃ name detail, content.get? "oname" = some (.str name) ∧
        content.get? "detail_level" = some detail ∧
        Assoc.ofList
          [("code", .str name), ("cursor_pos", .nat (Word.ofCount name.length)),
            ("detail_level", detail)] = result := by
  simp [inspectRequest, bind_eq_ok_iff, Object.requiredString_eq_ok_iff, Object.required_eq_ok_iff]

theorem inspectReply_eq_ok_iff :
    inspectReply content = .ok result ↔
      ∃ found name, content.get? "found" = some found ∧ content.get? "name" = some name ∧
        Assoc.ofList
          [("status", .str "ok"), ("found", found), ("name", name),
            ("data", .obj (if found.truthy then [("text/plain", .str (inspectionText content))]
              else [])), ("metadata", .obj [])] = result := by
  simp [inspectReply, bind_eq_ok_iff, Object.required_eq_ok_iff]

theorem displayData_eq_ok_iff :
    displayData content = .ok result ↔
      ∃ data, content.get? "data" = some (.obj data) ∧
        Assoc.modify (content.erase "source") "data" (fun _ => .obj (readJson data)) = result := by
  simp [displayData, Object.editObject_eq_ok_iff]

end KernelBridge.Protocol.Upgrade
