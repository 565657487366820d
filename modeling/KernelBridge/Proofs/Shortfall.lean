import KernelBridge.Proofs.Crossing
import KernelBridge.Proofs.Labelled
import KernelBridge.Proofs.Requirement
import KernelBridge.Proofs.Upgrade

/-! # What version 5 asks for

A message cannot go up exactly if its content, under the new name of its type, falls short of the
requirements of that type. What is asked of variables differs between a request and its reply: only
in the reply they may be null, and only in the request each of them is looked at. Text that should be
JSON and is not keeps no message back.
-/
namespace KernelBridge

namespace Protocol.Upgrade
open Json Outcome Requirement
variable {content : Object} {t : String} {e : FieldError}

def variableList : Requirement :=
  optional "user_variables" (.arr []) "a list of names" fun v => ∃ names, v = .arr names

def variableNames : Requirement :=
  optional "user_variables" (.arr []) "a list of names" fun v =>
    ∀ names, v = .arr names → ∀ name ∈ names, ∃ s, name = .str s

def variableValues : Requirement :=
  optional "user_variables" .null "an object" fun v => v = .null ∨ ∃ values, v = .obj values

def expressions : Requirement :=
  optional "user_expressions" (.obj []) "an object" fun v => ∃ fields, v = .obj fields

/-- What contents have to hold to go up, by the types as version 5 calls them. That each variable
asked for is a name is only seen after the expressions. -/
def requirements : Assoc String (List Requirement) :=
  [("kernel_info_reply", [text "language"]),
    ("execute_request", [variableList, expressions, variableNames]),
    ("execute_reply", [variableValues, expressions]),
    ("complete_request", [present "line", present "cursor_pos"]),
    ("complete_reply", [text "matched_text", present "matches"]),
    ("inspect_request", [text "oname", present "detail_level"]),
    ("inspect_reply", [present "found", present "name"]), ("display_data", [object "data"])]

/-- A type that is not listed requires nothing. -/
def required (t : String) : List Requirement := (requirements.get? t).getD []

theorem enforces_kernelInfoReply : Enforces (kernelInfoReply content) content [text "language"] := by
  rw [kernelInfoReply_eq, requiredLanguage_eq]
  exact enforces_requiredString.bind fun _ _ => enforces_ok _

theorem enforces_requestedVariables :
    Enforces (requestedVariables content) content [variableList] := by
  refine enforces_optional fun e => ?_
  unfold requestedVariables
  cases content.get? "user_variables" with
  | none => simp
  | some v => cases v <;> simp [eq_comm]

theorem enforces_repliedVariables :
    Enforces (repliedVariables content) content [variableValues] := by
  refine enforces_optional fun e => ?_
  unfold repliedVariables
  cases content.get? "user_variables" with
  | none => simp
  | some v => cases v <;> simp [eq_comm]

theorem enforces_expressions :
    Enforces ((prepareExpressions content).requiredObject "user_expressions") content
      [expressions] := by
  refine enforces_optional fun e => ?_
  have hfind : (prepareExpressions content).get? "user_expressions" =
      some ((content.get? "user_expressions").getD (.obj [])) := by
    rw [get?_prepareExpressions, if_pos rfl]
  rw [Object.requiredObject, Object.requiredAs_eq_error_iff_of_get? hfind,
    Option.eq_none_iff_forall_ne_some]
  simp [Value.asObject?_eq_some_iff]

theorem expressionOf_eq_error_iff {v : Value} :
    expressionOf v = .error e ↔
      (∀ s, v ≠ .str s) ∧ e = .invalid "user_variables" "a list of names" := by
  cases v <;> simp [expressionOf, eq_comm]

theorem mapM_expressionOf_eq_error_iff {names : List Value} :
    names.mapM expressionOf = .error e ↔
      (¬∀ name ∈ names, ∃ s, name = .str s) ∧ e = .invalid "user_variables" "a list of names" := by
  induction names with
  | nil => simp
  | cons v names ih =>
    rw [List.mapM_cons, bind_eq_error_iff, expressionOf_eq_error_iff]
    cases v with
    | str s => simp [expressionOf, bind_eq_error_iff, ih]
    | _ => simp [expressionOf]

theorem enforces_expressionsOf {names : List Value}
    (hnames : requestedVariables content = .ok names) :
    Enforces (names.mapM expressionOf) content [variableNames] := by
  refine enforces_optional fun e => ?_
  have hfield : (content.get? "user_variables").getD (.arr []) = .arr names := by
    rcases requestedVariables_eq_ok_iff.mp hnames with ⟨hnone, rfl⟩ | hsome
    · rw [hnone, Option.getD_none]
    · rw [hsome, Option.getD_some]
  rw [mapM_expressionOf_eq_error_iff, hfield]
  simp

theorem enforces_executeRequest :
    Enforces (executeRequest content) content [variableList, expressions, variableNames] :=
  enforces_requestedVariables.bind fun _ hnames => enforces_expressions.bind fun _ _ =>
    (enforces_expressionsOf hnames).bind fun _ _ => enforces_ok _

theorem enforces_executeReply :
    Enforces (executeReply content) content [variableValues, expressions] :=
  enforces_repliedVariables.bind fun _ _ => enforces_expressions.bind fun _ _ => enforces_ok _

theorem enforces_completeRequest :
    Enforces (completeRequest content) content [present "line", present "cursor_pos"] :=
  enforces_required.bind fun _ _ => enforces_required.bind fun _ _ => enforces_ok _

theorem enforces_completeReply :
    Enforces (completeReply content) content [text "matched_text", present "matches"] :=
  enforces_requiredString.bind fun _ _ => enforces_required.bind fun _ _ => enforces_ok _

theorem enforces_inspectRequest :
    Enforces (inspectRequest content) content [text "oname", present "detail_level"] :=
  enforces_requiredString.bind fun _ _ => enforces_required.bind fun _ _ => enforces_ok _

theorem enforces_inspectReply :
    Enforces (inspectReply content) content [present "found", present "name"] :=
  enforces_required.bind fun _ _ => enforces_required.bind fun _ _ => enforces_ok _

theorem enforces_displayData : Enforces (displayData content) content [object "data"] :=
  enforces_editObject (by simp)

theorem enforces_up {resolve : Downgrade.Resolver} {down up : Object → Object.Field Object}
    (h : Crossing resolve t down up) : Enforces (up content) content (required t) := by
  cases h with
  | kernelInfoReply => exact enforces_kernelInfoReply
  | executeRequest => exact enforces_executeRequest
  | executeReply => exact enforces_executeReply
  | completeRequest => exact enforces_completeRequest
  | completeReply => exact enforces_completeReply
  | inspectRequest => exact enforces_inspectRequest
  | inspectReply => exact enforces_inspectReply
  | displayData => exact enforces_displayData
  | inputRequest => exact enforces_ok _

theorem required_eq_nil (ht : t ∉ rewrittenTypes) : required t = [] := by
  have hkeys : ∀ k ∈ requirements.keys, k ∈ rewrittenTypes := by decide
  have hnone : requirements.get? t = none := Assoc.get?_eq_none_iff.mpr fun h => ht (hkeys t h)
  rw [required, hnone, Option.getD_none]

theorem upgradeContent_eq_error_iff {u : Undeliverable} :
    upgradeContent t content = .error u ↔
      content.reportsError = false ∧ ∃ e, FirstFault content (required t) e ∧ e.within t = u := by
  cases he : content.reportsError with
  | true =>
    rw [upgradeContent, RewriteTable.convert_of_reportsError _ _ he]
    simp
  | false =>
    by_cases ht : t ∈ rewrittenTypes
    · -- the way down is not looked at, so any resolver will do
      obtain ⟨down, up, h⟩ := exists_crossing (fun code _ => pure code) ht
      rw [h.upgradeContent_eq he, mapError_eq_error_iff]
      simp only [true_and, enforces_up h _]
    · rw [upgradeContent, RewriteTable.convert_of_absent (upgrade_get?_eq_none ht),
        required_eq_nil ht]
      simp [not_firstFault_nil]

theorem adapt_eq_error_iff {renames : TypeRenames} {m : Message} {u : Undeliverable} :
    (adapter renames).adapt m = .error u ↔
      m.content.reportsError = false ∧
        ∃ e, FirstFault m.content (required (renames.apply m.msgType)) e ∧
          e.within (renames.apply m.msgType) = u :=
  (restamps renames).adapt_eq_error_iff.trans upgradeContent_eq_error_iff

theorem readJson_eq_self {data : Object} {s : String}
    (hs : data.get? "application/json" = some (.str s)) (hread : Json.read s = none) :
    readJson data = data := by
  refine Assoc.modify_eq_self fun v hv => ?_
  cases hv.symm.trans hs
  simp [hread]

/-- Data to show always goes up, and text in it that should be JSON and is not stays. -/
theorem exists_upgradeContent_displayData {data : Object}
    (hdata : content.get? "data" = some (.obj data)) :
    ∃ result, upgradeContent "display_data" content = .ok result ∧
      ∀ s, data.get? "application/json" = some (.str s) → Json.read s = none →
        result.get? "data" = some (.obj data) := by
  cases he : content.reportsError with
  | true => exact ⟨content, RewriteTable.convert_of_reportsError _ _ he, fun _ _ _ => hdata⟩
  | false =>
    have hcross : Crossing (fun code _ => pure code) "display_data" Downgrade.displayData
      displayData := .displayData
    have hup := hcross.upgradeContent_eq he
    have hok := displayData_eq_ok_iff.mpr ⟨data, hdata, rfl⟩
    rw [hok] at hup
    refine ⟨_, hup, fun s hs hread => ?_⟩
    rw [readJson_eq_self hs hread, Assoc.get?_modify, if_pos rfl]
    simp [hdata]

/-- Exactly the messages whose content falls short of what the new name of their type requires
cannot go up, unless they report an error, and what is reported is the first requirement that is not
met. Of messages with two types in them the one beside the header counts. Text that is no JSON is no
reason to fail and goes up as it is. -/
theorem upgrade_fails_exactly (renames : TypeRenames) :
    (∀ m : Message,
      ((∃ u, (adapter renames).adapt m = .error u) ↔
        m.content.reportsError = false ∧
          ∃ r ∈ required (renames.apply m.msgType), ¬r.Met m.content) ∧
      ∀ u, (adapter renames).adapt m = .error u ↔
        m.content.reportsError = false ∧
          ∃ e, FirstFault m.content (required (renames.apply m.msgType)) e ∧
            e.within (renames.apply m.msgType) = u) ∧
    (∀ (l : Labelled) (u : Undeliverable), l.adaptBy (adapter renames) = .error u ↔
      (adapter renames).adapt (l.message.retype l.label) = .error u) ∧
    ∀ (m : Message) (data : Object), renames.apply m.msgType = "display_data" →
      m.content.get? "data" = some (.obj data) →
      ∃ n, (adapter renames).adapt m = .ok n ∧
        ∀ s, data.get? "application/json" = some (.str s) → Json.read s = none →
          n.content.get? "data" = some (.obj data) := by
  refine ⟨fun m => ⟨?_, fun u => adapt_eq_error_iff⟩,
    fun l u => Labelled.adaptBy_eq_error_iff (restamps renames), ?_⟩
  · simp only [adapt_eq_error_iff, ← exists_firstFault_iff]
    constructor
    · rintro ⟨u, herror, e, he, _⟩
      exact ⟨herror, e, he⟩
    · rintro ⟨herror, e, he⟩
      exact ⟨_, herror, e, he, rfl⟩
  · intro m data ht hdata
    obtain ⟨result, hresult, hkept⟩ := exists_upgradeContent_displayData hdata
    refine ⟨m.restamp (some Version.currentText) "display_data" result, ?_, hkept⟩
    rw [(restamps renames).adapt_eq]
    change Except.map (m.restamp _ (renames.apply m.msgType))
      (upgradeContent (renames.apply m.msgType) m.content) = _
    rw [ht, hresult, map_ok]

/-- A variable without a name, and expressions that are none. -/
def unnamedVariable : Message :=
  .new (.new "execute_request")
    [("user_expressions", .arr []), ("user_variables", .arr [.null])]

def brokenText : Object := [("application/json", .str "[1,")]

def brokenDisplay : Message := .new (.new "display_data") [("data", .obj brokenText)]

theorem upgrade_fails_exactly_unnamedVariable :
    (upgradeRenames.apply brokenDisplay.msgType = "display_data" ∧
      brokenDisplay.content.get? "data" = some (.obj brokenText) ∧
      brokenText.get? "application/json" = some (.str "[1,") ∧ Json.read "[1," = none) ∧
    upgrade unnamedVariable =
      .error (.invalidField "execute_request" "user_expressions" "an object") ∧
    ∃ n, upgrade brokenDisplay = .ok n ∧ n.content.get? "data" = some (.obj brokenText) := by
  have hname : upgradeRenames.apply brokenDisplay.msgType = "display_data" := by decide
  have hread : Json.read "[1," = none := by decide
  have hfirst : FirstFault unnamedVariable.content (required "execute_request")
      (.invalid "user_expressions" "an object") :=
    .later ⟨.arr [.null], rfl, _, rfl⟩ (.here (.invalid (v := .arr []) rfl fun ⟨_, h⟩ => by cases h))
  obtain ⟨hfails, _, hjson⟩ := upgrade_fails_exactly upgradeRenames
  obtain ⟨n, hn, hkept⟩ := hjson brokenDisplay brokenText hname rfl
  exact ⟨⟨hname, rfl, rfl, hread⟩,
    ((hfails unnamedVariable).2 _).mpr ⟨by decide, _, hfirst, by decide⟩, n, hn,
    hkept _ rfl hread⟩

end Protocol.Upgrade

end KernelBridge
