import KernelBridge.Assoc.Ascending
import KernelBridge.Proofs.Crossing
import KernelBridge.Proofs.Downgrade
import KernelBridge.Proofs.JsonText
import KernelBridge.Proofs.Upgrade

/-! # JSON among the data to show

In version 4 a JSON value is shown as its text. The text of every value without floats is read as
that value again, also if the value is a string and the string a JSON text: it is printed once and
read once. So a content comes back as it was.
-/
namespace KernelBridge.Protocol
open Json Outcome

/-- What has become of a content with data to show in version 4. -/
structure Shown (content data result : Object) : Prop where
  source : result.get? "source" = some (.str "display")
  data : ∃ shown : Object, result.get? "data" = some (.obj shown) ∧
    (shown.get? "application/json" =
      (data.get? "application/json").map fun v => .str v.compact) ∧
    (∀ k, k ≠ "application/json" → shown.get? k = data.get? k) ∧
    shown.keys = data.keys
  others : ∀ k, k ∉ ["source", "data"] → result.get? k = content.get? k
  ascending : content.Ascending → result.Ascending

/-- A content with data to show as it goes to version 4. -/
def legacyDisplay (content data : Object) : Object :=
  Assoc.modify (content.insertNew "source" (.str "display")) "data"
    fun _ => .obj (Downgrade.printJson data)

variable {content data : Object}

theorem get?_legacyDisplay_data (hd : content.get? "data" = some (.obj data)) :
    (legacyDisplay content data).get? "data" = some (.obj (Downgrade.printJson data)) := by
  simp [legacyDisplay, hd]

theorem get?_legacyDisplay {k : String} (hsource : k ≠ "source") (hdata : k ≠ "data") :
    (legacyDisplay content data).get? k = content.get? k := by
  simp [legacyDisplay, hsource, hdata]

theorem shown_legacyDisplay (hs : content.get? "source" = none)
    (hd : content.get? "data" = some (.obj data)) :
    Shown content data (legacyDisplay content data) := by
  refine ⟨?_, ⟨Downgrade.printJson data, get?_legacyDisplay_data hd, ?_, ?_, ?_⟩, ?_, ?_⟩
  · simp [legacyDisplay, hs]
  · rw [Downgrade.printJson, Assoc.get?_modify, if_pos rfl]
  · intro k hk
    rw [Downgrade.printJson, Assoc.get?_modify, if_neg hk]
  · exact Assoc.keys_modify ..
  · intro k hk
    simp only [List.mem_cons, List.not_mem_nil, or_false, not_or] at hk
    exact get?_legacyDisplay hk.1 hk.2
  · intro hasc
    exact (hasc.insertNew _ _).modify _ _

/-- A value is printed once and read once. -/
theorem readJson_printJson
    (h : ∀ v, data.get? "application/json" = some v → Writable maxDepth v) :
    Upgrade.readJson (Downgrade.printJson data) = data := by
  unfold Upgrade.readJson Downgrade.printJson Object.change
  rw [Assoc.modify_modify]
  refine Assoc.modify_eq_self fun v hv => ?_
  have hread : Json.read v.compact = some v := read_compact (h v hv)
  simp only [Value.asString?_str, Option.bind_some, hread, Option.getD_some]

/-- Taking the source away and reading the text undoes the way down. -/
theorem displayData_legacyDisplay (hs : content.get? "source" = none)
    (hd : content.get? "data" = some (.obj data))
    (h : ∀ v, data.get? "application/json" = some v → Writable maxDepth v) :
    Upgrade.displayData (legacyDisplay content data) = .ok content := by
  have hdata : ∀ v, content.get? "data" = some v → .obj data = v := by
    intro v hv
    exact Option.some.inj (hd.symm.trans hv)
  refine Upgrade.displayData_eq_ok_iff.mpr ⟨_, get?_legacyDisplay_data hd, ?_⟩
  calc Assoc.modify ((legacyDisplay content data).erase "source") "data"
        (fun _ => .obj (Upgrade.readJson (Downgrade.printJson data)))
      = Assoc.modify ((content.insertNew "source" (.str "display")).erase "source") "data"
          (fun _ => .obj data) := by
        rw [readJson_printJson h, legacyDisplay, Assoc.erase_modify (by decide),
          Assoc.modify_modify]
    _ = content.modify "data" (fun _ => .obj data) := by
        rw [Assoc.insertNew_of_get?_eq_none hs, Assoc.erase_insert hs]
    _ = content := Assoc.modify_eq_self hdata

/-- Data to show goes to version 4 with its JSON value as a text and with a source, and comes back
from there as it was. -/
theorem display_data_comes_back (resolve : Downgrade.Resolver) {m : Message} {data : Object}
    (ht : m.msgType = "display_data") (he : m.content.reportsError = false)
    (hs : m.content.get? "source" = none) (hd : m.content.get? "data" = some (.obj data))
    (hj : ∀ v, data.get? "application/json" = some v → Writable 127 v) :
    ∃ middle, downgrade resolve m = .ok (m.restamp none "display_data" middle) ∧
      Shown m.content data middle ∧
      upgrade (m.restamp none "display_data" middle) = .ok (m.setVersion (some "5.0")) := by
  have hdown : Downgrade.displayData m.content = .ok (legacyDisplay m.content data) :=
    Downgrade.displayData_eq_ok_iff.mpr ⟨data, hd, rfl⟩
  have hup := displayData_legacyDisplay hs hd hj
  have hstatus : (legacyDisplay m.content data).get? "status" = m.content.get? "status" :=
    get?_legacyDisplay (by decide) (by decide)
  have hcross : Crossing resolve "display_data" Downgrade.displayData Upgrade.displayData :=
    .displayData
  have hmiddle : downgrade resolve m =
      .ok (m.restamp none "display_data" (legacyDisplay m.content data)) := by
    rw [downgrade_eq, ht, hcross.downgradeContent_eq he, hdown]
    rfl
  refine ⟨_, hmiddle, shown_legacyDisplay hs hd, ?_⟩
  have hback : (downgrade resolve m >>= upgrade) = .ok (m.setVersion (some "5.0")) := by
    rw [downgrade_bind_upgrade resolve (by rw [ht]; decide), ht,
      hcross.down_up he hdown hstatus hup, map_ok, ← ht, Message.restamp_self]
    rfl
  rwa [hmiddle, ok_bind] at hback

/-- A value with a JSON text in it, characters to escape and the limits of the integers. -/
def jsonValue : Value :=
  .arr [.str "[1]\n\u0001", .int (-0x8000000000000000), .int 0xffffffffffffffff,
    .obj [("k", .null), ("l", .arr [])]]

def jsonText : String :=
  "[\"[1]\\n\\u0001\",-9223372036854775808,18446744073709551615,\x7b\"k\":null,\"l\":[]\x7d]"

def jsonData : Object := [("application/json", jsonValue), ("text/plain", .str "x")]

def displayedJson : Message :=
  .new ⟨"display_data", some "5.3", [("session", .str "a")]⟩
    [("data", .obj jsonData), ("metadata", .obj [])]

theorem writable_jsonValue : Writable 127 jsonValue := by
  have hobject : Writable 126 (.obj [("k", .null), ("l", .arr [])]) := by
    refine .obj (by decide) ?_
    simp [Writable.null, Writable.arr]
  have hleast : Writable 126 (.int (-0x8000000000000000)) := .int (by decide)
  have hgreatest : Writable 126 (.int 0xffffffffffffffff) := .int (by decide)
  refine .arr ?_
  simp [Writable.str, hleast, hgreatest, hobject]

theorem display_data_comes_back_text :
    ∃ middle, downgrade Code.Machine.identifierAt displayedJson =
        .ok (displayedJson.restamp none "display_data" middle) ∧
      (∃ shown : Object, middle.get? "data" = some (.obj shown) ∧
        shown.get? "application/json" = some (.str jsonText)) ∧
      upgrade (displayedJson.restamp none "display_data" middle) =
        .ok (displayedJson.setVersion (some "5.0")) := by
  have herror : displayedJson.content.reportsError = false := by decide
  have hvalue : jsonData.get? "application/json" = some jsonValue := rfl
  have hjson : ∀ v, jsonData.get? "application/json" = some v → Writable 127 v := by
    intro v hv
    exact Option.some.inj (hvalue.symm.trans hv) ▸ writable_jsonValue
  have hcompact : jsonValue.compact = jsonText := by decide
  obtain ⟨middle, hmiddle, hshown, hback⟩ :=
    display_data_comes_back Code.Machine.identifierAt rfl herror rfl rfl hjson
  obtain ⟨shown, hdata, htext, _⟩ := hshown.data
  refine ⟨middle, hmiddle, ⟨shown, hdata, ?_⟩, hback⟩
  rw [htext, hvalue, Option.map_some, hcompact]

end KernelBridge.Protocol
