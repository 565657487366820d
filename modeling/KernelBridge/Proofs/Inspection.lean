import KernelBridge.Proofs.Crossing
import KernelBridge.Proofs.Upgrade

/-! # What is said about an object

A reply of version 4 says whether there is an object of a name, and in up to six fields how to use
it and what it is. Version 5 has one text for all this: the most specific definition above the most
specific documentation, each if there is one, or a placeholder. Nothing of it goes back to version 4.
-/
namespace KernelBridge
open Json Outcome

/-- Values that answer the question for an object with no. -/
inductive Json.Value.Falsy : Value → Prop
  | null : Falsy .null
  | no : Falsy (.bool false)
  | integer : Falsy (.int 0)
  | float {x : Float} (h : (x == 0) = true) : Falsy (.num (.float x))
  | text : Falsy (.str "")
  | list : Falsy (.arr [])
  | object : Falsy (.obj [])

theorem Json.Value.falsy_iff {v : Value} : v.Falsy ↔ v.truthy = false := by
  constructor
  · intro h
    cases h with
    | null | no | integer | text | list | object => rfl
    | float h => simp [truthy, Number.isZero, h]
  · intro h
    cases v with
    | null => exact .null
    | bool b =>
      obtain rfl : b = false := h
      exact .no
    | num n =>
      cases n with
      | int n =>
        obtain rfl : n = 0 := by simpa [truthy, Number.isZero] using h
        exact .integer
      | float x => exact .float (by simpa [truthy, Number.isZero] using h)
    | str s =>
      obtain rfl : s = "" := by simpa [truthy] using h
      exact .text
    | arr items =>
      obtain rfl : items = [] := by simpa [truthy] using h
      exact .list
    | obj fields =>
      obtain rfl : fields = [] := by simpa [truthy] using h
      exact .object

namespace Protocol

/-- The text of the first field that holds one. Fields that are left out, hold no string or hold an
empty one are passed over. -/
inductive FirstText (content : Object) : List String → String → Prop
  | here {field : String} {fields : List String} {text : String}
      (h : content.get? field = some (.str text)) (hne : text ≠ "") :
      FirstText content (field :: fields) text
  | later {field : String} {fields : List String} {text : String}
      (hempty : ∀ s, content.get? field = some (.str s) → s = "")
      (h : FirstText content fields text) : FirstText content (field :: fields) text

/-- The fields with a definition, the most specific one first. -/
def definitionFields : List String := ["call_def", "init_definition", "definition"]

/-- The fields with a documentation, the most specific one first. -/
def docstringFields : List String := ["call_docstring", "init_docstring", "docstring"]

/-- The text about an object. -/
inductive Describes (content : Object) : String → Prop
  | both {definition doc : String} (hdef : FirstText content definitionFields definition)
      (hdoc : FirstText content docstringFields doc) : Describes content (definition ++ "\n" ++ doc)
  | definition {definition : String} (hdef : FirstText content definitionFields definition)
      (hdoc : ∀ doc, ¬FirstText content docstringFields doc) : Describes content definition
  | docstring {doc : String} (hdef : ∀ definition, ¬FirstText content definitionFields definition)
      (hdoc : FirstText content docstringFields doc) : Describes content doc
  | nothing (hdef : ∀ definition, ¬FirstText content definitionFields definition)
      (hdoc : ∀ doc, ¬FirstText content docstringFields doc) :
      Describes content "<empty docstring>"

/-- The data of a reply: of an object that was not found there are none. -/
inductive Presents (content : Object) (found : Value) : Object → Prop
  | absent (h : found.Falsy) : Presents content found []
  | found {text : String} (h : ¬found.Falsy) (ht : Describes content text) :
      Presents content found [("text/plain", .str text)]

variable {content : Object} {found name : Value}

theorem text?_filter_eq_some_iff {field text : String} :
    (content.text? field).filter (· ≠ "") = some text ↔
      content.get? field = some (.str text) ∧ text ≠ "" := by
  rw [Option.filter_eq_some_iff, Object.text?_eq_some_iff, decide_eq_true_eq]

theorem text?_filter_eq_none_iff {field : String} :
    (content.text? field).filter (· ≠ "") = none ↔
      ∀ s, content.get? field = some (.str s) → s = "" := by
  simp only [Option.eq_none_iff_forall_ne_some, ne_eq, text?_filter_eq_some_iff, not_and,
    Decidable.not_not]

theorem firstText?_eq_some_iff {fields : List String} {text : String} :
    Upgrade.firstText? content fields = some text ↔ FirstText content fields text := by
  induction fields with
  | nil =>
    constructor <;> intro h <;> cases h
  | cons field fields ih =>
    rw [Upgrade.firstText?, List.findSome?_cons]
    cases hf : (content.text? field).filter (· ≠ "") with
    | some s =>
      obtain ⟨hs, hne⟩ := text?_filter_eq_some_iff.mp hf
      constructor
      · rintro ⟨⟩
        exact .here hs hne
      · intro h
        cases h with
        | here h _ => exact congrArg some (Value.str.inj (Option.some.inj (hs.symm.trans h)))
        | later hempty _ => exact absurd (hempty s hs) hne
    | none =>
      have hempty := text?_filter_eq_none_iff.mp hf
      constructor
      · exact fun h => .later hempty (ih.mp h)
      · intro h
        cases h with
        | here h hne => exact absurd (hempty _ h) hne
        | later _ h => exact ih.mpr h

theorem firstText?_eq_none_iff {fields : List String} :
    Upgrade.firstText? content fields = none ↔ ∀ text, ¬FirstText content fields text := by
  rw [Option.eq_none_iff_forall_ne_some]
  exact forall_congr' fun _ => not_congr firstText?_eq_some_iff

theorem inspectionText_eq (content : Object) :
    Upgrade.inspectionText content =
      match Upgrade.firstText? content definitionFields,
        Upgrade.firstText? content docstringFields with
      | some definition, some doc => definition ++ "\n" ++ doc
      | some definition, none => definition
      | none, some doc => doc
      | none, none => "<empty docstring>" := rfl

/-- There is one text about each object. -/
theorem describes_iff {text : String} :
    Describes content text ↔ text = Upgrade.inspectionText content := by
  rw [inspectionText_eq]
  constructor
  · intro h
    cases h with
    | both hdef hdoc => rw [firstText?_eq_some_iff.mpr hdef, firstText?_eq_some_iff.mpr hdoc]
    | definition hdef hdoc => rw [firstText?_eq_some_iff.mpr hdef, firstText?_eq_none_iff.mpr hdoc]
    | docstring hdef hdoc => rw [firstText?_eq_none_iff.mpr hdef, firstText?_eq_some_iff.mpr hdoc]
    | nothing hdef hdoc => rw [firstText?_eq_none_iff.mpr hdef, firstText?_eq_none_iff.mpr hdoc]
  · rintro rfl
    cases hdef : Upgrade.firstText? content definitionFields with
    | some definition =>
      have hdef := firstText?_eq_some_iff.mp hdef
      cases hdoc : Upgrade.firstText? content docstringFields with
      | some doc => exact .both hdef (firstText?_eq_some_iff.mp hdoc)
      | none => exact .definition hdef (firstText?_eq_none_iff.mp hdoc)
    | none =>
      have hdef := firstText?_eq_none_iff.mp hdef
      cases hdoc : Upgrade.firstText? content docstringFields with
      | some doc => exact .docstring hdef (firstText?_eq_some_iff.mp hdoc)
      | none => exact .nothing hdef (firstText?_eq_none_iff.mp hdoc)

/-- What version 5 shows of an object. -/
def shownData (content : Object) (found : Value) : Object :=
  if found.truthy then [("text/plain", .str (Upgrade.inspectionText content))] else []

theorem presents_iff {data : Object} :
    Presents content found data ↔ data = shownData content found := by
  unfold shownData
  constructor
  · intro h
    cases h with
    | absent h => rw [Value.falsy_iff.mp h, if_neg Bool.false_ne_true]
    | found h ht =>
      rw [Value.falsy_iff, Bool.not_eq_false] at h
      rw [if_pos h, describes_iff.mp ht]
  · rintro rfl
    cases h : found.truthy with
    | true =>
      refine .found ?_ (describes_iff.mpr rfl)
      rw [Value.falsy_iff, h]
      exact Ne.symm Bool.false_ne_true
    | false => exact .absent (Value.falsy_iff.mpr h)

/-- A reply about an object in version 5, all of its keys. -/
def inspection (found name : Value) (data : Object) : Object :=
  [("data", .obj data), ("found", found), ("metadata", .obj []), ("name", name),
    ("status", .str "ok")]

theorem inspection_eq_ofList (found name : Value) (data : Object) :
    Assoc.ofList
      [("status", .str "ok"), ("found", found), ("name", name), ("data", .obj data),
        ("metadata", .obj [])] = inspection found name data := by
  have hkeys : ["data", "found", "metadata", "name", "status"].Pairwise (· < ·) := by decide
  have hascending : (inspection found name data).Ascending := hkeys
  refine (Assoc.ascending_ofList _).ext hascending fun key => ?_
  rw [Assoc.get?_ofList]
  simp only [inspection, List.reverse_cons, List.reverse_nil, List.nil_append, List.cons_append,
    Assoc.get?_cons]
  grind

theorem inspectReply_eq_inspection (hf : content.get? "found" = some found)
    (hn : content.get? "name" = some name) :
    Upgrade.inspectReply content = .ok (inspection found name (shownData content found)) :=
  Upgrade.inspectReply_eq_ok_iff.mpr ⟨found, name, hf, hn, inspection_eq_ofList ..⟩

theorem inspection_reportsError (found name : Value) (data : Object) :
    (inspection found name data).reportsError = false := rfl

/-- A reply about an object goes up with the data that `Presents` tells, and goes down again as the
reply about an unknown one that was not found. -/
theorem inspections_presented (resolve : Downgrade.Resolver) {m : Message} {found name : Value}
    (ht : m.msgType = "object_info_reply") (he : m.content.reportsError = false)
    (hf : m.content.get? "found" = some found) (hn : m.content.get? "name" = some name) :
    ∃ data, (∀ other, Presents m.content found other ↔ other = data) ∧
      upgrade m = .ok (m.restamp (some "5.0") "inspect_reply" (inspection found name data)) ∧
      downgrade resolve (m.restamp (some "5.0") "inspect_reply" (inspection found name data)) =
        .ok (m.restamp none "object_info_reply"
          [("found", .bool false), ("name", .str "unknown")]) := by
  have hcross : Crossing resolve "inspect_reply" Downgrade.objectInfoReply Upgrade.inspectReply :=
    .inspectReply
  refine ⟨shownData m.content found, fun _ => presents_iff, ?_, ?_⟩
  · have htype : upgradeRenames.apply "object_info_reply" = "inspect_reply" := by decide
    rw [upgrade_eq, ht, htype, hcross.upgradeContent_eq he, inspectReply_eq_inspection hf hn]
    rfl
  · rw [downgrade_eq, Message.msgType_restamp, Message.content_restamp,
      hcross.downgradeContent_eq (inspection_reportsError ..)]
    rfl

/-- A reply with a list instead of a definition and with an empty documentation, each before others
that count. -/
def widgetReply : Message :=
  .new ⟨"object_info_reply", none, [("session", .str "a")]⟩
    [("call_def", .arr []), ("call_docstring", .str ""), ("definition", .str "class Widget"),
      ("docstring", .str "A widget."), ("found", .int 1), ("init_definition", .str "Widget(size)"),
      ("name", .str "Widget")]

/-- A reply that only seems to be about something. -/
def zeroReply : Message :=
  .new (.new "object_info_reply")
    [("docstring", .str "A widget."), ("found", .num (.float (-0.0))), ("name", .null)]

theorem inspections_presented_widget :
    upgrade widgetReply = .ok (widgetReply.restamp (some "5.0") "inspect_reply"
        (inspection (.int 1) (.str "Widget")
          [("text/plain", .str ("Widget(size)" ++ "\n" ++ "A widget."))])) ∧
      upgrade zeroReply = .ok (zeroReply.restamp (some "5.0") "inspect_reply"
        (inspection (.num (.float (-0.0))) .null [])) := by
  constructor
  · obtain ⟨data, hdata, hup, _⟩ :=
      inspections_presented Code.Machine.identifierAt (m := widgetReply) rfl rfl rfl rfl
    have htruthy : ¬(Value.int 1).Falsy := by
      rw [Value.falsy_iff]
      decide
    have hdef : FirstText widgetReply.content definitionFields "Widget(size)" :=
      .later (fun s hs => by cases hs) (.here rfl (by decide))
    have hdoc : FirstText widgetReply.content docstringFields "A widget." :=
      .later (fun s hs => (Value.str.inj (Option.some.inj hs)).symm)
        (.later (fun s hs => by cases hs) (.here rfl (by decide)))
    rw [hup, ← (hdata _).mp (.found htruthy (.both hdef hdoc))]
  · obtain ⟨data, hdata, hup, _⟩ :=
      inspections_presented Code.Machine.identifierAt (m := zeroReply) rfl rfl rfl rfl
    rw [hup, ← (hdata _).mp (.absent (.float (by decide)))]

end Protocol

end KernelBridge
