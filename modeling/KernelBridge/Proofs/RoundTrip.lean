import KernelBridge.Proofs.Labelled

/-! # Which messages are read as they were written

Nothing keeps a program from giving a header a field that is called like one of its own members. A
message with such a field is written with the field in the place of the member, and the field is
gone when it is read again; every other message that is built comes back as it is. Reading gives no
such fields and no operation adds any, so a message that was read comes back after any run.
-/
namespace KernelBridge
open Json Outcome

/-- Headers that are built from a type, versions and fields. -/
inductive Header.Built : Header → Prop where
  | new (msgType : String) : Built (.new msgType)
  | withVersion {h : Header} (hh : h.Built) (version : String) :
      Built { h with version := some version }
  | withField {h : Header} (hh : h.Built) (key : String) (value : Value) :
      Built (h.withField key value)

namespace Header

theorem Built.ascending {h : Header} (hh : h.Built) : h.extra.Ascending := by
  induction hh with
  | new msgType => exact Assoc.ascending_nil
  | withVersion _ version ih => exact ih
  | withField _ key value ih => exact ih.insert key value

/-- A header can be built as soon as its fields are in order. -/
theorem built_iff {h : Header} : h.Built ↔ h.extra.Ascending := by
  refine ⟨Built.ascending, fun hasc => ?_⟩
  have hbare : Built ⟨h.msgType, h.version, []⟩ := by
    cases h.version with
    | none => exact .new h.msgType
    | some version => exact .withVersion (.new h.msgType) version
  -- Arranging inserts one field after the other, and fields in order are arranged already.
  have hfields (fields : Object) : Built ⟨h.msgType, h.version, fields.arrange⟩ := by
    induction fields with
    | nil => exact hbare
    | cons e fields ih => exact .withField ih e.1 e.2
  have harrange := hfields h.extra
  rwa [hasc.arrange_eq] at harrange

end Header

namespace Message

/-- Extra keys in order, and beside the header only such as reading leaves there. -/
structure Ordered (m : Message) : Prop where
  header : m.header.extra.Ascending
  beside : Apart ownKeys m.extra

variable {m : Message}

theorem Clean.ordered (hm : m.Clean) : m.Ordered := ⟨hm.header.ascending, hm.extra⟩

theorem Ordered.clean_iff (hm : m.Ordered) :
    m.Clean ↔ ∀ k ∈ Header.ownKeys, m.header.extra.get? k = none :=
  ⟨fun hc => hc.header.fresh, fun hfresh => ⟨⟨hm.header, hfresh⟩, hm.beside⟩⟩

end Message

namespace Labelled

/-- Messages that are built from a header, a content and the other parts. -/
inductive Built : Labelled → Prop where
  | new {h : Header} (hh : h.Built) (content : Object) : Built (Message.new h content).labelled
  | withMetadata {l : Labelled} (hl : l.Built) (metadata : Object) :
      Built { l with message.metadata := metadata }
  | withParentHeader {l : Labelled} (hl : l.Built) (parentHeader : Object) :
      Built { l with message.parentHeader := parentHeader }

theorem Built.label {l : Labelled} (hl : l.Built) : l.label = l.message.msgType := by
  induction hl with
  | new hh content => rfl
  | withMetadata _ metadata ih => exact ih
  | withParentHeader _ parentHeader ih => exact ih

theorem Built.ordered {l : Labelled} (hl : l.Built) : l.message.Ordered := by
  induction hl with
  | new hh content => exact ⟨hh.ascending, Assoc.ascending_nil, fun k _ => rfl⟩
  | withMetadata _ metadata ih => exact ⟨ih.header, ih.beside⟩
  | withParentHeader _ parentHeader ih => exact ⟨ih.header, ih.beside⟩

/-- Messages with equal copies of their type and with extra keys that no member is called like; they
are read as they were written. -/
structure Faithful (l : Labelled) : Prop where
  label : l.label = l.message.msgType
  header : ∀ k ∈ Header.ownKeys, l.message.header.extra.get? k = none
  beside : ∀ k ∈ Message.ownKeys, l.message.extra.get? k = none
  read : ofValue l.toValue = .ok l

theorem ofValue_eq_ok_iff {v : Value} {l : Labelled} :
    ofValue v = .ok l ↔ Message.ofValue v = .ok l.message ∧ l.label = l.message.msgType := by
  rw [ofValue, map_eq_ok_iff]
  constructor
  · rintro ⟨m, hm, rfl⟩
    exact ⟨hm, rfl⟩
  · rintro ⟨hm, hlabel⟩
    exact ⟨l.message, hm, labelled_message hlabel⟩

/-- Reading goes back to a message exactly if it has the shape of messages that were read. -/
theorem ofValue_toValue_iff {l : Labelled} (hl : l.label = l.message.msgType) :
    ofValue l.toValue = .ok l ↔ l.message.Clean := by
  have hvalue : l.toValue = l.message.toValue := congrArg toValue (labelled_message hl).symm
  rw [ofValue_eq_ok_iff, hvalue]
  exact ⟨fun h => Message.clean_of_ofValue h.1, fun hc => ⟨Message.ofValue_toValue hc, hl⟩⟩

theorem faithful_labelled {m : Message} (hm : m.Clean) : m.labelled.Faithful where
  label := rfl
  header := hm.header.fresh
  beside := hm.extra.fresh
  read := (ofValue_toValue_iff rfl).mpr hm

theorem faithful_of_run {v : Value} {l n : Labelled} {ops : List Operation}
    (hl : ofValue v = .ok l) (hn : run ops l = .ok n) : n.Faithful := by
  obtain ⟨hread, hlabel⟩ := ofValue_eq_ok_iff.mp hl
  have hextras := sameExtras_run hn
  rw [← labelled_message hlabel, run_labelled] at hn
  obtain ⟨m, _, rfl⟩ := map_eq_ok_iff.mp hn
  exact faithful_labelled (hextras.clean (Message.clean_of_ofValue hread))

/-- A built message is read as it was written exactly if no field of its header is called like a
member of the header; a message that was read is read as it is written after every run. -/
theorem reading_undoes_writing :
    (∀ l : Labelled, l.Built →
      (ofValue l.toValue = .ok l ↔
        ∀ k ∈ Header.ownKeys, l.message.header.extra.get? k = none)) ∧
    ∀ (v : Value) (l n : Labelled) (ops : List Operation),
      ofValue v = .ok l → run ops l = .ok n → n.Faithful := by
  constructor
  · intro l hl
    exact (ofValue_toValue_iff hl.label).trans hl.ordered.clean_iff
  · intro v l n ops hl hn
    exact faithful_of_run hl hn

/-- A report of a kernel, built with a field in its header. -/
def report : Labelled :=
  (Message.new ((Header.new "status").withField "session" (.str "a"))
    [("execution_state", .str "busy")]).labelled

/-- A result of a kernel as it arrives, with something else beside the header. -/
def resultValue : Value :=
  .obj [("buffers", .arr []), ("content", .obj [("execution_count", .int 1)]),
    ("header", .obj [("msg_type", .str "execute_result"), ("session", .str "a"),
      ("version", .str "5.3")]),
    ("metadata", .null), ("msg_type", .int 7)]

def result : Labelled :=
  Message.labelled ⟨⟨"execute_result", some "5.3", [("session", .str "a")]⟩, [],
    [("execution_count", .int 1)], [], [("buffers", .arr [])]⟩

/-- The result as version 4 calls it, with a note of where it went. -/
def legacyResult : Labelled :=
  Message.labelled ⟨⟨"pyout", none, [("session", .str "a")]⟩, [], [("execution_count", .int 1)],
    [("client", .str "b")], [("buffers", .arr [])]⟩

def delivery : List Operation :=
  [.editMetadata (Assoc.insert · "client" (.str "b")), .adapt Code.Machine.identifierAt {} 4]

theorem reading_undoes_writing_result :
    (report.Built ∧ ofValue report.toValue = .ok report) ∧
      ofValue resultValue = .ok result ∧ run delivery result = .ok legacyResult ∧
      legacyResult.Faithful := by
  have hbuilt : report.Built := .new (.withField (.new "status") "session" (.str "a")) _
  have hfields : ∀ k ∈ Header.ownKeys, report.message.header.extra.get? k = none := by decide
  have hread : ofValue resultValue = .ok result := rfl
  have hrun : run delivery result = .ok legacyResult := rfl
  constructor
  · exact ⟨hbuilt, (reading_undoes_writing.1 report hbuilt).mpr hfields⟩
  · refine ⟨hread, hrun, ?_⟩
    exact reading_undoes_writing.2 resultValue result legacyResult delivery hread hrun

end Labelled

end KernelBridge
