import KernelBridge.Proofs.Wire

/-! # Which values are messages

A value can be read as a message exactly if the keys that mean something hold what they have to
hold; otherwise the first of them, in the order of the keys, is reported. What was read is written
as the same value in its canonical form: with the type beside the header, without a null version and
with all parts that may be left out.
-/
namespace KernelBridge
open Json Outcome

namespace Json

/-- What is wrong with a value that has to be of some kind. -/
abbrev Demand := Value → Option DecodeError

namespace Demand

def string : Demand
  | .str _ => none
  | v => some (.invalidType v "a string")

def object : Demand
  | .obj _ => none
  | v => some (.invalidType v "a map")

def unlessNull (demand : Demand) : Demand
  | .null => none
  | v => demand v

variable {v : Value}

theorem string_eq_none_iff : string v = none ↔ ∃ s, v = .str s := by
  cases v <;> simp [string]

theorem object_eq_none_iff : object v = none ↔ ∃ fields, v = .obj fields := by
  cases v <;> simp [object]

theorem unlessNull_eq_none_iff {demand : Demand} :
    unlessNull demand v = none ↔ v = .null ∨ demand v = none := by
  cases v <;> simp [unlessNull]

theorem decodeString_eq_ok_iff {s : String} : v.decodeString = .ok s ↔ v = .str s := by
  cases v <;> simp [Value.decodeString]

theorem decodeObject_eq_ok_iff {fields : Object} :
    v.decodeObject = .ok fields ↔ v = .obj fields := by
  cases v <;> simp [Value.decodeObject]

theorem error?_decodeString (v : Value) : error? v.decodeString = string v := by
  cases v <;> rfl

theorem error?_decodeObject (v : Value) : error? v.decodeObject = object v := by
  cases v <;> rfl

theorem error?_decodeUnlessNull {α : Type} {decode : Value → Decoded α} {demand : Demand}
    (h : ∀ v, error? (decode v) = demand v) (v : Value) :
    error? (Value.decodeUnlessNull decode v) = unlessNull demand v := by
  cases v with
  | null => rfl
  | _ => exact (error?_map ..).trans (h _)

end Demand

namespace Object

/-- The fault of the first entry, in the order of the keys, that does not meet the demand on its
key. That a required key is missing comes last. -/
def fault? (fields : Object) (demands : Assoc String Demand) (required : String) :
    Option DecodeError :=
  (fields.arrange.findSome? fun e => (demands.get? e.1).bind (· e.2)).or
    (if fields.contains required then none else some (.missingField required))

variable {fields : Object} {demands : Assoc String Demand} {required name : String}

/-- The demands can be gone through instead of the entries. -/
theorem fault?_eq (hd : demands.Ascending) :
    fields.fault? demands required =
      (demands.findSome? fun d => (fields.get? d.1).bind d.2).or
        (if fields.contains required then none else some (.missingField required)) := by
  rw [fault?, (Assoc.ascending_arrange fields).findSome?_join hd fun v demand => demand v]
  simp only [Assoc.get?_arrange]

theorem fault?_eq_none_iff (hd : demands.Ascending) :
    fields.fault? demands required = none ↔
      (∀ d ∈ demands, ∀ v, fields.get? d.1 = some v → d.2 v = none) ∧
        fields.contains required = true := by
  rw [fault?_eq hd, Option.or_eq_none_iff, List.findSome?_eq_none_iff]
  refine and_congr ?_ ?_
  · simp only [Option.bind_eq_none_iff]
  · cases fields.contains required <;> simp

variable {α : Type} {decode : Value → Decoded α} {demand : Demand}

theorem error?_decodeMember (h : ∀ v, error? (decode v) = demand v) (fields : Object)
    (name : String) :
    error? (fields.decodeMember name decode) = (fields.get? name).bind demand := by
  unfold decodeMember
  cases fields.get? name with
  | none => rfl
  | some v => exact (error?_map ..).trans (h v)

theorem decodeMember_eq_ok_iff {x : Option α} :
    fields.decodeMember name decode = .ok x ↔
      (fields.get? name = none ∧ x = none) ∨
      ∃ v a, fields.get? name = some v ∧ decode v = .ok a ∧ x = some a := by
  unfold decodeMember
  cases fields.get? name with
  | none => simp [eq_comm]
  | some v =>
    simp only [reduceCtorEq, false_and, false_or, Option.some.injEq, map_eq_ok_iff]
    simp [eq_comm]

theorem isSome_of_decodeMember {x : Option α} (h : fields.decodeMember name decode = .ok x) :
    x.isSome = fields.contains name := by
  unfold Assoc.contains
  rcases decodeMember_eq_ok_iff.mp h with ⟨hv, rfl⟩ | ⟨v, a, hv, _, rfl⟩
  · rw [hv]
    rfl
  · rw [hv]
    rfl

end Object

end Json

namespace Header

def demands : Assoc String Demand :=
  [("msg_type", Demand.string), ("version", Demand.unlessNull Demand.string)]

def fault? : Demand
  | .obj fields => Object.fault? fields demands "msg_type"
  | v => some (.invalidType v "struct Header")

theorem ascending_demands : demands.Ascending := by decide

theorem error?_ofObject (fields : Object) :
    error? (ofObject fields) = fields.fault? demands "msg_type" := by
  have htype := Object.error?_decodeMember Demand.error?_decodeString fields "msg_type"
  have hversion := Object.error?_decodeMember
    (Demand.error?_decodeUnlessNull Demand.error?_decodeString) fields "version"
  rw [Object.fault?_eq ascending_demands]
  simp only [demands, List.findSome?_cons, List.findSome?_nil, ← htype, ← hversion]
  unfold ofObject
  cases hm : fields.decodeMember "msg_type" Value.decodeString with
  | error e => rfl
  | ok msgType =>
    have hsome := Object.isSome_of_decodeMember hm
    cases fields.decodeMember "version" (Value.decodeUnlessNull Value.decodeString) with
    | error e => rfl
    | ok version =>
      rw [← hsome]
      cases msgType <;> rfl

theorem error?_ofValue (v : Value) : error? (ofValue v) = fault? v := by
  cases v with
  | obj fields => exact error?_ofObject fields
  | _ => rfl

/-- The members of a header that mean something are of their kinds. -/
structure Readable (inner : Object) : Prop where
  msgType : ∃ t, inner.get? "msg_type" = some (.str t)
  version : ∀ v, inner.get? "version" = some v → v = .null ∨ ∃ s, v = .str s

theorem fault?_eq_none_iff {v : Value} :
    fault? v = none ↔ ∃ inner, v = .obj inner ∧ Readable inner := by
  cases v with
  | obj inner =>
    rw [fault?, Object.fault?_eq_none_iff ascending_demands]
    simp only [demands, List.forall_mem_cons, List.not_mem_nil, Demand.string_eq_none_iff,
      Demand.unlessNull_eq_none_iff, Value.obj.injEq, exists_eq_left']
    constructor
    · rintro ⟨⟨htype, hversion, _⟩, hthere⟩
      obtain ⟨v, hv⟩ := Option.isSome_iff_exists.mp hthere
      obtain ⟨t, rfl⟩ := htype v hv
      exact ⟨⟨t, hv⟩, hversion⟩
    · rintro ⟨⟨t, ht⟩, hversion⟩
      refine ⟨⟨fun v hv => ⟨t, ?_⟩, hversion, fun _ hnone => hnone.elim⟩,
        Option.isSome_iff_exists.mpr ⟨_, ht⟩⟩
      exact Option.some.inj (hv.symm.trans ht)
  | _ => simp [fault?]

/-- A header as it is written: null is no version. -/
def canonical (inner : Object) : Object :=
  match inner.get? "version" with
  | some .null => Assoc.erase inner.arrange "version"
  | _ => inner.arrange

theorem members_of_ofObject {inner : Object} {h : Header} (hv : ofObject inner = .ok h) :
    inner.get? "msg_type" = some (.str h.msgType) ∧
      h.extra = (inner.without ownKeys).arrange := by
  obtain ⟨msgType, htype, hv⟩ := bind_eq_ok_iff.mp hv
  obtain ⟨version, _, hv⟩ := bind_eq_ok_iff.mp hv
  rcases Object.decodeMember_eq_ok_iff.mp htype with ⟨_, rfl⟩ | ⟨v, t, hget, ht, rfl⟩
  · cases hv
  · cases hv
    rw [hget, Demand.decodeString_eq_ok_iff.mp ht]
    exact ⟨rfl, rfl⟩

theorem ascending_toObject (h : Header) : h.toObject.Ascending :=
  ((Assoc.ascending_ofList _).insertAll _).insertAll _

theorem get?_toObject {h : Header} (hasc : h.extra.Ascending) (k : String) :
    h.toObject.get? k = (h.extra.get? k).or (h.ownObject.get? k) := hasc.get?_insertAll k

theorem toObject_eq_canonical {inner : Object} {h : Header} (hv : ofObject inner = .ok h) :
    h.toObject = canonical inner := by
  obtain ⟨htype, hextra⟩ := members_of_ofObject hv
  have hasc : (canonical inner).Ascending := by
    unfold canonical
    split
    · exact (Assoc.ascending_arrange inner).erase _
    · exact Assoc.ascending_arrange inner
  refine h.ascending_toObject.ext hasc fun k => ?_
  rw [get?_toObject (clean_of_ofObject hv).ascending, get?_ownObject, hextra, Assoc.get?_arrange,
    Assoc.get?_without, canonical]
  rcases version_of_ofObject hv with ⟨hget, hversion⟩ | ⟨hget, hversion⟩ | ⟨s, hget, hversion⟩
  all_goals
    rw [hget, hversion]
    by_cases hk : k = "version"
    · simp [hk, ownKeys, hget]
    · by_cases ht : k = "msg_type" <;> simp [hk, ht, ownKeys, htype]

end Header

namespace Message

def demands : Assoc String Demand :=
  [("content", Demand.object), ("header", Header.fault?),
    ("metadata", Demand.unlessNull Demand.object),
    ("parent_header", Demand.unlessNull Demand.object)]

/-- What is reported of a value that is no message. -/
def fault? : Demand
  | .obj fields => Object.fault? fields demands "header"
  | v => some (.invalidType v "struct WireMessage")

theorem ascending_demands : demands.Ascending := by decide

theorem error?_ofObject (fields : Object) :
    error? (ofObject fields) = fields.fault? demands "header" := by
  have hobject := Demand.error?_decodeUnlessNull Demand.error?_decodeObject
  have hcontent := Object.error?_decodeMember Demand.error?_decodeObject fields "content"
  have hheader := Object.error?_decodeMember Header.error?_ofValue fields "header"
  have hmetadata := Object.error?_decodeMember hobject fields "metadata"
  have hparent := Object.error?_decodeMember hobject fields "parent_header"
  rw [Object.fault?_eq ascending_demands]
  simp only [demands, List.findSome?_cons, List.findSome?_nil, ← hcontent, ← hheader, ← hmetadata,
    ← hparent]
  unfold ofObject
  cases fields.decodeMember "content" Value.decodeObject with
  | error e => rfl
  | ok content =>
    cases hm : fields.decodeMember "header" Header.ofValue with
    | error e => rfl
    | ok header =>
      have hsome := Object.isSome_of_decodeMember hm
      cases fields.decodeMember "metadata" (Value.decodeUnlessNull Value.decodeObject) with
      | error e => rfl
      | ok metadata =>
        cases fields.decodeMember "parent_header" (Value.decodeUnlessNull Value.decodeObject) with
        | error e => rfl
        | ok parent =>
          rw [← hsome]
          cases header <;> rfl

theorem error?_decode (v : Value) : error? (decode v) = fault? v := by
  cases v with
  | obj fields => exact error?_ofObject fields
  | _ => rfl

/-- The members of a message that mean something are of their kinds. -/
structure Readable (fields : Object) : Prop where
  header : ∃ inner, fields.get? "header" = some (.obj inner) ∧ Header.Readable inner
  content : ∀ v, fields.get? "content" = some v → ∃ content, v = .obj content
  metadata : ∀ v, fields.get? "metadata" = some v → v = .null ∨ ∃ metadata, v = .obj metadata
  parentHeader : ∀ v, fields.get? "parent_header" = some v → v = .null ∨ ∃ parent, v = .obj parent

theorem fault?_eq_none_iff {v : Value} :
    fault? v = none ↔ ∃ fields, v = .obj fields ∧ Readable fields := by
  cases v with
  | obj fields =>
    rw [fault?, Object.fault?_eq_none_iff ascending_demands]
    simp only [demands, List.forall_mem_cons, List.not_mem_nil, Demand.object_eq_none_iff,
      Demand.unlessNull_eq_none_iff, Header.fault?_eq_none_iff, Value.obj.injEq, exists_eq_left']
    constructor
    · rintro ⟨⟨hcontent, hheader, hmetadata, hparent, _⟩, hthere⟩
      obtain ⟨v, hv⟩ := Option.isSome_iff_exists.mp hthere
      obtain ⟨inner, rfl, hinner⟩ := hheader v hv
      exact ⟨⟨inner, hv, hinner⟩, hcontent, hmetadata, hparent⟩
    · rintro ⟨⟨inner, hv, hinner⟩, hcontent, hmetadata, hparent⟩
      refine ⟨⟨hcontent, fun w hw => ⟨inner, ?_, hinner⟩, hmetadata, hparent,
        fun _ hnone => hnone.elim⟩, Option.isSome_iff_exists.mpr ⟨_, hv⟩⟩
      exact Option.some.inj (hw.symm.trans hv)
  | _ => simp [fault?]

/-- A part that may be left out or be null. -/
def orEmpty : Option Value → Value
  | none | some .null => .obj []
  | some v => v

/-- The members of a message with a header as they are written. -/
def canonicalObject (fields inner : Object) : Object :=
  Assoc.insertAll fields.arrange
    [("content", (fields.get? "content").getD (.obj [])),
      ("header", .obj (Header.canonical inner)), ("metadata", orEmpty (fields.get? "metadata")),
      ("msg_type", (inner.get? "msg_type").getD .null),
      ("parent_header", orEmpty (fields.get? "parent_header"))]

/-- A message as it is written, whichever way it was written before. -/
def canonical : Value → Value
  | .obj fields =>
    match Assoc.get? fields "header" with
    | some (.obj inner) => .obj (canonicalObject fields inner)
    | _ => .obj fields
  | v => v

theorem orEmpty_of_decodeMember {fields : Object} {name : String} {x : Option (Option Object)}
    (h : fields.decodeMember name (Value.decodeUnlessNull Value.decodeObject) = .ok x) :
    orEmpty (fields.get? name) = .obj (x.join.getD []) := by
  rcases Object.decodeMember_eq_ok_iff.mp h with ⟨hv, rfl⟩ | ⟨v, a, hv, ha, rfl⟩
  · rw [hv]
    rfl
  · rw [hv]
    cases v with
    | null => cases ha; rfl
    | obj inner => cases ha; rfl
    | _ => cases ha

theorem content_of_decodeMember {fields : Object} {x : Option Object}
    (h : fields.decodeMember "content" Value.decodeObject = .ok x) :
    (fields.get? "content").getD (.obj []) = .obj (x.getD []) := by
  rcases Object.decodeMember_eq_ok_iff.mp h with ⟨hv, rfl⟩ | ⟨v, content, hv, hc, rfl⟩
  · rw [hv]
    rfl
  · rw [hv, Demand.decodeObject_eq_ok_iff.mp hc]
    rfl

theorem members_of_ofObject {fields : Object} {m : Message} (hm : ofObject fields = .ok m) :
    (fields.get? "content").getD (.obj []) = .obj m.content ∧
      orEmpty (fields.get? "metadata") = .obj m.metadata ∧
      orEmpty (fields.get? "parent_header") = .obj m.parentHeader := by
  obtain ⟨content, hcontent, hm⟩ := bind_eq_ok_iff.mp hm
  obtain ⟨header, _, hm⟩ := bind_eq_ok_iff.mp hm
  obtain ⟨metadata, hmetadata, hm⟩ := bind_eq_ok_iff.mp hm
  obtain ⟨parent, hparent, hm⟩ := bind_eq_ok_iff.mp hm
  cases header with
  | none => cases hm
  | some header =>
    cases hm
    exact ⟨content_of_decodeMember hcontent, orEmpty_of_decodeMember hmetadata,
      orEmpty_of_decodeMember hparent⟩

theorem ascending_toObject (m : Message) : m.toObject.Ascending :=
  (Assoc.ascending_ofList _).insertAll _

theorem get?_toObject {m : Message} (hasc : m.extra.Ascending) (k : String) :
    m.toObject.get? k = (m.extra.get? k).or (m.ownObject.get? k) := hasc.get?_insertAll k

theorem toObject_eq_canonicalObject {fields inner : Object} {m : Message}
    (hm : ofObject fields = .ok m) (hi : fields.get? "header" = some (.obj inner)) :
    m.toObject = canonicalObject fields inner := by
  obtain ⟨v, hv, hheader, hextra⟩ := header_of_ofObject hm
  cases hi.symm.trans hv
  obtain ⟨hcontent, hmetadata, hparent⟩ := members_of_ofObject hm
  obtain ⟨htype, _⟩ := Header.members_of_ofObject hheader
  have hc := clean_of_ofValue (ofValue_eq_ok_iff.mpr ⟨fields, rfl, hm⟩)
  refine m.ascending_toObject.ext ((Assoc.ascending_arrange fields).insertAll _) fun k => ?_
  rw [get?_toObject hc.extra.ascending, get?_ownObject, hextra, Assoc.get?_arrange,
    Assoc.get?_without, canonicalObject, Assoc.get?_insertAll, Assoc.get?_arrange, hcontent,
    hmetadata, hparent, htype, ← Header.toObject_eq_canonical hheader]
  by_cases hk : k ∈ ownKeys
  · rw [if_pos hk]
    simp only [ownKeys, List.mem_cons, List.not_mem_nil, or_false] at hk
    rcases hk with rfl | rfl | rfl | rfl | rfl
    all_goals simp [Assoc.get?_cons, msgType]
  · rw [if_neg hk]
    simp only [ownKeys, List.mem_cons, List.not_mem_nil, or_false, not_or] at hk
    simp [Assoc.get?_cons, hk]

theorem toValue_eq_canonical {v : Value} {m : Message} (hv : ofValue v = .ok m) :
    m.toValue = canonical v := by
  obtain ⟨fields, rfl, hm⟩ := ofValue_eq_ok_iff.mp hv
  obtain ⟨header, hheader, hh, _⟩ := header_of_ofObject hm
  cases header with
  | obj inner =>
    rw [canonical, hheader]
    exact congrArg Value.obj (toObject_eq_canonicalObject hm hheader)
  | _ => cases hh

/-- Reading accepts the readable values, reports the first fault of any other, and writing what was
read gives the value in its canonical form, which is read in the same way. -/
theorem reading_and_writing (v : Value) :
    ((∃ m, ofValue v = .ok m) ↔ ∃ fields, v = .obj fields ∧ Readable fields) ∧
      (∀ e, ofValue v = .error e ↔ ∃ fault, fault? v = some fault ∧ .malformed fault.text = e) ∧
      ∀ m, ofValue v = .ok m → m.toValue = canonical v ∧ ofValue (canonical v) = .ok m := by
  refine ⟨?_, fun e => ?_, fun m hm => ?_⟩
  · rw [← fault?_eq_none_iff, ← error?_decode, error?_eq_none_iff]
    exact exists_congr fun m => mapError_eq_ok_iff
  · rw [ofValue, mapError_eq_error_iff]
    simp only [← error?_decode, error?_eq_some_iff]
  · have hcanonical := toValue_eq_canonical hm
    exact ⟨hcanonical, hcanonical ▸ ofValue_toValue (clean_of_ofValue hm)⟩

/-- A message that leaves out what may be left out. -/
def sparse : Value :=
  .obj [("buffers", .arr []),
    ("header", .obj [("msg_type", .str "status"), ("session", .str "a"), ("version", .null)]),
    ("metadata", .null), ("msg_type", .int 7)]

def sparseMessage : Message :=
  ⟨⟨"status", none, [("session", .str "a")]⟩, [], [], [], [("buffers", .arr [])]⟩

/-- A version that is no string is reported before the type that is missing. -/
def untyped : Value := .obj [("header", .obj [("version", .int 5)]), ("metadata", .int 5)]

theorem reading_and_writing_sparse :
    ofValue sparse = .ok sparseMessage ∧ sparseMessage.toValue = canonical sparse ∧
      ofValue untyped =
        .error (.malformed "invalid type: integer `5`, expected a string") := by
  have hread : ofValue sparse = .ok sparseMessage := rfl
  have hfault : fault? untyped = some (.invalidType (.int 5) "a string") := rfl
  obtain ⟨_, _, hwritten⟩ := reading_and_writing sparse
  obtain ⟨_, hrefused, _⟩ := reading_and_writing untyped
  exact ⟨hread, (hwritten sparseMessage hread).1, (hrefused _).mpr ⟨_, hfault, rfl⟩⟩

end Message

end KernelBridge
