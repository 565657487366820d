import KernelBridge.Assoc.Ascending
import KernelBridge.Message.Wire
import KernelBridge.Proofs.Outcome

/-! # Reading what was written

A record on the wire has its own keys and extra ones. Reading files every key that is not the
record's own under the extra ones, so the extra keys of a message that was read are in order and
apart from the own ones. Of such messages `ofValue` is the inverse of `toValue`.
-/
namespace KernelBridge
open Json Outcome

/-- Extra keys as reading leaves them. -/
structure Apart (own : List String) (extra : Object) : Prop where
  ascending : extra.Ascending
  fresh : ∀ k ∈ own, extra.get? k = none

theorem apart_arrange (own : List String) (fields : Object) :
    Apart own (fields.without own).arrange :=
  ⟨Assoc.ascending_arrange _, fun k hk => by rw [Assoc.get?_arrange, Assoc.get?_without, if_pos hk]⟩

theorem Apart.get?_insertAll {own : List String} {base extra : Object} (h : Apart own extra)
    {k : String} (hk : k ∈ own) : (base.insertAll extra).get? k = base.get? k := by
  rw [h.ascending.get?_insertAll, h.fresh k hk, Option.none_or]

/-- What is written on top of the own keys is read back. -/
theorem Apart.arrange_eq {own : List String} {base extra : Object} (h : Apart own extra)
    (hbase : ∀ k ∉ own, base.get? k = none) :
    ((base.insertAll extra).without own).arrange = extra := by
  refine (Assoc.ascending_arrange _).ext h.ascending fun k => ?_
  rw [Assoc.get?_arrange, Assoc.get?_without]
  by_cases hk : k ∈ own
  · rw [if_pos hk, h.fresh k hk]
  · rw [if_neg hk, h.ascending.get?_insertAll, hbase k hk, Option.or_none]

namespace Header

def Clean (h : Header) : Prop := Apart ownKeys h.extra

/-- The members of a header that are not carried along. -/
def ownObject (h : Header) : Object :=
  (Assoc.ofList [("msg_type", Value.str h.msgType)]).insertAll
    (h.version.map fun v => ("version", Value.str v)).toList

theorem get?_ownObject (h : Header) (k : String) :
    h.ownObject.get? k =
      if k = "version" then h.version.map .str
      else if k = "msg_type" then some (.str h.msgType) else none := by
  rw [ownObject, Assoc.get?_insertAll, Assoc.get?_ofList]
  by_cases hk : k = "version"
  · cases h.version <;> simp [hk, Assoc.get?_cons]
  · cases h.version <;> simp [hk, Assoc.get?_cons]

theorem ofObject_toObject {h : Header} (hc : h.Clean) : ofObject h.toObject = .ok h := by
  have hown : ∀ k ∈ ownKeys, h.toObject.get? k = h.ownObject.get? k := fun k hk =>
    Apart.get?_insertAll hc hk
  have hextra : (h.toObject.without ownKeys).arrange = h.extra := by
    refine Apart.arrange_eq hc fun k hk => ?_
    change h.ownObject.get? k = none
    simp_all [get?_ownObject, ownKeys]
  have htype : h.toObject.get? "msg_type" = some (.str h.msgType) := by
    simpa [get?_ownObject] using hown "msg_type" (by decide)
  have hversion : h.toObject.get? "version" = h.version.map .str := by
    simpa [get?_ownObject] using hown "version" (by decide)
  unfold ofObject
  rw [Object.decodeMember_of_get? htype, hextra]
  cases h with
  | mk msgType version extra =>
    cases version with
    | none => rw [Object.decodeMember_of_absent hversion]; rfl
    | some v => rw [Object.decodeMember_of_get? hversion]; rfl

/-- A header declares the version that it was read with; null declares none. -/
theorem version_of_ofObject {fields : Object} {h : Header} (hv : ofObject fields = .ok h) :
    (fields.get? "version" = none ∧ h.version = none) ∨
    (fields.get? "version" = some .null ∧ h.version = none) ∨
    ∃ s, fields.get? "version" = some (.str s) ∧ h.version = some s := by
  obtain ⟨msgType, _, hv⟩ := bind_eq_ok_iff.mp hv
  obtain ⟨version, hversion, hv⟩ := bind_eq_ok_iff.mp hv
  cases msgType with
  | none => cases hv
  | some msgType =>
    cases hv
    cases hg : fields.get? "version" with
    | none =>
      rw [Object.decodeMember_of_absent hg] at hversion
      cases hversion
      exact Or.inl ⟨rfl, rfl⟩
    | some v =>
      rw [Object.decodeMember_of_get? hg] at hversion
      cases v with
      | null => cases hversion; exact Or.inr (Or.inl ⟨rfl, rfl⟩)
      | str s => cases hversion; exact Or.inr (Or.inr ⟨s, rfl, rfl⟩)
      | _ => cases hversion

theorem clean_of_ofObject {fields : Object} {h : Header} (hv : ofObject fields = .ok h) :
    h.Clean := by
  obtain ⟨msgType, _, hv⟩ := bind_eq_ok_iff.mp hv
  obtain ⟨version, _, hv⟩ := bind_eq_ok_iff.mp hv
  cases msgType with
  | none => cases hv
  | some msgType =>
    cases hv
    exact apart_arrange ownKeys fields

theorem clean_of_ofValue {v : Value} {h : Header} (hv : ofValue v = .ok h) : h.Clean := by
  cases v with
  | obj fields => exact clean_of_ofObject hv
  | _ => cases hv

end Header

namespace Message

/-- What reading makes of the extra keys, in the header and beside it. -/
structure Clean (m : Message) : Prop where
  header : m.header.Clean
  extra : Apart ownKeys m.extra

def ownObject (m : Message) : Object :=
  Assoc.ofList
    [("header", Value.obj m.header.toObject), ("msg_type", .str m.msgType),
      ("parent_header", .obj m.parentHeader), ("content", .obj m.content),
      ("metadata", .obj m.metadata)]

theorem get?_ownObject (m : Message) (k : String) :
    m.ownObject.get? k =
      if k = "metadata" then some (.obj m.metadata)
      else if k = "content" then some (.obj m.content)
      else if k = "parent_header" then some (.obj m.parentHeader)
      else if k = "msg_type" then some (.str m.msgType)
      else if k = "header" then some (.obj m.header.toObject) else none := by
  simp [ownObject, Assoc.get?_ofList, Assoc.get?_cons]

theorem decode_toValue {m : Message} (hc : m.Clean) : decode m.toValue = .ok m := by
  have hown : ∀ k ∈ ownKeys, m.toObject.get? k = m.ownObject.get? k := fun k hk =>
    hc.extra.get?_insertAll hk
  have hextra : (m.toObject.without ownKeys).arrange = m.extra := by
    refine hc.extra.arrange_eq fun k hk => ?_
    change m.ownObject.get? k = none
    simp_all [get?_ownObject, ownKeys]
  have hheader : m.toObject.get? "header" = some (.obj m.header.toObject) := by
    simpa [get?_ownObject] using hown "header" (by decide)
  have hparent : m.toObject.get? "parent_header" = some (.obj m.parentHeader) := by
    simpa [get?_ownObject] using hown "parent_header" (by decide)
  have hcontent : m.toObject.get? "content" = some (.obj m.content) := by
    simpa [get?_ownObject] using hown "content" (by decide)
  have hmetadata : m.toObject.get? "metadata" = some (.obj m.metadata) := by
    simpa [get?_ownObject] using hown "metadata" (by decide)
  have hread : Header.ofValue (.obj m.header.toObject) = .ok m.header :=
    Header.ofObject_toObject hc.header
  change ofObject m.toObject = .ok m
  unfold ofObject
  rw [Object.decodeMember_of_get? hcontent, Object.decodeMember_of_get? hheader,
    Object.decodeMember_of_get? hmetadata, Object.decodeMember_of_get? hparent, hread, hextra]
  rfl

theorem ofValue_toValue {m : Message} (hc : m.Clean) : ofValue m.toValue = .ok m := by
  rw [ofValue, decode_toValue hc, mapError_ok]

/-- The extra keys and the header of a message that was read. -/
theorem header_of_ofObject {fields : Object} {m : Message} (hm : ofObject fields = .ok m) :
    ∃ v, fields.get? "header" = some v ∧ Header.ofValue v = .ok m.header ∧
      m.extra = (fields.without ownKeys).arrange := by
  obtain ⟨content, _, hm⟩ := bind_eq_ok_iff.mp hm
  obtain ⟨header, hheader, hm⟩ := bind_eq_ok_iff.mp hm
  obtain ⟨metadata, _, hm⟩ := bind_eq_ok_iff.mp hm
  obtain ⟨parent, _, hm⟩ := bind_eq_ok_iff.mp hm
  cases header with
  | none => cases hm
  | some header =>
    cases hm
    cases hg : fields.get? "header" with
    | none => rw [Object.decodeMember_of_absent hg] at hheader; cases hheader
    | some v =>
      rw [Object.decodeMember_of_get? hg] at hheader
      obtain ⟨h, hv, hh⟩ := map_eq_ok_iff.mp hheader
      cases hh
      exact ⟨v, rfl, hv, rfl⟩

theorem ofValue_eq_ok_iff {v : Value} {m : Message} :
    ofValue v = .ok m ↔ ∃ fields, v = .obj fields ∧ ofObject fields = .ok m := by
  rw [ofValue, mapError_eq_ok_iff]
  cases v <;> simp [decode]

theorem clean_of_ofValue {v : Value} {m : Message} (hv : ofValue v = .ok m) : m.Clean := by
  obtain ⟨fields, rfl, hm⟩ := ofValue_eq_ok_iff.mp hv
  obtain ⟨header, _, hh, hextra⟩ := header_of_ofObject hm
  exact ⟨Header.clean_of_ofValue hh, hextra ▸ apart_arrange ownKeys fields⟩

end Message

end KernelBridge
