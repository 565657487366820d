import KernelBridge.Proofs.Standard

/-! # Values that differ in their version

Reading finds the same faults whatever a header says about its version, and the messages read differ
in the version alone. Every adapter writes a version of its own. So of the version only the major
counts, which says whether there is an adapter: `only_the_major_counts`.
-/
namespace KernelBridge
open Json Outcome Protocol

namespace Json.Object
variable {fields others : Object} {name : String}

/-- The same members, one key aside. -/
def AgreeBeside (name : String) (fields others : Object) : Prop :=
  ∀ k, k ≠ name → fields.get? k = others.get? k

theorem AgreeBeside.decodeMember {α : Type} (h : AgreeBeside name fields others) {k : String}
    (hk : k ≠ name) (decode : Value → Decoded α) :
    fields.decodeMember k decode = others.decodeMember k decode := by
  unfold Object.decodeMember
  rw [h k hk]

/-- The members that are carried along are the same if the key aside is none of them. -/
theorem AgreeBeside.arrange_without (h : AgreeBeside name fields others) {names : List String}
    (hname : name ∈ names) :
    (fields.without names).arrange = (others.without names).arrange := by
  refine (Assoc.ascending_arrange _).ext (Assoc.ascending_arrange _) fun k => ?_
  rw [Assoc.get?_arrange, Assoc.get?_arrange, Assoc.get?_without, Assoc.get?_without]
  by_cases hk : k ∈ names
  · rw [if_pos hk, if_pos hk]
  · rw [if_neg hk, if_neg hk]
    exact h k fun he => hk (he ▸ hname)

end Json.Object

namespace Header

/-- What the members of a header say about the version: null says nothing. -/
inductive Declares (inner : Object) : Option String → Prop
  | absent (h : inner.get? "version" = none) : Declares inner none
  | null (h : inner.get? "version" = some .null) : Declares inner none
  | text {version : String} (h : inner.get? "version" = some (.str version)) :
      Declares inner (some version)

variable {inner other : Object} {s t : Option String}

theorem Declares.decodeMember (h : Declares inner s) :
    ∃ x, inner.decodeMember "version" (Value.decodeUnlessNull Value.decodeString) = .ok x ∧
      x.join = s := by
  cases h with
  | absent h => exact ⟨none, Object.decodeMember_of_absent h _, rfl⟩
  | null h => exact ⟨some none, Object.decodeMember_of_get? h _, rfl⟩
  | text h => exact ⟨some (some _), Object.decodeMember_of_get? h _, rfl⟩

def setVersion (h : Header) (version : Option String) : Header := { h with version }

/-- With a version that can be read a header has its faults elsewhere. -/
theorem ofObject_setVersion (hbeside : Object.AgreeBeside "version" inner other)
    (hs : Declares inner s) (ht : Declares other t) (version : Option String) :
    (ofObject inner).map (·.setVersion version) = (ofObject other).map (·.setVersion version) := by
  obtain ⟨x, hx, _⟩ := hs.decodeMember
  obtain ⟨y, hy, _⟩ := ht.decodeMember
  unfold ofObject
  rw [hbeside.decodeMember (by decide), hbeside.arrange_without (by decide), hx, hy]
  cases other.decodeMember "msg_type" Value.decodeString with
  | error e => rfl
  | ok msgType => cases msgType <;> rfl

end Header

/-- Objects with headers that are objects, alike but for what the headers say about the version. -/
inductive Json.Value.SameButVersion (s t : Option String) : Value → Value → Prop
  | intro {fields others inner other : Object}
      (hi : fields.get? "header" = some (.obj inner))
      (ho : others.get? "header" = some (.obj other))
      (outside : Object.AgreeBeside "header" fields others)
      (inside : Object.AgreeBeside "version" inner other)
      (hs : Header.Declares inner s) (ht : Header.Declares other t) :
      SameButVersion s t (.obj fields) (.obj others)

namespace Json.Value.SameButVersion
variable {s t : Option String} {v w : Value}

theorem symm (h : SameButVersion s t v w) : SameButVersion t s w v := by
  obtain ⟨hi, ho, outside, inside, hs, ht⟩ := h
  exact ⟨ho, hi, fun k hk => (outside k hk).symm, fun k hk => (inside k hk).symm, ht, hs⟩

theorem declaredVersion (h : SameButVersion s t v w) : Registry.declaredVersion v = .ok s := by
  obtain ⟨hi, _, _, _, hs, _⟩ := h
  unfold Registry.declaredVersion
  rw [Value.member?_obj, hi, Option.bind_some, Value.member?_obj]
  cases hs with
  | absent hs => rw [hs]
  | null hs => rw [hs]
  | text hs => rw [hs]

/-- Reading both fails for the same reason, or gives messages alike but for the version. -/
theorem ofValue_setVersion (h : SameButVersion s t v w) (version : Option String) :
    (Message.ofValue v).map (·.setVersion version) =
      (Message.ofValue w).map (·.setVersion version) := by
  obtain @⟨fields, others, inner, other, hi, ho, outside, inside, hs, ht⟩ := h
  have hdecode : (Message.ofObject fields).map (·.setVersion version) =
      (Message.ofObject others).map (·.setVersion version) := by
    have hcontent := outside.decodeMember (k := "content") (by decide) Value.decodeObject
    have hmetadata := outside.decodeMember (k := "metadata") (by decide)
      (Value.decodeUnlessNull Value.decodeObject)
    have hparent := outside.decodeMember (k := "parent_header") (by decide)
      (Value.decodeUnlessNull Value.decodeObject)
    unfold Message.ofObject
    rw [hcontent, hmetadata, hparent, outside.arrange_without (by decide),
      Object.decodeMember_of_get? hi, Object.decodeMember_of_get? ho]
    cases others.decodeMember "content" Value.decodeObject with
    | error e => rfl
    | ok content =>
      rcases map_eq_map_iff.mp (Header.ofObject_setVersion inside hs ht version) with
        ⟨e, hx, hy⟩ | ⟨x, y, hx, hy, hxy⟩
      · rw [Header.ofValue, Header.ofValue, hx, hy]
      · rw [Header.ofValue, Header.ofValue, hx, hy]
        cases others.decodeMember "metadata" (Value.decodeUnlessNull Value.decodeObject) with
        | error e => rfl
        | ok metadata =>
          cases others.decodeMember "parent_header" (Value.decodeUnlessNull Value.decodeObject) with
          | error e => rfl
          | ok parent =>
            exact congrArg (fun header => (.ok ⟨header, _, _, _, _⟩ : Decoded Message)) hxy
  rw [Message.ofValue, Message.ofValue, map_mapError, map_mapError]
  exact congrArg (Except.mapError _) hdecode

end Json.Value.SameButVersion

/-- An adapter that sets a version does not look at the one there was. -/
theorem Adapter.Restamps.adapt_setVersion {a : Adapter} {version : Option String}
    (h : a.Restamps version) (m : Message) (other : Option String) :
    a.adapt (m.setVersion other) = a.adapt m := by
  rw [h.adapt_eq, h.adapt_eq]
  rfl

namespace Registry
variable {r : Registry} {s t : Option String} {v w : Value} {route : Route}

/-- Values of a sender and for a receiver that both come back as they are, without an adapter, or
have the same outcome, a value or an error. -/
structure Indistinct (r : Registry) (route : Route) (v w : Value) : Prop where
  passed : r.get? route = none →
    r.adaptJson v route.target = .ok v ∧ r.adaptJson w route.target = .ok w
  adapted : r.get? route ≠ none → r.adaptJson v route.target = r.adaptJson w route.target

theorem adaptJson_of_declaredVersion (hv : declaredVersion v = .ok s)
    (hs : r.majorOf s = .ok route.source) :
    r.adaptJson v route.target =
      match r.get? route with
      | some a => (Message.ofValue v >>= a.adapt).map Message.toValue
      | none => .ok v := by
  unfold adaptJson
  rw [hv, ok_bind, hs, ok_bind]
  cases r.get? route with
  | none => rfl
  | some a => cases Message.ofValue v with
    | error e => rfl
    | ok m => dsimp only [ok_bind]; cases a.adapt m <;> rfl

/-- An adapter of the standard registry does the same to both values. -/
theorem adapt_ofValue_eq {a : Adapter} {version : Option String} (ha : a.Restamps version)
    (h : Value.SameButVersion s t v w) :
    (Message.ofValue v >>= a.adapt) = (Message.ofValue w >>= a.adapt) := by
  rcases map_eq_map_iff.mp (h.ofValue_setVersion none) with ⟨e, hv, hw⟩ | ⟨m, n, hv, hw, hmn⟩
  · rw [hv, hw]
  · rw [hv, hw, ok_bind, ok_bind, ← ha.adapt_setVersion m none, ← ha.adapt_setVersion n none, hmn]

theorem majorOf_eq_ok_iff {major : Nat} :
    r.majorOf s = .ok major ↔ s.elim (some r.config.legacyMajor) Version.major? = some major := by
  cases s with
  | none => simp [majorOf]
  | some version =>
    unfold majorOf
    cases h : Version.major? version <;> simp [h]

theorem indistinct_of_sameButVersion {resolve : Downgrade.Resolver} {c : Config}
    (h : Value.SameButVersion s t v w)
    (hs : s.elim (some c.legacyMajor) Version.major? = some route.source)
    (ht : t.elim (some c.legacyMajor) Version.major? = some route.source) :
    ((standard resolve).configure c).Indistinct route v w := by
  have hv := adaptJson_of_declaredVersion (r := (standard resolve).configure c) h.declaredVersion
    (majorOf_eq_ok_iff.mpr hs)
  have hw := adaptJson_of_declaredVersion (r := (standard resolve).configure c)
    h.symm.declaredVersion (majorOf_eq_ok_iff.mpr ht)
  constructor
  · intro hg
    rw [hv, hw, hg]
    exact ⟨rfl, rfl⟩
  · intro hg
    obtain ⟨a, ha⟩ := Option.ne_none_iff_exists'.mp hg
    obtain ⟨version, hrestamps⟩ := restamps_of_get?_standard ha
    rw [hv, hw, ha]
    exact congrArg (Except.map Message.toValue) (adapt_ofValue_eq hrestamps h)

/-- Of the version that a header declares only the major counts, under any settings; under the
default ones a header without a version is a header of version 4.1. -/
theorem only_the_major_counts (resolve : Downgrade.Resolver) :
    (∀ (c : Config) (route : Route) (s t : Option String) (v w : Value),
      Value.SameButVersion s t v w →
      s.elim (some c.legacyMajor) Version.major? = some route.source →
      t.elim (some c.legacyMajor) Version.major? = some route.source →
      ((standard resolve).configure c).Indistinct route v w) ∧
    ∀ (target : Nat) (v w : Value), Value.SameButVersion none (some "4.1") v w →
      (standard resolve).Indistinct ⟨4, target⟩ v w := by
  constructor
  · intro c route s t v w h hs ht
    exact indistinct_of_sameButVersion h hs ht
  · intro target v w h
    have hmajor : Version.major? "4.1" = some 4 := by decide
    change ((standard resolve).configure {}).Indistinct ⟨4, target⟩ v w
    exact indistinct_of_sameButVersion h rfl hmajor

/-- A result as an older kernel sends it, with something said about the version and metadata. -/
def legacyResult (version : Object) (metadata : Value) : Value :=
  .obj [("header", .obj (("msg_type", .str "pyout") :: version)), ("metadata", metadata)]

theorem sameButVersion_legacyResult (metadata : Value) (version : String) :
    Value.SameButVersion none (some version) (legacyResult [] metadata)
      (legacyResult [("version", .str version)] metadata) := by
  refine .intro rfl rfl (fun k hk => ?_) (fun k hk => ?_) (.absent rfl) (.text rfl)
  · simp [Assoc.get?_cons, hk]
  · simp [Assoc.get?_cons, hk]

/-- Under settings that take headers without a version for headers of version 5. -/
theorem only_the_major_counts_legacyResult :
    Version.major? " +5 .x" = some 5 ∧
      ((standard Code.Machine.identifierAt).configure { legacyMajor := 5 }).adaptJson
        (legacyResult [] .null) 4 =
      ((standard Code.Machine.identifierAt).configure { legacyMajor := 5 }).adaptJson
        (legacyResult [("version", .str " +5 .x")] .null) 4 ∧
      (standard Code.Machine.identifierAt).adaptJson (legacyResult [] (.int 5)) 5 =
        (standard Code.Machine.identifierAt).adaptJson
          (legacyResult [("version", .str "4.1")] (.int 5)) 5 := by
  have hmajor : Version.major? " +5 .x" = some 5 := by decide
  have hdown := (only_the_major_counts Code.Machine.identifierAt).1 { legacyMajor := 5 } ⟨5, 4⟩ _ _ _ _
    (sameButVersion_legacyResult .null " +5 .x") rfl hmajor
  have hup := (only_the_major_counts Code.Machine.identifierAt).2 5 _ _
    (sameButVersion_legacyResult (.int 5) "4.1")
  exact ⟨hmajor, hdown.adapted nofun, hup.adapted nofun⟩

end Registry

end KernelBridge
