import KernelBridge.Proofs.Segments
import KernelBridge.Proofs.VersionText
import Mathlib.Data.List.TakeWhile

/-! # The major of a version

A version declares the number before its first dot as its major, if this is a number of 32 bits without
a minus: `HasMajor`. It is also the first of the segments. A registry refuses every other text, and of
the texts with a major only those that the adapter for them finds fault with.
-/
namespace KernelBridge
open Decimal Unicode

namespace Version
variable {part cs : List Char} {n : Nat} {version : String}

/-- Digits with a plus or none. -/
inductive Unsigned : List Char → Nat → Prop
  | plain {cs : List Char} {n : Nat} (h : Digits cs n) : Unsigned cs n
  | plus {cs : List Char} {n : Nat} (h : Digits cs n) : Unsigned ('+' :: cs) n

theorem Unsigned.signed (h : Unsigned cs n) : Signed cs n := by
  cases h with
  | plain h => exact .plain h
  | plus h => exact .plus h

theorem natural?_eq_some_iff_unsigned : natural? cs = some n ↔ Unsigned cs n := by
  rw [natural?_eq_some_iff]
  constructor
  · rintro (h | ⟨rest, rfl, h⟩)
    · exact .plain h
    · exact .plus h
  · intro h
    cases h with
    | plain h => exact Or.inl h
    | plus h => exact Or.inr ⟨_, rfl, h⟩

/-- Between white space a number of 32 bits with a plus or without. -/
inductive MajorText : List Char → Nat → Prop
  | intro {before cs after : List Char} {n : Nat} (hb : ∀ c ∈ before, isWhiteSpace c = true)
      (h : Unsigned cs n) (ha : ∀ c ∈ after, isWhiteSpace c = true) (hlt : n < 0x100000000) :
      MajorText (before ++ (cs ++ after)) n

theorem filter_natural?_eq_some_iff :
    (natural? (trim part)).filter (· < 0x100000000) = some n ↔ MajorText part n := by
  simp only [Option.filter_eq_some_iff, decide_eq_true_eq, natural?_eq_some_iff_unsigned]
  constructor
  · rintro ⟨h, hlt⟩
    obtain ⟨before, after, hb, ha, hpart⟩ := exists_append_trim part
    rw [← hpart]
    exact .intro hb h ha hlt
  · intro h
    cases h with
    | intro hb h ha hlt =>
      rw [trim_append hb (isWhiteSpace_of_signed h.signed) ha]
      exact ⟨h, hlt⟩

/-- A major is a segment too: 64 bits with a sign are more than 32 bits without. -/
theorem MajorText.numeric (h : MajorText part n) : Numeric part n := by
  cases h with
  | intro hb h ha hlt =>
    refine .intro hb h.signed ha (Word.fitsInt64_iff.mpr ?_)
    simp only [Word.leastInt64, Word.greatestInt64]
    omega

/-- What stands before the first dot of a text, or all of a text without dots. -/
inductive Leads (part : List Char) : List Char → Prop
  | whole (hdot : '.' ∉ part) : Leads part part
  | dotted (hdot : '.' ∉ part) (rest : List Char) : Leads part (part ++ '.' :: rest)

theorem exists_leads (cs : List Char) : ∃ part, Leads part cs := by
  by_cases hdot : '.' ∈ cs
  · obtain ⟨part, rest, rfl, hpart⟩ := List.eq_append_cons_of_mem hdot
    exact ⟨part, .dotted hpart rest⟩
  · exact ⟨cs, .whole hdot⟩

theorem Leads.takeWhile_eq (h : Leads part cs) : cs.takeWhile (· ≠ '.') = part := by
  have hall : '.' ∉ part → ∀ c ∈ part, decide (c ≠ '.') = true := by
    intro hdot c hc
    refine decide_eq_true ?_
    rintro rfl
    exact hdot hc
  cases h with
  | whole hdot => exact List.takeWhile_eq_self_iff.mpr (hall hdot)
  | dotted hdot rest =>
    rw [List.takeWhile_append_of_pos (hall hdot), List.takeWhile_cons_of_neg (by simp),
      List.append_nil]

theorem Leads.exists_splitOn (h : Leads part cs) : ∃ others, cs.splitOn '.' = part :: others := by
  cases h with
  | whole hdot => exact ⟨[], List.splitOn_eq_singleton hdot⟩
  | dotted hdot rest => exact ⟨rest.splitOn '.', List.splitOn_append_cons_self_of_not_mem hdot rest⟩

/-- A text that declares a major. -/
def HasMajor (cs : List Char) (n : Nat) : Prop := ∃ part, Leads part cs ∧ MajorText part n

theorem major?_eq_some_iff : major? version = some n ↔ HasMajor version.toList n := by
  unfold major?
  rw [filter_natural?_eq_some_iff]
  constructor
  · intro h
    obtain ⟨part, hpart⟩ := exists_leads version.toList
    rw [hpart.takeWhile_eq] at h
    exact ⟨part, hpart, h⟩
  · rintro ⟨part, hpart, h⟩
    rwa [hpart.takeWhile_eq]

theorem major?_eq_none_iff : major? version = none ↔ ∀ n, ¬HasMajor version.toList n := by
  rw [Option.eq_none_iff_forall_ne_some]
  exact forall_congr' fun n => not_congr major?_eq_some_iff

theorem HasMajor.exists_segments (h : HasMajor version.toList n) :
    ∃ others : List Int, segments version = (n : Int) :: others := by
  obtain ⟨part, hpart, hmajor⟩ := h
  obtain ⟨others, hothers⟩ := hpart.exists_splitOn
  refine ⟨others.filterMap segment?, ?_⟩
  rw [segments, hothers, List.filterMap_cons_some (segment?_eq_some_iff.mpr hmajor.numeric)]

end Version

/-- The header of a value declares a text as its version. -/
def Json.Value.DeclaresText (v : Json.Value) (version : String) : Prop :=
  ∃ header, v.member? "header" = some header ∧ header.member? "version" = some (.str version)

theorem FieldError.within_ne_invalidVersion (e : FieldError) (msgType version : String) :
    e.within msgType ≠ .invalidVersion version := by
  cases e <;> exact nofun

/-- A table that names types in its errors blames fields or contents, never versions. -/
theorem Adapter.Restamps.adapt_ne_invalidVersion {a : Adapter} {stamp : Option String}
    (h : a.Restamps stamp) {rewrites : List (String × (Json.Object → Except FieldError Json.Object))}
    (ha : a.rewrites = .ofList rewrites) (m : Message) (version : String) :
    a.adapt m ≠ .error (.invalidVersion version) := by
  intro he
  rw [h.adapt_eq_error_iff, ha, RewriteTable.convert_eq_error_iff] at he
  obtain ⟨_, rewrite, hrewrite, herror⟩ := he
  rw [RewriteTable.get?_ofList] at hrewrite
  obtain ⟨found, _, rfl⟩ := Option.map_eq_some_iff.mp hrewrite
  obtain ⟨e, _, hwithin⟩ := Outcome.mapError_eq_error_iff.mp herror
  exact e.within_ne_invalidVersion _ version hwithin

namespace Registry
open Json Outcome Protocol Version
variable {r : Registry} {version : String} {n target : Nat} {v : Value}

theorem majorOf_of_hasMajor (h : HasMajor version.toList n) : r.majorOf (some version) = .ok n :=
  majorOf_eq_ok_iff.mpr (major?_eq_some_iff.mpr h)

theorem majorOf_of_not_hasMajor (h : ∀ n, ¬HasMajor version.toList n) :
    r.majorOf (some version) = .error (.invalidVersion version) := by
  simp only [majorOf, major?_eq_none_iff.mpr h]

theorem majorOf_eq_error_iff {e : Undeliverable} :
    r.majorOf (some version) = .error e ↔
      (∀ n, ¬HasMajor version.toList n) ∧ e = .invalidVersion version := by
  constructor
  · intro h
    have hnone : ∀ n, ¬HasMajor version.toList n := by
      intro n hn
      cases h.symm.trans (majorOf_of_hasMajor hn)
    have herror := h.symm.trans (majorOf_of_not_hasMajor hnone)
    exact ⟨hnone, Except.error.inj herror⟩
  · rintro ⟨hnone, rfl⟩
    exact majorOf_of_not_hasMajor hnone

theorem declaredVersion_of_declaresText (hv : v.DeclaresText version) :
    declaredVersion v = .ok (some version) := by
  obtain ⟨header, hheader, hversion⟩ := hv
  unfold declaredVersion
  rw [hheader, Option.bind_some, hversion]

theorem adaptJson_of_not_hasMajor (hv : v.DeclaresText version)
    (h : ∀ n, ¬HasMajor version.toList n) (target : Nat) :
    r.adaptJson v target = .error (.invalidVersion version) := by
  unfold adaptJson
  rw [declaredVersion_of_declaresText hv, ok_bind, majorOf_of_not_hasMajor h, error_bind]

/-- A value with a major fails only on its way through the adapter for this major. -/
theorem adaptJson_eq_error_iff_of_hasMajor (hv : v.DeclaresText version)
    (h : HasMajor version.toList n) (target : Nat) {e : Undeliverable} :
    r.adaptJson v target = .error e ↔
      ∃ a, r.get? ⟨n, target⟩ = some a ∧ (Message.ofValue v >>= a.adapt) = .error e := by
  have hsource : r.majorOf (some version) = .ok (Route.mk n target).source := majorOf_of_hasMajor h
  have hjson := adaptJson_of_declaredVersion (declaredVersion_of_declaresText hv) hsource
  dsimp only at hjson
  rw [hjson]
  cases r.get? ⟨n, target⟩ with
  | none => simp
  | some a => simp [map_eq_error_iff]

theorem ofValue_ne_invalidVersion (v : Value) (version : String) :
    Message.ofValue v ≠ .error (.invalidVersion version) := by
  intro h
  obtain ⟨e, _, he⟩ := mapError_eq_error_iff.mp h
  cases he

/-- No adapter of the registry finds fault with a version. -/
def SparesVersions (r : Registry) : Prop :=
  ∀ route a, r.get? route = some a → ∀ m version, a.adapt m ≠ .error (.invalidVersion version)

theorem sparesVersions_standard (resolve : Downgrade.Resolver) (c : Config) :
    ((standard resolve).configure c).SparesVersions := by
  intro route a ha m version
  rw [get?_standard] at ha
  split at ha
  · cases ha
    exact (Upgrade.restamps _).adapt_ne_invalidVersion rfl m version
  · split at ha
    · cases ha
      exact (Downgrade.restamps _ _).adapt_ne_invalidVersion rfl m version
    · cases ha

/-- What a registry makes of a text that a header declares as its version. -/
structure Screens (r : Registry) (version : String) : Prop where
  header : ∀ (h : Header) (e : Undeliverable), h.version = some version →
    (r.senderMajor h = .error e ↔
      (∀ n, ¬HasMajor version.toList n) ∧ e = .invalidVersion version)
  refused : ∀ (v : Value) (target : Nat), v.DeclaresText version →
    (∀ n, ¬HasMajor version.toList n) → r.adaptJson v target = .error (.invalidVersion version)
  accepted : ∀ (v : Value) (target n : Nat), v.DeclaresText version → HasMajor version.toList n →
    (r.adaptJson v target = .error (.invalidVersion version) ↔
      ∃ a m, r.get? ⟨n, target⟩ = some a ∧ Message.ofValue v = .ok m ∧
        a.adapt m = .error (.invalidVersion version))
  spared : r.SparesVersions → ∀ (v : Value) (target : Nat), v.DeclaresText version →
    (r.adaptJson v target = .error (.invalidVersion version) ↔ ∀ n, ¬HasMajor version.toList n)

theorem adaptJson_accepted (hv : v.DeclaresText version) (h : HasMajor version.toList n)
    (target : Nat) :
    r.adaptJson v target = .error (.invalidVersion version) ↔
      ∃ a m, r.get? ⟨n, target⟩ = some a ∧ Message.ofValue v = .ok m ∧
        a.adapt m = .error (.invalidVersion version) := by
  rw [adaptJson_eq_error_iff_of_hasMajor hv h]
  constructor
  · rintro ⟨a, ha, hfail⟩
    rcases bind_eq_error_iff.mp hfail with hdecode | ⟨m, hm, hadapt⟩
    · exact absurd hdecode (ofValue_ne_invalidVersion v version)
    · exact ⟨a, m, ha, hm, hadapt⟩
  · rintro ⟨a, m, ha, hm, hadapt⟩
    exact ⟨a, ha, bind_eq_error_iff.mpr (Or.inr ⟨m, hm, hadapt⟩)⟩

theorem screens (r : Registry) (version : String) : r.Screens version := by
  refine ⟨?_, ?_, ?_, ?_⟩
  · intro h e hh
    unfold senderMajor
    rw [hh, majorOf_eq_error_iff]
  · intro v target hv hnone
    exact adaptJson_of_not_hasMajor hv hnone target
  · intro v target n hv hn
    exact adaptJson_accepted hv hn target
  · intro hspares v target hv
    constructor
    · intro hfail n hn
      obtain ⟨a, m, ha, _, hadapt⟩ := (adaptJson_accepted hv hn target).mp hfail
      exact hspares _ a ha m version hadapt
    · intro hnone
      exact adaptJson_of_not_hasMajor hv hnone target

/-- The texts with a major, that it is the first segment too, and that exactly the others are refused,
adapters aside that refuse versions themselves; the standard ones do not. -/
theorem majors_of_versions :
    (∀ (version : String) (n : Nat), major? version = some n ↔ HasMajor version.toList n) ∧
    (∀ (version : String) (n : Nat), HasMajor version.toList n →
      ∃ others : List Int, segments version = (n : Int) :: others) ∧
    (∀ (r : Registry) (version : String), r.Screens version) ∧
    ∀ (resolve : Downgrade.Resolver) (c : Config),
      ((standard resolve).configure c).SparesVersions :=
  ⟨fun _ _ => major?_eq_some_iff, fun _ _ => HasMajor.exists_segments, screens,
    sparesVersions_standard⟩

/-- An adapter to version 5 that does not take status messages of version 4.1. -/
def pickyAdapter : Adapter where
  target := "5.0"
  renames := .empty
  rewrites := RewriteTable.empty.register "status" fun _ => .error (.invalidVersion "4.1")

def pickyRegistry : Registry := empty.register ⟨4, 5⟩ pickyAdapter

/-- A status message with a text for its version. -/
def statusOf (version : String) : Value :=
  .obj [("content", .obj []),
    ("header", .obj [("msg_type", .str "status"), ("version", .str version)])]

theorem declaresText_statusOf (version : String) : (statusOf version).DeclaresText version :=
  ⟨_, rfl, rfl⟩

theorem majors_of_versions_status :
    HasMajor " +005 .x".toList 5 ∧ (∃ others : List Int, segments " +005 .x" = 5 :: others) ∧
      (∀ n, ¬HasMajor "-0.1".toList n) ∧
      pickyRegistry.adaptJson (statusOf "-0.1") 5 = .error (.invalidVersion "-0.1") ∧
      (standard Code.Machine.identifierAt).adaptJson (statusOf "4.1") 5 ≠
        .error (.invalidVersion "4.1") := by
  obtain ⟨hmajor, hfirst, hscreens, hspares⟩ := majors_of_versions
  have hfive := (hmajor " +005 .x" 5).mp (by decide)
  have hfour := (hmajor "4.1" 4).mp (by decide)
  have hnone : ∀ n, ¬HasMajor "-0.1".toList n := major?_eq_none_iff.mp (by decide)
  refine ⟨hfive, hfirst _ _ hfive, hnone, ?_, ?_⟩
  · exact (hscreens pickyRegistry "-0.1").refused _ 5 (declaresText_statusOf _) hnone
  · intro hfail
    have hspared := (hscreens ((standard Code.Machine.identifierAt).configure {}) "4.1").spared
      (hspares Code.Machine.identifierAt {}) _ 5 (declaresText_statusOf _)
    exact hspared.mp hfail 4 hfour

/-- An adapter can refuse a version with a major. -/
theorem not_only_without_major :
    ¬∀ (r : Registry) (version : String) (v : Value) (target : Nat), v.DeclaresText version →
      (r.adaptJson v target = .error (.invalidVersion version) ↔
        ∀ n, ¬HasMajor version.toList n) := by
  intro h
  have hfail : pickyRegistry.adaptJson (statusOf "4.1") 5 = .error (.invalidVersion "4.1") := rfl
  have hnone := (h pickyRegistry "4.1" _ 5 (declaresText_statusOf _)).mp hfail
  exact hnone 4 (major?_eq_some_iff.mp (by decide))

end Registry

end KernelBridge
