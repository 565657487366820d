import KernelBridge.Proofs.Fields

/-! # What a content has to hold

Contents are read one place after another, and the first that is missing or holds something else is
reported. A `Requirement` says what one place has to hold, apart from how it is read; reading
enforces a list of them if it fails exactly at the first that is not met.
-/
namespace KernelBridge.Json
open Outcome

/-- A place in contents, by the name that errors give it, and the values that may stand there. -/
structure Requirement where
  place : String
  find? : Object → Option Value
  expected : String
  Fits : Value → Prop

namespace Requirement
variable {r : Requirement} {rs qs : List Requirement} {content : Object} {e : FieldError}

def Met (r : Requirement) (content : Object) : Prop := ∃ v, r.find? content = some v ∧ r.Fits v

/-- A place without a value is missing; one with a value that does not fit is invalid. -/
inductive Faults (r : Requirement) (content : Object) : FieldError → Prop
  | missing (h : r.find? content = none) : Faults r content (.missing r.place)
  | invalid {v : Value} (h : r.find? content = some v) (hv : ¬r.Fits v) :
      Faults r content (.invalid r.place r.expected)

/-- The fault of the first requirement that is not met. -/
inductive FirstFault (content : Object) : List Requirement → FieldError → Prop
  | here {r : Requirement} {rs : List Requirement} {e : FieldError} (h : r.Faults content e) :
      FirstFault content (r :: rs) e
  | later {r : Requirement} {rs : List Requirement} {e : FieldError} (hr : r.Met content)
      (h : FirstFault content rs e) : FirstFault content (r :: rs) e

theorem met_iff : r.Met content ↔ ∀ e, ¬r.Faults content e := by
  constructor
  · rintro ⟨v, hv, hfits⟩ e hfault
    cases hfault with
    | missing h => cases hv.symm.trans h
    | invalid h hne =>
      cases hv.symm.trans h
      exact hne hfits
  · intro h
    cases hv : r.find? content with
    | none => exact absurd (.missing hv) (h _)
    | some v => exact ⟨v, hv, Classical.byContradiction fun hne => h _ (.invalid hv hne)⟩

theorem faults_iff_of_absent (h : r.find? content = none) :
    r.Faults content e ↔ e = .missing r.place := by
  constructor
  · intro hfault
    cases hfault with
    | missing _ => rfl
    | invalid hv _ => cases h.symm.trans hv
  · rintro rfl
    exact .missing h

theorem faults_iff_of_find? {v : Value} (h : r.find? content = some v) :
    r.Faults content e ↔ ¬r.Fits v ∧ e = .invalid r.place r.expected := by
  constructor
  · intro hfault
    cases hfault with
    | missing hnone => cases h.symm.trans hnone
    | invalid hv hne =>
      cases h.symm.trans hv
      exact ⟨hne, rfl⟩
  · rintro ⟨hne, rfl⟩
    exact .invalid h hne

theorem not_firstFault_nil : ¬FirstFault content [] e := by
  intro h
  cases h

theorem firstFault_cons_iff :
    FirstFault content (r :: rs) e ↔
      r.Faults content e ∨ r.Met content ∧ FirstFault content rs e := by
  constructor
  · intro h
    cases h with
    | here h => exact Or.inl h
    | later hr h => exact Or.inr ⟨hr, h⟩
  · rintro (h | ⟨hr, h⟩)
    · exact .here h
    · exact .later hr h

theorem firstFault_singleton_iff : FirstFault content [r] e ↔ r.Faults content e := by
  simp [firstFault_cons_iff, not_firstFault_nil]

theorem firstFault_append_iff :
    FirstFault content (rs ++ qs) e ↔
      FirstFault content rs e ∨ (∀ r ∈ rs, r.Met content) ∧ FirstFault content qs e := by
  induction rs with
  | nil => simp [not_firstFault_nil]
  | cons r rs ih =>
    rw [List.cons_append, firstFault_cons_iff, firstFault_cons_iff, ih, List.forall_mem_cons,
      and_or_left, or_assoc, and_assoc]

theorem FirstFault.ne_overflow (h : FirstFault content rs e) : e ≠ .overflow := by
  induction h with
  | here hfault => cases hfault <;> exact FieldError.noConfusion
  | later _ _ ih => exact ih

theorem forall_met_iff : (∀ r ∈ rs, r.Met content) ↔ ∀ e, ¬FirstFault content rs e := by
  induction rs with
  | nil => simp [not_firstFault_nil]
  | cons r rs ih =>
    simp only [List.forall_mem_cons, ih, firstFault_cons_iff, not_or, not_and, forall_and,
      ← met_iff]
    exact and_congr_right fun hr => forall_congr' fun _ => ⟨fun h _ => h, fun h => h hr⟩

theorem exists_firstFault_iff :
    (∃ e, FirstFault content rs e) ↔ ∃ r ∈ rs, ¬r.Met content := by
  have hmet : (∀ r ∈ rs, r.Met content) ↔ ∀ e, ¬FirstFault content rs e := forall_met_iff
  simpa using (not_congr hmet).symm

/-- Reading fails exactly at the first requirement that is not met. -/
def Enforces {α : Type} (read : Object.Field α) (content : Object) (rs : List Requirement) : Prop :=
  ∀ e, read = .error e ↔ FirstFault content rs e

section Enforces
variable {α β : Type} {read : Object.Field α} {next : α → Object.Field β}

theorem enforces_ok (a : α) : Enforces (.ok a) content [] := by
  intro e
  simp [not_firstFault_nil]

theorem Enforces.exists_ok_iff (h : Enforces read content rs) :
    (∃ a, read = .ok a) ↔ ∀ r ∈ rs, r.Met content := by
  rw [forall_met_iff]
  cases read with
  | ok a =>
    refine ⟨fun _ e hfault => ?_, fun _ => ⟨a, rfl⟩⟩
    cases (h e).mpr hfault
  | error e =>
    constructor
    · rintro ⟨a, ha⟩
      cases ha
    · intro hnone
      exact absurd ((h e).mp rfl) (hnone e)

/-- What is read later is required later. -/
theorem Enforces.bind (h : Enforces read content rs)
    (hnext : ∀ a, read = .ok a → Enforces (next a) content qs) :
    Enforces (read >>= next) content (rs ++ qs) := by
  intro e
  rw [bind_eq_error_iff, firstFault_append_iff, h e]
  refine or_congr_right ?_
  constructor
  · rintro ⟨a, ha, he⟩
    exact ⟨h.exists_ok_iff.mp ⟨a, ha⟩, (hnext a ha e).mp he⟩
  · rintro ⟨hmet, hfault⟩
    obtain ⟨a, ha⟩ := h.exists_ok_iff.mpr hmet
    exact ⟨a, ha, (hnext a ha e).mpr hfault⟩

end Enforces

/-- A field of a content. -/
def field (name expected : String) (Fits : Value → Prop) : Requirement :=
  ⟨name, (·.get? name), expected, Fits⟩

/-- A field that may hold anything. -/
def present (name : String) : Requirement := field name "a value" fun _ => True

def text (name : String) : Requirement := field name "a string" fun v => ∃ s, v = .str s

def integer (name : String) : Requirement :=
  field name "an integer" fun v =>
    ∃ n : Int, v = .int n ∧ -0x8000000000000000 ≤ n ∧ n ≤ 0x7fffffffffffffff

def cursor (name : String) : Requirement :=
  field name "a non-negative integer" fun v => ∃ n : Nat, v = .nat n ∧ n < 0x10000000000000000

def list (name : String) : Requirement := field name "a list" fun v => ∃ items, v = .arr items

def object (name : String) : Requirement :=
  field name "an object" fun v => ∃ fields, v = .obj fields

/-- A field that stands for a value of its own where it is left out. -/
def optional (name : String) (default : Value) (expected : String) (Fits : Value → Prop) :
    Requirement where
  place := name
  find? content := some ((content.get? name).getD default)
  expected := expected
  Fits := Fits

section Field
variable {name : String}

theorem enforces_requiredAs {α : Type} {expected : String} {view : Value → Option α}
    {Fits : Value → Prop} (hview : ∀ v, Fits v ↔ ∃ x, view v = some x) :
    Enforces (content.requiredAs name expected view) content [field name expected Fits] := by
  intro e
  rw [Object.requiredAs_eq_error_iff, firstFault_singleton_iff]
  cases hv : content.get? name with
  | none =>
    rw [faults_iff_of_absent (r := field name expected Fits) hv]
    simp [field]
  | some v =>
    rw [faults_iff_of_find? (r := field name expected Fits) hv]
    simp [field, hview, Option.eq_none_iff_forall_ne_some]

theorem enforces_required : Enforces (content.required name) content [present name] := by
  have hread : content.required name = content.requiredAs name "a value" some := by
    unfold Object.required Object.requiredAs
    cases content.get? name <;> rfl
  rw [hread]
  exact enforces_requiredAs fun v => ⟨fun _ => ⟨v, rfl⟩, fun _ => trivial⟩

theorem enforces_requiredString : Enforces (content.requiredString name) content [text name] :=
  enforces_requiredAs fun _ => exists_congr fun _ => Value.asString?_eq_some_iff.symm

theorem enforces_requiredList : Enforces (content.requiredList name) content [list name] :=
  enforces_requiredAs fun _ => exists_congr fun _ => Value.asList?_eq_some_iff.symm

theorem enforces_requiredObject : Enforces (content.requiredObject name) content [object name] :=
  enforces_requiredAs fun _ => exists_congr fun _ => Value.asObject?_eq_some_iff.symm

theorem enforces_requiredInteger : Enforces (content.requiredInteger name) content [integer name] :=
  enforces_requiredAs fun _ => exists_congr fun _ =>
    (Value.asInt64?_eq_some_iff.trans (and_congr_right fun _ => Word.fitsInt64_iff)).symm

theorem enforces_requiredCursor : Enforces (content.requiredCursor name) content [cursor name] :=
  enforces_requiredAs fun _ => exists_congr fun _ => Value.asUInt64?_eq_some_iff.symm

/-- An object can also be edited in what a content has become, if the field is as it was. -/
theorem enforces_editObject {other : Object} {edit : Object → Object}
    (h : other.get? name = content.get? name) :
    Enforces (other.editObject name edit) content [object name] := by
  have hread : other.requiredObject name = content.requiredObject name := Object.requiredAs_congr h
  unfold Object.editObject
  rw [hread]
  exact enforces_requiredObject.bind fun _ _ => enforces_ok _

theorem enforces_optional {α : Type} {read : Object.Field α} {default : Value} {expected : String}
    {Fits : Value → Prop}
    (hread : ∀ e, read = .error e ↔
      ¬Fits ((content.get? name).getD default) ∧ e = .invalid name expected) :
    Enforces read content [optional name default expected Fits] := by
  intro e
  rw [hread e, firstFault_singleton_iff, faults_iff_of_find? rfl]
  rfl

end Field

end Requirement

end KernelBridge.Json
