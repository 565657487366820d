import KernelBridge.Proofs.Decoding
import KernelBridge.Proofs.RoundTrip

/-! # The type on the wire

Peers may look for the type of a message beside its header or in it, so both copies on the wire have
to be its label. Beside the header stands the label whatever was done to the message. In the header
a field called like the type stands in its place, and a header that is put in the place of another
brings its own type; `agreement` says when the copies agree all the same.
-/
namespace KernelBridge.Labelled
open Json Outcome

/-- Puts a header in the place of the one that a message has. -/
def withHeader (l : Labelled) (header : Header) : Labelled := { l with message.header := header }

/-- Messages that a program can have: built or read, after operations and under other headers. Every
header with its fields in order can be built: `Header.built_iff`. -/
inductive Obtainable : Labelled → Prop where
  | built {l : Labelled} (hl : l.Built) : Obtainable l
  | read {v : Value} {l : Labelled} (hl : ofValue v = .ok l) : Obtainable l
  | performed {l n : Labelled} {op : Operation} (hl : Obtainable l) (hn : l.perform op = .ok n) :
      Obtainable n
  | reheaded {l : Labelled} {header : Header} (hl : Obtainable l) (hh : header.Built) :
      Obtainable (l.withHeader header)

/-- Beside the header and in it stands on the wire the type that the message is said to have. -/
def Agrees (l : Labelled) : Prop :=
  l.toValue.member? "msg_type" = some (.str l.label) ∧
    (l.toValue.member? "header").bind (·.member? "msg_type") = some (.str l.label)

/-- The label is the type in the header, and no field stands in its place. -/
structure Tidy (l : Labelled) : Prop where
  label : l.label = l.message.msgType
  unshadowed : l.message.header.extra.get? "msg_type" = none

variable {l : Labelled}

theorem Obtainable.ordered (hl : l.Obtainable) : l.message.Ordered := by
  induction hl with
  | built hl => exact hl.ordered
  | read hl => exact (Message.clean_of_ofValue (ofValue_eq_ok_iff.mp hl).1).ordered
  | performed _ hn ih =>
    have hextras := sameExtras_perform hn
    exact ⟨hextras.header ▸ ih.header, hextras.beside ▸ ih.beside⟩
  | reheaded _ hh ih => exact ⟨hh.ascending, ih.beside⟩

theorem Obtainable.run {n : Labelled} {ops : List Operation} (hl : l.Obtainable)
    (hn : run ops l = .ok n) : n.Obtainable := run_induction .performed hl hn

theorem Tidy.run {n : Labelled} {ops : List Operation} (hl : l.Tidy) (hn : run ops l = .ok n) :
    n.Tidy := by
  have hextras := sameExtras_run hn
  rw [← labelled_message hl.label, run_labelled] at hn
  obtain ⟨m, _, rfl⟩ := map_eq_ok_iff.mp hn
  exact ⟨rfl, hextras.header.symm ▸ hl.unshadowed⟩

section Wire
variable (ho : l.message.Ordered)
include ho

theorem typeBeside_eq : l.toValue.member? "msg_type" = some (.str l.label) := by
  rw [toValue, Value.member?_obj, toObject, ho.beside.get?_insertAll (by decide),
    Assoc.get?_ofList]
  rfl

theorem header_eq : l.toValue.member? "header" = some (.obj l.message.header.toObject) := by
  rw [toValue, Value.member?_obj, toObject, ho.beside.get?_insertAll (by decide),
    Assoc.get?_ofList]
  rfl

/-- A field of the header can stand in the place of the type. -/
theorem typeInHeader_eq :
    (l.toValue.member? "header").bind (·.member? "msg_type") =
      some ((l.message.header.extra.get? "msg_type").getD (.str l.message.msgType)) := by
  rw [header_eq ho, Option.bind_some, Value.member?_obj, Header.get?_toObject ho.header,
    Header.get?_ownObject]
  cases l.message.header.extra.get? "msg_type" <;> rfl

theorem agrees_iff :
    l.Agrees ↔ l.Tidy ∨ l.message.header.extra.get? "msg_type" = some (.str l.label) := by
  rw [Agrees, typeInHeader_eq ho, Option.some.injEq]
  constructor
  · rintro ⟨_, htype⟩
    cases hfield : l.message.header.extra.get? "msg_type" with
    | none =>
      rw [hfield, Option.getD_none, Value.str.injEq] at htype
      exact Or.inl ⟨htype.symm, hfield⟩
    | some v =>
      rw [hfield, Option.getD_some] at htype
      exact Or.inr (congrArg some htype)
  · rintro (⟨hlabel, hfield⟩ | hfield)
    · exact ⟨typeBeside_eq ho, by rw [hfield, Option.getD_none, hlabel]⟩
    · exact ⟨typeBeside_eq ho, by rw [hfield, Option.getD_some]⟩

end Wire

/-- A field that agrees with the type stays behind when the message gets another type. -/
theorem not_agrees_retype (ho : l.message.Ordered)
    (hfield : l.message.header.extra.get? "msg_type" = some (.str l.label)) {msgType : String}
    (ht : l.label ≠ msgType) : ¬(l.retype msgType).Agrees := by
  intro hagrees
  have hretyped : (l.retype msgType).message.Ordered := ⟨ho.header, ho.beside⟩
  rcases (agrees_iff hretyped).mp hagrees with htidy | hother
  · cases hfield.symm.trans htidy.unshadowed
  · cases hfield.symm.trans hother
    exact ht rfl

/-- The copies agree after whatever is done to the message. -/
theorem agrees_after_runs_iff (hl : l.Obtainable) :
    (∀ ops n, run ops l = .ok n → n.Agrees) ↔ l.Tidy := by
  constructor
  · intro h
    rcases (agrees_iff hl.ordered).mp (h [] l rfl) with htidy | hfield
    · exact htidy
    · -- Under a longer label the field still says the old type.
      have hlonger : l.label ≠ l.label ++ "_" := by
        intro heq
        simpa using congrArg String.length heq
      have hagrees := h [.retype (l.label ++ "_")] _ rfl
      exact absurd hagrees (not_agrees_retype hl.ordered hfield hlonger)
  · intro htidy ops n hn
    exact (agrees_iff (hl.run hn).ordered).mpr (Or.inl (htidy.run hn))

/-- Beside the header always stands the label. The copy in the header agrees with it if the message
is tidy or has a field that says the same, and only tidy messages agree whatever is done to them. -/
theorem agreement (hl : l.Obtainable) :
    l.toValue.member? "msg_type" = some (.str l.label) ∧
      (l.Agrees ↔ l.Tidy ∨ l.message.header.extra.get? "msg_type" = some (.str l.label)) ∧
      ((∀ ops n, run ops l = .ok n → n.Agrees) ↔ l.Tidy) :=
  ⟨typeBeside_eq hl.ordered, agrees_iff hl.ordered, agrees_after_runs_iff hl⟩

/-- A report with a field that is called like the type. -/
def shadowed : Labelled :=
  (Message.new ((Header.new "status").withField "msg_type" (.str "pyout")) []).labelled

/-- A report under the header of another message. -/
def misheaded : Labelled :=
  (Message.new (Header.new "status") []).labelled.withHeader (.new "pyout")

theorem obtainable_shadowed : shadowed.Obtainable :=
  .built (.new (.withField (.new "status") "msg_type" (.str "pyout")) [])

theorem obtainable_misheaded : misheaded.Obtainable :=
  .reheaded (.built (.new (.new "status") [])) (.new "pyout")

theorem agreement_shadowed :
    shadowed.Obtainable ∧ shadowed.toValue.member? "msg_type" = some (.str "status") ∧
      ¬∀ ops n, run ops shadowed = .ok n → n.Agrees := by
  obtain ⟨hbeside, _, hruns⟩ := agreement obtainable_shadowed
  refine ⟨obtainable_shadowed, hbeside, fun h => ?_⟩
  cases (hruns.mp h).unshadowed

/-- Not every message agrees, neither under its own header nor under another one. -/
theorem not_always_agrees :
    (¬∀ l : Labelled, l.Obtainable → l.Agrees) ∧
      (shadowed.Obtainable ∧ ¬shadowed.Agrees) ∧ misheaded.Obtainable ∧ ¬misheaded.Agrees := by
  have hne : ¬some (Value.str "pyout") = some (.str "status") := by simp
  have hshadowed : ¬shadowed.Agrees := fun h => hne h.2
  have hmisheaded : ¬misheaded.Agrees := fun h => hne h.2
  refine ⟨fun h => ?_, ⟨obtainable_shadowed, hshadowed⟩, obtainable_misheaded, hmisheaded⟩
  exact hshadowed (h shadowed obtainable_shadowed)

end KernelBridge.Labelled
