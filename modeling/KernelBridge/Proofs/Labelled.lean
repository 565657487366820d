import KernelBridge.Proofs.Standard

/-! # The type beside the header

Peers look for the type of a message beside its header as well as in it, so a message has its type
twice: `Labelled`. What is asked for is the label beside the header, and adapters go by it. Every
operation writes both copies or none, so a message that starts with the type in its header as its
label goes on as the message alone would: `run_labelled`.
-/
namespace KernelBridge
open Json Outcome Protocol

/-- A message with the type that stands beside its header. -/
structure Labelled where
  message : Message
  label : String

def Message.labelled (m : Message) : Labelled := ⟨m, m.msgType⟩

/-- What can be done to a message. Replacing metadata, inserting and removing are edits, clearing
the version sets none, and `adapt` goes by the standard registry under any settings. -/
inductive Operation where
  | retype (msgType : String)
  | setVersion (version : Option String)
  | editMetadata (edit : Object → Object)
  | setParentHeader (parent : Object)
  | editContent (rewrite : ContentRewrite)
  | downgrade (renames : TypeRenames) (resolve : Downgrade.Resolver)
  | upgrade (renames : TypeRenames)
  | adapt (resolve : Downgrade.Resolver) (config : Config) (target : Nat)

namespace Operation

def perform : Operation → Message → Adapted Message
  | retype msgType, m => .ok (m.retype msgType)
  | setVersion version, m => .ok (m.setVersion version)
  | editMetadata edit, m => .ok { m with metadata := edit m.metadata }
  | setParentHeader parent, m => .ok { m with parentHeader := parent }
  | editContent rewrite, m => m.editContent rewrite
  | downgrade renames resolve, m => (Downgrade.adapter renames resolve).adapt m
  | upgrade renames, m => (Upgrade.adapter renames).adapt m
  | adapt resolve config target, m => ((Registry.standard resolve).configure config).adapt m target

/-- One operation after the other; the first that fails decides. -/
def run (ops : List Operation) (m : Message) : Adapted Message :=
  ops.foldlM (fun m op => op.perform m) m

end Operation

namespace Labelled

/-- A step that leaves the type alone leaves the label alone; one that writes a new type writes it
twice. -/
def through (stage : Message → Adapted Message) (l : Labelled) : Adapted Labelled :=
  (stage l.message).map fun message =>
    ⟨message, if message.msgType = l.message.msgType then l.label else message.msgType⟩

def retype (l : Labelled) (msgType : String) : Labelled := ⟨l.message.retype msgType, msgType⟩

def renameBy (renames : TypeRenames) (l : Labelled) : Labelled :=
  match renames.renamed? l.label with
  | some msgType => l.retype msgType
  | none => l

def rewriteBy (a : Adapter) (l : Labelled) : Adapted Labelled :=
  match a.rewrites.get? l.label with
  | none => .ok l
  | some rewrite =>
    if l.message.isErrorReply then l.through a.onErrorReply else l.through (·.editContent rewrite)

def adaptBy (a : Adapter) (l : Labelled) : Adapted Labelled := do
  let headed ← l.through a.onHeader
  let annotated ← headed.through a.onMetadata
  (annotated.renameBy a.renames).rewriteBy a

def adapt (r : Registry) (l : Labelled) (target : Nat) : Adapted Labelled := do
  let source ← r.senderMajor l.message.header
  match r.get? ⟨source, target⟩ with
  | some adapter => l.adaptBy adapter
  | none => return l

def perform (l : Labelled) : Operation → Adapted Labelled
  | .retype msgType => .ok (l.retype msgType)
  | .downgrade renames resolve => l.adaptBy (Downgrade.adapter renames resolve)
  | .upgrade renames => l.adaptBy (Upgrade.adapter renames)
  | .adapt resolve config target => l.adapt ((Registry.standard resolve).configure config) target
  | op => l.through op.perform

def run (ops : List Operation) (l : Labelled) : Adapted Labelled := ops.foldlM perform l

def toObject (l : Labelled) : Object :=
  let own := Assoc.ofList
    [("header", Value.obj l.message.header.toObject), ("msg_type", .str l.label),
      ("parent_header", .obj l.message.parentHeader), ("content", .obj l.message.content),
      ("metadata", .obj l.message.metadata)]
  own.insertAll l.message.extra

def toValue (l : Labelled) : Value := .obj l.toObject

/-- Whatever stands beside the header is not looked at. -/
def ofValue (v : Value) : Adapted Labelled := (Message.ofValue v).map Message.labelled

end Labelled

namespace Message

/-- The extra keys of a message, which stay as they are whatever is done to it. -/
structure SameExtras (m n : Message) : Prop where
  header : n.header.extra = m.header.extra
  beside : n.extra = m.extra

theorem SameExtras.refl (m : Message) : SameExtras m m := ⟨rfl, rfl⟩

theorem SameExtras.trans {m n k : Message} (h : SameExtras m n) (g : SameExtras n k) :
    SameExtras m k := ⟨g.header.trans h.header, g.beside.trans h.beside⟩

theorem SameExtras.clean {m n : Message} (h : SameExtras m n) (hm : m.Clean) : n.Clean :=
  ⟨by rw [Header.Clean, h.header]; exact hm.header, by rw [h.beside]; exact hm.extra⟩

end Message

namespace Labelled

theorem labelled_message {l : Labelled} (h : l.label = l.message.msgType) :
    l.message.labelled = l := by
  rw [Message.labelled, ← h]

def withContent (l : Labelled) (content : Object) : Labelled :=
  { l with message.content := content }

section Through
variable {stage : Message → Adapted Message}

theorem through_of_keeps {l : Labelled} {message : Message} (h : stage l.message = .ok message)
    (ht : message.msgType = l.message.msgType) : l.through stage = .ok { l with message } := by
  rw [through, h, map_ok, if_pos ht]

/-- Equal copies stay equal, whatever the step does to the type. -/
theorem through_labelled (stage : Message → Adapted Message) (m : Message) :
    m.labelled.through stage = (stage m).map Message.labelled := by
  unfold through Message.labelled
  cases stage m with
  | error e => rfl
  | ok message =>
    rw [map_ok, map_ok]
    split
    · next ht => rw [← ht]
    · rfl

theorem through_editContent (l : Labelled) (rewrite : ContentRewrite) :
    l.through (·.editContent rewrite) = (rewrite l.message.content).map l.withContent := by
  cases hr : rewrite l.message.content with
  | error e => rw [through, Message.editContent, hr, map_error, map_error, map_error]
  | ok content =>
    have hedit : l.message.editContent rewrite = .ok { l.message with content } := by
      rw [Message.editContent, hr, map_ok]
    exact through_of_keeps hedit rfl

end Through

section Rename
variable (l : Labelled) (renames : TypeRenames)

@[simp] theorem label_renameBy : (l.renameBy renames).label = renames.apply l.label := by
  unfold renameBy TypeRenames.apply
  cases renames.renamed? l.label <;> rfl

@[simp] theorem content_renameBy : (l.renameBy renames).message.content = l.message.content := by
  unfold renameBy
  cases renames.renamed? l.label <;> rfl

theorem sameExtras_renameBy : l.message.SameExtras (l.renameBy renames).message := by
  unfold renameBy
  cases renames.renamed? l.label <;> exact ⟨rfl, rfl⟩

theorem renameBy_labelled (m : Message) :
    m.labelled.renameBy renames = (m.retype (renames.apply m.msgType)).labelled := by
  unfold renameBy TypeRenames.apply
  change (match renames.renamed? m.msgType with | some t => _ | none => _) = _
  cases renames.renamed? m.msgType <;> rfl

end Rename

section Adapter
variable {a : Adapter} {version : Option String}

/-- The label decides which new type is written, twice, and which rewrite is applied. -/
theorem adaptBy_eq (h : a.Restamps version) (l : Labelled) :
    l.adaptBy a = (a.rewrites.convert (a.renames.apply l.label) l.message.content).map
      (renameBy a.renames { l with message := l.message.setVersion version }).withContent := by
  unfold adaptBy
  rw [through_of_keeps (h.onHeader _) (Message.msgType_setVersion _ _), ok_bind,
    through_of_keeps (h.onMetadata _) rfl, ok_bind]
  have hcontent := content_renameBy { l with message := l.message.setVersion version } a.renames
  rw [Message.content_setVersion] at hcontent
  unfold rewriteBy RewriteTable.convert
  rw [label_renameBy]
  cases a.rewrites.get? (a.renames.apply l.label) with
  | none =>
    dsimp only
    rw [map_ok, ← hcontent]
    rfl
  | some rewrite =>
    dsimp only
    rw [Message.isErrorReply_eq, through_editContent, hcontent]
    split
    · rw [map_ok, ← hcontent, through_of_keeps (h.onErrorReply _) rfl]
      rfl
    · rfl

theorem rewriteBy_labelled (a : Adapter) (m : Message) :
    m.labelled.rewriteBy a = (a.rewriteContent m).map Message.labelled := by
  unfold rewriteBy Adapter.rewriteContent
  change (match a.rewrites.get? m.msgType with | none => _ | some rewrite => _) = _
  cases a.rewrites.get? m.msgType with
  | none => rfl
  | some rewrite =>
    dsimp only
    rw [through_labelled, through_labelled]
    change (if m.isErrorReply then _ else _) = _
    split <;> rfl

/-- With equal copies an adapter goes by the type of the message and leaves them equal, whatever its
stages do. -/
theorem adaptBy_labelled (a : Adapter) (m : Message) :
    m.labelled.adaptBy a = (a.adapt m).map Message.labelled := by
  unfold adaptBy Adapter.adapt
  rw [through_labelled]
  cases a.onHeader m with
  | error e => rfl
  | ok headed =>
    rw [map_ok, ok_bind, ok_bind, through_labelled]
    cases a.onMetadata headed with
    | error e => rfl
    | ok annotated =>
      rw [map_ok, ok_bind, ok_bind, renameBy_labelled, ← Adapter.renameType_eq]
      exact rewriteBy_labelled a (a.renameType annotated)

theorem adaptBy_bind_labelled (a b : Adapter) (m : Message) :
    (m.labelled.adaptBy a >>= (·.adaptBy b)) = (a.adapt m >>= b.adapt).map Message.labelled := by
  rw [adaptBy_labelled]
  cases a.adapt m with
  | error e => rfl
  | ok n => exact adaptBy_labelled b n

/-- The label counts: the message fails as one with a header that says the same. -/
theorem adaptBy_eq_error_iff (h : a.Restamps version) {l : Labelled} {u : Undeliverable} :
    l.adaptBy a = .error u ↔ a.adapt (l.message.retype l.label) = .error u := by
  rw [adaptBy_eq h, map_eq_error_iff, h.adapt_eq_error_iff]
  rfl

theorem sameExtras_adaptBy (h : a.Restamps version) {l n : Labelled} (hn : l.adaptBy a = .ok n) :
    l.message.SameExtras n.message := by
  rw [adaptBy_eq h] at hn
  obtain ⟨content, _, rfl⟩ := map_eq_ok_iff.mp hn
  have hrename := sameExtras_renameBy { l with message := l.message.setVersion version } a.renames
  exact ⟨hrename.header, hrename.beside⟩

end Adapter

section Registry
variable {resolve : Downgrade.Resolver} {c : Config} {target : Nat}

theorem adapt_labelled (r : Registry) (m : Message) (target : Nat) :
    m.labelled.adapt r target = (r.adapt m target).map Message.labelled := by
  unfold adapt Registry.adapt
  change (r.senderMajor m.header >>= _) = _
  cases r.senderMajor m.header with
  | error e => rfl
  | ok source =>
    simp only [ok_bind]
    cases r.get? ⟨source, target⟩ with
    | none => rfl
    | some a => exact adaptBy_labelled a m

theorem sameExtras_adapt {l n : Labelled}
    (hn : l.adapt ((Registry.standard resolve).configure c) target = .ok n) :
    l.message.SameExtras n.message := by
  obtain ⟨source, _, hn⟩ := bind_eq_ok_iff.mp hn
  split at hn
  · next hg =>
    obtain ⟨version, h⟩ := Registry.restamps_of_get?_standard hg
    exact sameExtras_adaptBy h hn
  · cases hn
    exact .refl _

end Registry

/-- With equal copies an operation goes by the type of the message and leaves them equal. -/
theorem perform_labelled (op : Operation) (m : Message) :
    m.labelled.perform op = (op.perform m).map Message.labelled := by
  cases op with
  | retype _ => rfl
  | setVersion _ | editMetadata _ | setParentHeader _ | editContent _ => exact through_labelled _ m
  | downgrade renames resolve => exact adaptBy_labelled (Downgrade.adapter renames resolve) m
  | upgrade renames => exact adaptBy_labelled (Upgrade.adapter renames) m
  | adapt resolve config target => exact adapt_labelled _ m target

theorem sameExtras_perform {op : Operation} {l n : Labelled} (hn : l.perform op = .ok n) :
    l.message.SameExtras n.message := by
  cases op with
  | retype _ | setVersion _ | editMetadata _ | setParentHeader _ => cases hn; exact ⟨rfl, rfl⟩
  | editContent rewrite =>
    obtain ⟨content, _, rfl⟩ := map_eq_ok_iff.mp ((through_editContent l rewrite).symm.trans hn)
    exact ⟨rfl, rfl⟩
  | downgrade renames resolve => exact sameExtras_adaptBy (Downgrade.restamps renames resolve) hn
  | upgrade renames => exact sameExtras_adaptBy (Upgrade.restamps renames) hn
  | adapt resolve config target => exact sameExtras_adapt hn

theorem run_labelled (ops : List Operation) (m : Message) :
    run ops m.labelled = (Operation.run ops m).map Message.labelled := by
  induction ops generalizing m with
  | nil => rfl
  | cons op ops ih =>
    rw [run, Operation.run, List.foldlM_cons, List.foldlM_cons, perform_labelled]
    cases op.perform m with
    | error e => rfl
    | ok n => exact ih n

/-- What every operation preserves holds after a run. -/
theorem run_induction {P : Labelled → Prop}
    (hstep : ∀ {l n : Labelled} {op : Operation}, P l → l.perform op = .ok n → P n)
    {ops : List Operation} {l n : Labelled} (hl : P l) (hn : run ops l = .ok n) : P n := by
  induction ops generalizing l with
  | nil => cases hn; exact hl
  | cons op ops ih =>
    rw [run, List.foldlM_cons] at hn
    obtain ⟨k, hk, hn⟩ := bind_eq_ok_iff.mp hn
    exact ih (hstep hl hk) hn

theorem sameExtras_run {ops : List Operation} {l n : Labelled} (hn : run ops l = .ok n) :
    l.message.SameExtras n.message :=
  run_induction (P := fun k => l.message.SameExtras k.message)
    (fun h hk => h.trans (sameExtras_perform hk)) (.refl _) hn

end Labelled

end KernelBridge
