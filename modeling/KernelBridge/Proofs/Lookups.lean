import KernelBridge.Proofs.Labelled

/-! # What an adapter looks up

Whatever its stages do, an adapter asks its table of renames for one type, the one that the metadata
stage leaves, and its table of rewrites for one type, the new name of that. With other tables that
agree on these two it does the same; and for an error reply it only matters that there is a rewrite.
A stage may put another header in place of the one there was, which leaves the label as it was. So
stages are taken on messages with their label, and `Adapter.stages` are those that write both.
-/
namespace KernelBridge
open Json Outcome

/-- The tables of an adapter, and stages that may do anything to a message. -/
structure Stages where
  renames : TypeRenames
  rewrites : RewriteTable
  onHeader : Labelled → Adapted Labelled := .ok
  onMetadata : Labelled → Adapted Labelled := .ok
  onErrorReply : Labelled → Adapted Labelled := .ok

namespace Stages

def rewriteContent (s : Stages) (l : Labelled) : Adapted Labelled :=
  match s.rewrites.get? l.label with
  | none => .ok l
  | some rewrite =>
    if l.message.isErrorReply then s.onErrorReply l else l.through (·.editContent rewrite)

def adapt (s : Stages) (l : Labelled) : Adapted Labelled := do
  let headed ← s.onHeader l
  let annotated ← s.onMetadata headed
  s.rewriteContent (annotated.renameBy s.renames)

/-- A message as its type is looked up: after the header stage and the metadata stage. -/
def annotate (s : Stages) (l : Labelled) : Adapted Labelled := s.onHeader l >>= s.onMetadata

/-- What the type of a message is called from then on. -/
def newType (s : Stages) (n : Labelled) : String := s.renames.apply n.label

/-- What comes out, stage by stage: the error of the first stage that fails, or what one of three
last stages makes of the message under its new type. -/
inductive Yields (s : Stages) (l : Labelled) : Adapted Labelled → Prop
  | headerFails {e : Undeliverable} (h : s.onHeader l = .error e) : Yields s l (.error e)
  | metadataFails {headed : Labelled} {e : Undeliverable} (hh : s.onHeader l = .ok headed)
      (h : s.onMetadata headed = .error e) : Yields s l (.error e)
  | passes {headed n : Labelled} (hh : s.onHeader l = .ok headed) (hn : s.onMetadata headed = .ok n)
      (hr : s.rewrites.get? (s.newType n) = none) : Yields s l (.ok (n.renameBy s.renames))
  | errorReply {headed n : Labelled} {rewrite : ContentRewrite} (hh : s.onHeader l = .ok headed)
      (hn : s.onMetadata headed = .ok n) (hr : s.rewrites.get? (s.newType n) = some rewrite)
      (he : n.message.isErrorReply = true) : Yields s l (s.onErrorReply (n.renameBy s.renames))
  | rewritten {headed n : Labelled} {rewrite : ContentRewrite} {content : Object}
      (hh : s.onHeader l = .ok headed) (hn : s.onMetadata headed = .ok n)
      (hr : s.rewrites.get? (s.newType n) = some rewrite) (he : n.message.isErrorReply = false)
      (hc : rewrite n.message.content = .ok content) :
      Yields s l (.ok ((n.renameBy s.renames).withContent content))
  | rewriteFails {headed n : Labelled} {rewrite : ContentRewrite} {e : Undeliverable}
      (hh : s.onHeader l = .ok headed) (hn : s.onMetadata headed = .ok n)
      (hr : s.rewrites.get? (s.newType n) = some rewrite) (he : n.message.isErrorReply = false)
      (hc : rewrite n.message.content = .error e) : Yields s l (.error e)

variable {s : Stages} {l n headed : Labelled} {rewrite : ContentRewrite}

theorem adapt_eq_annotate_bind (s : Stages) (l : Labelled) :
    s.adapt l = s.annotate l >>= fun n => s.rewriteContent (n.renameBy s.renames) := by
  unfold adapt annotate
  cases s.onHeader l <;> rfl

theorem adapt_of_annotated (hh : s.onHeader l = .ok headed) (hn : s.onMetadata headed = .ok n) :
    s.adapt l = s.rewriteContent (n.renameBy s.renames) := by
  rw [adapt_eq_annotate_bind, annotate, hh, ok_bind, hn, ok_bind]

theorem label_renamed (s : Stages) (n : Labelled) :
    (n.renameBy s.renames).label = s.newType n := Labelled.label_renameBy n s.renames

theorem rewriteContent_of_absent (hr : s.rewrites.get? (s.newType n) = none) :
    s.rewriteContent (n.renameBy s.renames) = .ok (n.renameBy s.renames) := by
  rw [rewriteContent, label_renamed, hr]

theorem isErrorReply_renameBy (n : Labelled) (renames : TypeRenames) :
    (n.renameBy renames).message.isErrorReply = n.message.isErrorReply := by
  rw [Message.isErrorReply_eq, Message.isErrorReply_eq, Labelled.content_renameBy]

theorem rewriteContent_of_errorReply (hr : s.rewrites.get? (s.newType n) = some rewrite)
    (he : n.message.isErrorReply = true) :
    s.rewriteContent (n.renameBy s.renames) = s.onErrorReply (n.renameBy s.renames) := by
  rw [rewriteContent, label_renamed, hr]
  exact if_pos ((isErrorReply_renameBy n s.renames).trans he)

theorem rewriteContent_of_get? (hr : s.rewrites.get? (s.newType n) = some rewrite)
    (he : n.message.isErrorReply = false) :
    s.rewriteContent (n.renameBy s.renames) =
      (rewrite n.message.content).map (n.renameBy s.renames).withContent := by
  rw [rewriteContent, label_renamed, hr]
  dsimp only
  rw [isErrorReply_renameBy, he, Labelled.through_editContent, Labelled.content_renameBy]
  rfl

theorem yields_adapt (s : Stages) (l : Labelled) : s.Yields l (s.adapt l) := by
  cases hh : s.onHeader l with
  | error e =>
    have h : s.adapt l = .error e := by rw [adapt, hh, error_bind]
    exact h ▸ .headerFails hh
  | ok headed =>
    cases hn : s.onMetadata headed with
    | error e =>
      have h : s.adapt l = .error e := by rw [adapt, hh, ok_bind, hn, error_bind]
      exact h ▸ .metadataFails hh hn
    | ok n =>
      rw [adapt_of_annotated hh hn]
      cases hr : s.rewrites.get? (s.newType n) with
      | none =>
        rw [rewriteContent_of_absent hr]
        exact .passes hh hn hr
      | some rewrite =>
        cases he : n.message.isErrorReply with
        | true =>
          rw [rewriteContent_of_errorReply hr he]
          exact .errorReply hh hn hr he
        | false =>
          rw [rewriteContent_of_get? hr he]
          cases hc : rewrite n.message.content with
          | error e => exact .rewriteFails hh hn hr he hc
          | ok content => exact .rewritten hh hn hr he hc

theorem Yields.eq_adapt {out : Adapted Labelled} (h : s.Yields l out) : s.adapt l = out := by
  cases h with
  | headerFails h => rw [adapt, h, error_bind]
  | metadataFails hh h => rw [adapt, hh, ok_bind, h, error_bind]
  | passes hh hn hr => rw [adapt_of_annotated hh hn, rewriteContent_of_absent hr]
  | errorReply hh hn hr he => rw [adapt_of_annotated hh hn, rewriteContent_of_errorReply hr he]
  | rewritten hh hn hr he hc | rewriteFails hh hn hr he hc =>
    rw [adapt_of_annotated hh hn, rewriteContent_of_get? hr he, hc]
    rfl

/-- The same stages with other tables. -/
def withTables (s : Stages) (renames : TypeRenames) (rewrites : RewriteTable) : Stages :=
  { s with renames, rewrites }

/-- Tables that say the same about a message as those there are: about its type and about what that
is renamed to. For an error reply a rewrite may be another one. -/
structure AgreeAt (s : Stages) (renames : TypeRenames) (rewrites : RewriteTable) (n : Labelled) :
    Prop where
  renames : renames.renamed? n.label = s.renames.renamed? n.label
  rewrites : rewrites.get? (s.newType n) = s.rewrites.get? (s.newType n) ∨
    n.message.isErrorReply = true ∧
      rewrites.contains (s.newType n) = s.rewrites.contains (s.newType n)

section Tables
variable {renames : TypeRenames} {rewrites : RewriteTable}

theorem AgreeAt.renameBy_eq (h : s.AgreeAt renames rewrites n) :
    n.renameBy renames = n.renameBy s.renames := by
  unfold Labelled.renameBy
  rw [h.renames]

theorem AgreeAt.newType_eq (h : s.AgreeAt renames rewrites n) :
    (s.withTables renames rewrites).newType n = s.newType n :=
  congrArg (Option.getD · n.label) h.renames

theorem AgreeAt.rewriteContent_eq (h : s.AgreeAt renames rewrites n) :
    (s.withTables renames rewrites).rewriteContent (n.renameBy renames) =
      s.rewriteContent (n.renameBy s.renames) := by
  rcases h.rewrites with hr | ⟨he, hc⟩
  · rw [h.renameBy_eq, rewriteContent, rewriteContent, label_renamed, ← hr]
    rfl
  · rw [RewriteTable.contains_eq_isSome, RewriteTable.contains_eq_isSome, ← h.newType_eq] at hc
    cases hr : s.rewrites.get? (s.newType n) with
    | none =>
      have hother : rewrites.get? ((s.withTables renames rewrites).newType n) = none := by
        simpa [h.newType_eq, hr] using hc
      rw [rewriteContent_of_absent hr, ← h.renameBy_eq]
      exact rewriteContent_of_absent hother
    | some rewrite =>
      rw [h.newType_eq, hr] at hc
      obtain ⟨other, hother⟩ := Option.isSome_iff_exists.mp hc
      rw [← h.newType_eq] at hother
      rw [rewriteContent_of_errorReply hr he, ← h.renameBy_eq]
      exact rewriteContent_of_errorReply (s := s.withTables renames rewrites) hother he

theorem adapt_withTables (h : ∀ n, s.annotate l = .ok n → s.AgreeAt renames rewrites n) :
    (s.withTables renames rewrites).adapt l = s.adapt l := by
  rw [adapt_eq_annotate_bind, adapt_eq_annotate_bind]
  change (s.annotate l >>= _) = _
  cases hn : s.annotate l with
  | error e => rfl
  | ok n => exact (h n hn).rewriteContent_eq

/-- Rewrites for other types do not count, be it the type that is renamed away. -/
theorem agreeAt_register {name : String} (hname : name ≠ s.newType n) (rewrite : ContentRewrite)
    (h : renames.renamed? n.label = s.renames.renamed? n.label) :
    s.AgreeAt renames (s.rewrites.register name rewrite) n :=
  ⟨h, Or.inl (by rw [RewriteTable.get?_register, if_neg hname.symm])⟩

/-- For an error reply one rewrite is as good as another. -/
theorem agreeAt_register_newType {name : String} (hname : name = s.newType n)
    (hc : s.rewrites.contains name = true) (he : n.message.isErrorReply = true)
    (rewrite : ContentRewrite) (h : renames.renamed? n.label = s.renames.renamed? n.label) :
    s.AgreeAt renames (s.rewrites.register name rewrite) n := by
  refine ⟨h, Or.inr ⟨he, ?_⟩⟩
  rw [← hname, hc, RewriteTable.contains_eq_isSome, RewriteTable.get?_register, if_pos rfl]
  rfl

end Tables

end Stages

namespace Adapter
open Stages
variable {a : Adapter} {m : Message}

/-- Stages that know one type and write both copies of it. -/
def stages (a : Adapter) : Stages where
  renames := a.renames
  rewrites := a.rewrites
  onHeader := (·.through a.onHeader)
  onMetadata := (·.through a.onMetadata)
  onErrorReply := (·.through a.onErrorReply)

theorem adapt_stages_eq (a : Adapter) (l : Labelled) : a.stages.adapt l = l.adaptBy a := rfl

theorem adapt_stages (a : Adapter) (m : Message) :
    a.stages.adapt m.labelled = (a.adapt m).map Message.labelled := by
  rw [adapt_stages_eq, Labelled.adaptBy_labelled]

theorem adapt_eq_of_stages {b : Adapter}
    (h : b.stages.adapt m.labelled = a.stages.adapt m.labelled) : b.adapt m = a.adapt m := by
  rw [adapt_stages, adapt_stages] at h
  rcases map_eq_map_iff.mp h with ⟨e, hb, ha⟩ | ⟨x, y, hb, ha, hxy⟩
  · rw [hb, ha]
  · rw [hb, ha]
    exact congrArg (Except.ok ∘ Labelled.message) hxy

/-- A message comes out as one stage after the other says, and other tables change nothing that
agree about the message whose type is looked up. -/
theorem adapt_looks_up_one_type :
    (∀ (s : Stages) (l : Labelled),
      (∀ out, s.adapt l = out ↔ s.Yields l out) ∧
        ∀ (renames : TypeRenames) (rewrites : RewriteTable),
          (∀ n, s.annotate l = .ok n → s.AgreeAt renames rewrites n) →
            (s.withTables renames rewrites).adapt l = s.adapt l) ∧
    ∀ (a : Adapter) (m : Message),
      a.stages.adapt m.labelled = (a.adapt m).map Message.labelled ∧
        ∀ (renames : TypeRenames) (rewrites : RewriteTable),
          (∀ n, a.stages.annotate m.labelled = .ok n → a.stages.AgreeAt renames rewrites n) →
            { a with renames, rewrites }.adapt m = a.adapt m := by
  constructor
  · intro s l
    refine ⟨fun out => ⟨fun h => ?_, Yields.eq_adapt⟩, fun renames rewrites h => ?_⟩
    · subst h
      exact yields_adapt s l
    · exact adapt_withTables h
  · intro a m
    refine ⟨adapt_stages a m, fun renames rewrites h => ?_⟩
    exact adapt_eq_of_stages (b := { a with renames, rewrites }) (adapt_withTables h)

/-- Takes every message for a result, whatever its header says. Results have a new name, which has a
new name itself, and a rewrite under their old name. -/
def filing : Stages where
  renames := .ofList [("execute_result", "pyout"), ("pyout", "out")]
  rewrites := .register
    (.register .empty "execute_result" fun _ => .error (.malformed "old"))
    "pyout" fun content => .ok (content.insert "filed" (.bool true))
  onMetadata l := .ok { l with label := "execute_result" }
  onErrorReply _ := .error (.malformed "reply")

def output (content : Object) : Message := .new (.new "stream") content

theorem adapt_looks_up_one_type_filing :
    (filing.withTables (.ofList [("execute_result", "pyout"), ("stream", "out")])
        (filing.rewrites.register "execute_result" .ok)).adapt (output []).labelled =
      .ok (Message.new (.new "pyout") [("filed", .bool true)]).labelled ∧
    (filing.withTables filing.renames (filing.rewrites.register "pyout" .ok)).adapt
        (output [("status", .str "aborted")]).labelled = .error (.malformed "reply") := by
  have hlookups := adapt_looks_up_one_type.1 filing
  constructor
  · have houtput := (hlookups (output []).labelled).2
    refine (houtput _ _ fun n hn => ?_).trans rfl
    obtain rfl : (⟨output [], "execute_result"⟩ : Labelled) = n := Except.ok.inj hn
    exact agreeAt_register (by decide) .ok (by decide)
  · have hreply := (hlookups (output [("status", .str "aborted")]).labelled).2
    refine (hreply _ _ fun n hn => ?_).trans rfl
    obtain rfl : (⟨output [("status", .str "aborted")], "execute_result"⟩ : Labelled) = n :=
      Except.ok.inj hn
    have hname : "pyout" = filing.newType ⟨output [("status", .str "aborted")], "execute_result"⟩ :=
      rfl
    exact agreeAt_register_newType hname rfl rfl .ok rfl

end Adapter

end KernelBridge
