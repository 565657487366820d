import KernelBridge.Proofs.Downgrade
import KernelBridge.Proofs.Labelled
import KernelBridge.Proofs.Requirement

/-! # What version 4 cannot take

A message is refused on the way down exactly if its content, under the new name of its type, does not
meet the requirements of that type or is a reply with a payload. Error replies always go down. A request
for an object can also break off, if naming the object leaves the words.
-/
namespace KernelBridge

namespace Json.Requirement

/-- The first of the matches of a completion. -/
def matchText : Requirement where
  place := "matches[0]"
  find? content := (content.get? "matches").bind fun v => v.asList?.bind List.head?
  expected := "a string"
  Fits v := ∃ s, v = .str s

/-- The language of a kernel, or what version 4 reads in its place. -/
def anyLanguage : Requirement where
  place := "language"
  find? content :=
    (content.get? "implmentation").or
      ((content.get? "language").or ((content.get? "language_info").bind (·.member? "name")))
  expected := "a value"
  Fits _ := True

end Json.Requirement

namespace Protocol.Downgrade
open Json Outcome Requirement
variable {resolve : Resolver} {content : Object} {t : String} {e : FieldError}

/-- What contents have to hold to go down, by the types as version 4 calls them. -/
def requirements : Assoc String (List Requirement) :=
  [("kernel_info_reply", [anyLanguage]), ("complete_request", [text "code", cursor "cursor_pos"]),
    ("complete_reply",
      [integer "cursor_start", integer "cursor_end", Requirement.list "matches", matchText]),
    ("object_info_request", [text "code", cursor "cursor_pos", present "detail_level"]),
    ("display_data", [object "data"])]

/-- The errors of contents on the way down. -/
inductive Refused (t : String) (content : Object) : FieldError → Prop
  | payload {v : Value} {items : List Value} (ht : t = "execute_reply")
      (h : content.get? "payload" = some (.arr (v :: items))) :
      Refused t content (.unsupported "payloads cannot be expressed in protocol 4")
  | unmet {e : FieldError} (h : FirstFault content ((requirements.get? t).getD []) e) :
      Refused t content e

/-- Apart from payloads a content is refused for what it does not hold. -/
theorem eq_error_iff_refused {α : Type} {read : Object.Field α} (ht : t ≠ "execute_reply")
    (h : Enforces read content ((requirements.get? t).getD [])) :
    read = .error e ↔ Refused t content e := by
  rw [h e]
  constructor
  · exact .unmet
  · intro hrefused
    cases hrefused with
    | payload he _ => exact absurd he ht
    | unmet hfault => exact hfault

theorem enforces_kernelInfoReply : Enforces (kernelInfoReply content) content [anyLanguage] := by
  intro e
  have hkept : (foldedReply content).get? implementationKey = content.get? implementationKey :=
    get?_foldedReply (by decide)
  have hlanguage : language? (foldedReply content) = language? content := by
    rw [language?, get?_foldedReply (by decide), get?_foldedReply (by decide)]
    rfl
  have hfind : anyLanguage.find? content =
      (content.get? implementationKey).or (language? content) := rfl
  rw [kernelInfoReply_eq, firstFault_singleton_iff, Assoc.contains, hkept, hlanguage]
  cases hi : content.get? implementationKey with
  | some v =>
    rw [faults_iff_of_find? (by rw [hfind, hi, Option.some_or])]
    simp [anyLanguage]
  | none =>
    rw [hi, Option.none_or] at hfind
    cases hl : language? content with
    | some v =>
      rw [faults_iff_of_find? (hfind.trans hl)]
      simp [anyLanguage]
    | none =>
      rw [faults_iff_of_absent (hfind.trans hl)]
      simp [anyLanguage, eq_comm]

theorem enforces_completeRequest :
    Enforces (completeRequest content) content [text "code", cursor "cursor_pos"] :=
  enforces_requiredString.bind fun _ _ => enforces_requiredCursor.bind fun _ _ => enforces_ok _

theorem enforces_firstMatch :
    Enforces (firstMatch content) content [Requirement.list "matches", matchText] := by
  refine enforces_requiredList.bind fun items hitems e => ?_
  have hfind : matchText.find? content = items.head? := by
    simp [matchText, Object.requiredList_eq_ok_iff.mp hitems]
  rw [firstFault_singleton_iff]
  cases items with
  | nil =>
    rw [faults_iff_of_absent hfind]
    simp [matchText, eq_comm]
  | cons v items =>
    rw [faults_iff_of_find? hfind]
    cases v <;> simp [matchText, eq_comm]

theorem enforces_completeReply :
    Enforces (completeReply content) content
      [integer "cursor_start", integer "cursor_end", Requirement.list "matches", matchText] :=
  enforces_requiredInteger.bind fun _ _ => enforces_requiredInteger.bind fun _ _ =>
    enforces_firstMatch.bind fun _ _ => enforces_ok _

example : completeReply [("cursor_start", .int 1), ("cursor_end", .int 2), ("matches", .arr [])] =
    .error (.missing "matches[0]") := rfl

theorem enforces_displayData : Enforces (displayData content) content [object "data"] :=
  enforces_editObject (by simp)

theorem executeReply_eq_error_iff :
    executeReply content = .error e ↔ Refused "execute_reply" content e := by
  unfold executeReply
  constructor
  · intro h
    split at h
    · next hpayload =>
      obtain ⟨v, items, hitems⟩ := hasPayload_iff.mp hpayload
      cases h
      exact .payload rfl hitems
    · cases h
  · intro h
    cases h with
    | payload _ hitems => rw [if_pos (hasPayload_iff.mpr ⟨_, _, hitems⟩)]
    | unmet hfault => exact absurd hfault not_firstFault_nil

/-- The types, as version 4 calls them, whose contents differ. -/
inductive Rewriting (resolve : Resolver) : String → (Object → Object.Field Object) → Prop
  | kernelInfoReply : Rewriting resolve "kernel_info_reply" kernelInfoReply
  | executeRequest : Rewriting resolve "execute_request" executeRequest
  | executeReply : Rewriting resolve "execute_reply" executeReply
  | completeRequest : Rewriting resolve "complete_request" completeRequest
  | completeReply : Rewriting resolve "complete_reply" completeReply
  | objectInfoRequest : Rewriting resolve "object_info_request" (objectInfoRequest resolve)
  | objectInfoReply : Rewriting resolve "object_info_reply" objectInfoReply
  | displayData : Rewriting resolve "display_data" displayData
  | inputRequest : Rewriting resolve "input_request" inputRequest

theorem get?_rewrites_eq_some_iff {rewrite : ContentRewrite} :
    (rewrites resolve).get? t = some rewrite ↔
      ∃ down, Rewriting resolve t down ∧
        (fun content => (down content).mapError (FieldError.within t)) = rewrite := by
  rw [rewrites, RewriteTable.get?_ofList, Option.map_eq_some_iff]
  refine exists_congr fun down => and_congr_left fun _ => ?_
  constructor
  · intro h
    simp only [List.reverse_cons, List.reverse_nil, List.nil_append, List.cons_append,
      Assoc.get?_cons, Assoc.get?_nil] at h
    repeat' split at h
    all_goals cases h
    all_goals subst t; constructor
  · intro h
    cases h <;> rfl

theorem Refused.ne_overflow (h : Refused t content e) : e ≠ .overflow := by
  cases h with
  | payload _ _ => exact FieldError.noConfusion
  | unmet hfault => exact hfault.ne_overflow

/-- The one rewrite that names an object can also break off. -/
def BreaksOff (resolve : Resolver) (t : String) (content : Object) : Prop :=
  t = "object_info_request" ∧ Overflows resolve content

/-- A content is refused, or it asks for an object that cannot be named. -/
def Fails (resolve : Resolver) (t : String) (content : Object) (e : FieldError) : Prop :=
  Refused t content e ∨ BreaksOff resolve t content ∧ e = .overflow

theorem fails_iff_refused (ht : t ≠ "object_info_request") :
    Fails resolve t content e ↔ Refused t content e :=
  or_iff_left fun hbreaks => ht hbreaks.1.1

theorem eq_error_iff_fails {α : Type} {read : Object.Field α} (hreply : t ≠ "execute_reply")
    (hobject : t ≠ "object_info_request")
    (h : Enforces read content ((requirements.get? t).getD [])) :
    read = .error e ↔ Fails resolve t content e :=
  (eq_error_iff_refused hreply h).trans (fails_iff_refused hobject).symm

theorem Rewriting.eq_error_iff {down : Object → Object.Field Object}
    (h : Rewriting resolve t down) : down content = .error e ↔ Fails resolve t content e := by
  cases h with
  | kernelInfoReply => exact eq_error_iff_fails (by decide) (by decide) enforces_kernelInfoReply
  | executeReply => exact executeReply_eq_error_iff.trans (fails_iff_refused (by decide)).symm
  | completeRequest => exact eq_error_iff_fails (by decide) (by decide) enforces_completeRequest
  | completeReply => exact eq_error_iff_fails (by decide) (by decide) enforces_completeReply
  | objectInfoRequest =>
    have hrefused : inspected content = .error e ↔ Refused "object_info_request" content e :=
      eq_error_iff_refused (by decide) enforces_inspected
    rw [objectInfoRequest_eq_error_iff, hrefused, Fails, BreaksOff, and_iff_right rfl]
  | displayData => exact eq_error_iff_fails (by decide) (by decide) enforces_displayData
  | executeRequest | objectInfoReply | inputRequest =>
    exact eq_error_iff_fails (by decide) (by decide) (enforces_ok _)

/-- Nothing is required of a type without a rewrite. -/
theorem Refused.exists_rewriting (resolve : Resolver) (h : Refused t content e) :
    ∃ down, Rewriting resolve t down := by
  cases h with
  | payload ht _ =>
    subst ht
    exact ⟨_, .executeReply⟩
  | unmet h =>
    simp only [requirements, Assoc.get?_cons, Assoc.get?_nil] at h
    repeat' split at h
    all_goals subst_vars
    · exact ⟨_, .kernelInfoReply⟩
    · exact ⟨_, .completeRequest⟩
    · exact ⟨_, .completeReply⟩
    · exact ⟨_, .objectInfoRequest⟩
    · exact ⟨_, .displayData⟩
    · exact absurd h not_firstFault_nil

theorem Fails.exists_rewriting (h : Fails resolve t content e) :
    ∃ down, Rewriting resolve t down := by
  rcases h with hrefused | ⟨⟨rfl, _⟩, _⟩
  · exact hrefused.exists_rewriting resolve
  · exact ⟨_, .objectInfoRequest⟩

theorem convert_eq_error_iff {u : Undeliverable} :
    (rewrites resolve).convert t content = .error u ↔
      content.reportsError = false ∧ ∃ e, Fails resolve t content e ∧ e.within t = u := by
  rw [RewriteTable.convert_eq_error_iff]
  refine and_congr_right fun _ => ?_
  constructor
  · rintro ⟨rewrite, hrewrite, hu⟩
    obtain ⟨down, hdown, rfl⟩ := get?_rewrites_eq_some_iff.mp hrewrite
    obtain ⟨e, he, hwithin⟩ := mapError_eq_error_iff.mp hu
    exact ⟨e, hdown.eq_error_iff.mp he, hwithin⟩
  · rintro ⟨e, he, hwithin⟩
    obtain ⟨down, hdown⟩ := he.exists_rewriting
    refine ⟨_, get?_rewrites_eq_some_iff.mpr ⟨down, hdown, rfl⟩, ?_⟩
    exact mapError_eq_error_iff.mpr ⟨e, hdown.eq_error_iff.mpr he, hwithin⟩

/-- A reply with a payload, or something else than a type requires. -/
def Unfit (t : String) (content : Object) : Prop :=
  (t = "execute_reply" ∧ ∃ v items, content.get? "payload" = some (.arr (v :: items))) ∨
    ∃ r ∈ (requirements.get? t).getD [], ¬r.Met content

theorem exists_refused_iff : (∃ e, Refused t content e) ↔ Unfit t content := by
  constructor
  · rintro ⟨e, he⟩
    cases he with
    | payload ht h => exact Or.inl ⟨ht, _, _, h⟩
    | unmet h => exact Or.inr (exists_firstFault_iff.mp ⟨_, h⟩)
  · rintro (⟨ht, v, items, h⟩ | h)
    · exact ⟨_, .payload ht h⟩
    · obtain ⟨e, he⟩ := exists_firstFault_iff.mpr h
      exact ⟨e, .unmet he⟩

section Adapt
variable {renames : TypeRenames} {m : Message} {u : Undeliverable}

theorem adapt_eq_error_iff :
    (adapter renames resolve).adapt m = .error u ↔
      m.content.reportsError = false ∧
        ∃ e, Fails resolve (renames.apply m.msgType) m.content e ∧
          e.within (renames.apply m.msgType) = u :=
  (restamps renames resolve).adapt_eq_error_iff.trans convert_eq_error_iff

/-- What is answered is the fault of the content. -/
theorem adapt_refuses_iff :
    (adapter renames resolve).adapt m = .error u ∧ u ≠ .overflow ↔
      m.content.reportsError = false ∧
        ∃ e, Refused (renames.apply m.msgType) m.content e ∧
          e.within (renames.apply m.msgType) = u := by
  rw [adapt_eq_error_iff, and_assoc]
  exact and_congr_right fun _ => exists_within_and_ne_overflow_iff fun _ => Refused.ne_overflow

theorem adapt_eq_overflow_iff :
    (adapter renames resolve).adapt m = .error .overflow ↔
      m.content.reportsError = false ∧ BreaksOff resolve (renames.apply m.msgType) m.content := by
  rw [adapt_eq_error_iff]
  exact and_congr_right fun _ => exists_within_eq_overflow_iff fun _ => Refused.ne_overflow

theorem adaptBy_eq_error_iff {l : Labelled} :
    l.adaptBy (adapter renames resolve) = .error u ↔
      (adapter renames resolve).adapt (l.message.retype l.label) = .error u :=
  Labelled.adaptBy_eq_error_iff (restamps renames resolve)

end Adapt

/-- Exactly the messages with a content that is unfit under the new name of their type are refused on
the way down, unless they report an error, and what is reported is the first requirement that is not
met. Nothing else stops a message but a request whose object cannot be named within the words. Of
messages with two types in them the one beside the header counts. -/
theorem downgrade_fails_exactly (renames : TypeRenames) (resolve : Resolver) :
    (∀ m : Message,
      ((∃ u, (adapter renames resolve).adapt m = .error u ∧ u ≠ .overflow) ↔
        m.content.reportsError = false ∧ Unfit (renames.apply m.msgType) m.content) ∧
      (∀ u, (adapter renames resolve).adapt m = .error u ∧ u ≠ .overflow ↔
        m.content.reportsError = false ∧
          ∃ e, Refused (renames.apply m.msgType) m.content e ∧
            e.within (renames.apply m.msgType) = u) ∧
      ((adapter renames resolve).adapt m = .error .overflow ↔
        m.content.reportsError = false ∧
          BreaksOff resolve (renames.apply m.msgType) m.content)) ∧
    ∀ (l : Labelled) (u : Undeliverable), l.adaptBy (adapter renames resolve) = .error u ↔
      (adapter renames resolve).adapt (l.message.retype l.label) = .error u := by
  refine ⟨fun m => ⟨?_, fun u => adapt_refuses_iff, adapt_eq_overflow_iff⟩,
    fun l u => adaptBy_eq_error_iff⟩
  simp only [adapt_refuses_iff, ← exists_refused_iff]
  constructor
  · rintro ⟨u, herror, e, he, _⟩
    exact ⟨herror, e, he⟩
  · rintro ⟨herror, e, he⟩
    exact ⟨_, herror, e, he, rfl⟩

end Protocol.Downgrade

end KernelBridge
