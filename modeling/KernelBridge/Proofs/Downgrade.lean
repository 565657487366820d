import KernelBridge.Proofs.Requirement
import KernelBridge.Protocol.Downgrade

/-! # Contents on the way down

For each rewrite to version 4, when it succeeds and what its result is.
-/
namespace KernelBridge.Protocol.Downgrade
open Json Outcome
variable {content result : Object}

/-- The versions of a kernel as lists of numbers, and no banner. -/
def splitVersions (content : Object) : Object :=
  Object.change (Object.change (content.erase "banner") "language_version" segmentList)
    "protocol_version" segmentList

/-- What the reply about a kernel keeps apart from the key that version 4 wants. -/
def foldedReply (content : Object) : Object := foldImplementation (splitVersions content)

theorem kernelInfoReply_eq (content : Object) :
    kernelInfoReply content =
      if (foldedReply content).contains implementationKey then .ok (foldedReply content)
      else
        match language? (foldedReply content) with
        | some language => .ok ((foldedReply content).insert implementationKey language)
        | none => .error (.missing "language") := rfl

theorem kernelInfoReply_eq_ok_iff :
    kernelInfoReply content = .ok result ↔
      ((foldedReply content).contains implementationKey = true ∧ foldedReply content = result) ∨
      ((foldedReply content).contains implementationKey = false ∧
        ∃ language, language? (foldedReply content) = some language ∧
          (foldedReply content).insert implementationKey language = result) := by
  rw [kernelInfoReply_eq]
  cases (foldedReply content).contains implementationKey with
  | true => simp
  | false => cases language? (foldedReply content) <;> simp

/-- The keys that the reply about a kernel does not keep as they are. -/
def kernelInfoKeys : List String :=
  ["banner", "language_version", "protocol_version", "implementation", "implementation_version",
    "ipython_version", implementationKey]

/-- Those of them that version 5 has and the one that the version of the implementation goes to. -/
def foldedKeys : List String :=
  ["banner", "language_version", "protocol_version", "implementation", "implementation_version",
    "ipython_version"]

theorem get?_foldedReply {k : String} (hk : k ∉ foldedKeys) :
    (foldedReply content).get? k = content.get? k := by
  simp only [foldedKeys, List.mem_cons, List.not_mem_nil, or_false, not_or] at hk
  have hs : (splitVersions content).get? k = content.get? k := by
    simp [splitVersions, hk]
  unfold foldedReply foldImplementation
  split <;> simp [hk, hs]

theorem get?_kernelInfoReply (h : kernelInfoReply content = .ok result) {k : String}
    (hk : k ∉ kernelInfoKeys) : result.get? k = content.get? k := by
  have hne : k ≠ implementationKey := fun he => hk (by simp [he, kernelInfoKeys])
  have hfolded : k ∉ foldedKeys := fun hmem => hk (by simp_all [foldedKeys, kernelInfoKeys])
  rcases kernelInfoReply_eq_ok_iff.mp h with ⟨_, rfl⟩ | ⟨_, language, _, rfl⟩
  · exact get?_foldedReply hfolded
  · rw [Assoc.get?_insert, if_neg hne, get?_foldedReply hfolded]

/-- With a language there is always an implementation to name. -/
theorem exists_kernelInfoReply {language : Value} (h : content.get? "language" = some language) :
    ∃ result, kernelInfoReply content = .ok result := by
  have hl : language? (foldedReply content) = some language := by
    rw [language?, get?_foldedReply (by decide), h, Option.some_or]
  cases hc : (foldedReply content).contains implementationKey with
  | true => exact ⟨_, kernelInfoReply_eq_ok_iff.mpr (Or.inl ⟨hc, rfl⟩)⟩
  | false => exact ⟨_, kernelInfoReply_eq_ok_iff.mpr (Or.inr ⟨hc, language, hl, rfl⟩)⟩

theorem hasPayload_iff :
    hasPayload content = true ↔ ∃ v items, content.get? "payload" = some (.arr (v :: items)) := by
  unfold hasPayload
  cases content.get? "payload" with
  | none => simp
  | some v =>
    cases v with
    | arr items => cases items <;> simp [Value.asList?]
    | _ => simp [Value.asList?]

theorem hasPayload_eq_false_iff :
    hasPayload content = false ↔ ∀ v items, content.get? "payload" ≠ some (.arr (v :: items)) := by
  rw [← Bool.not_eq_true, hasPayload_iff, not_exists]
  exact forall_congr' fun v => not_exists

theorem executeReply_eq_ok_iff :
    executeReply content = .ok result ↔
      hasPayload content = false ∧ content.insertNew "user_variables" (.obj []) = result := by
  unfold executeReply
  cases hasPayload content <;> simp

theorem completeRequest_eq_ok_iff :
    completeRequest content = .ok result ↔
      ∃ code cursor, content.get? "code" = some (.str code) ∧
        (content.get? "cursor_pos" = some (.nat cursor) ∧ cursor < 0x10000000000000000) ∧
        Assoc.ofList
          [("text", .str ""), ("line", .str (Code.lineAt code cursor).1), ("block", .null),
            ("cursor_pos", .nat (Code.lineAt code cursor).2)] = result := by
  simp [completeRequest, bind_eq_ok_iff, Object.requiredString_eq_ok_iff,
    Object.requiredCursor_eq_ok_iff]

/-- The code is looked at before the cursor. -/
theorem completeRequest_eq_error_iff {e : FieldError} :
    completeRequest content = .error e ↔
      content.requiredString "code" = .error e ∨
      (∃ code, content.get? "code" = some (.str code)) ∧
        content.requiredCursor "cursor_pos" = .error e := by
  simp [completeRequest, bind_eq_error_iff, Object.requiredString_eq_ok_iff]

theorem firstMatch_eq_ok_iff {text : String} :
    firstMatch content = .ok text ↔
      ∃ items, content.get? "matches" = some (.arr (.str text :: items)) := by
  unfold firstMatch
  rw [bind_eq_ok_iff]
  simp only [Object.requiredList_eq_ok_iff]
  constructor
  · rintro ⟨items, hitems, h⟩
    split at h
    · cases h
    · cases h
      exact ⟨_, hitems⟩
    · cases h
  · rintro ⟨items, hitems⟩
    exact ⟨_, hitems, rfl⟩

theorem completeReply_eq_ok_iff :
    completeReply content = .ok result ↔
      ∃ start stop text,
        (content.get? "cursor_start" = some (.int start) ∧ Word.fitsInt64 start = true) ∧
        (content.get? "cursor_end" = some (.int stop) ∧ Word.fitsInt64 stop = true) ∧
        (∃ items, content.get? "matches" = some (.arr (.str text :: items))) ∧
        Assoc.insert (content.without ["cursor_start", "cursor_end", "metadata"]) "matched_text"
          (.str (takeSigned text (Word.saturatingSub stop start))) = result := by
  simp [completeReply, bind_eq_ok_iff, Object.requiredInteger_eq_ok_iff, firstMatch_eq_ok_iff]

/-- After the start of a completion its end is looked at. -/
theorem completeReply_eq_error_of_stop {start : Int} {e : FieldError}
    (hs : content.get? "cursor_start" = some (.int start)) (hf : Word.fitsInt64 start = true)
    (he : content.requiredInteger "cursor_end" = .error e) : completeReply content = .error e := by
  rw [completeReply, Object.requiredInteger_eq_ok_iff.mpr ⟨hs, hf⟩, ok_bind, he, error_bind]

section Inspection
variable {resolve : Resolver} {α : Type} {x : Word.Computed α} {a : α} {e : FieldError}

theorem checked_eq_ok_iff : checked x = .ok a ↔ x = pure a := by
  obtain ⟨value, exact⟩ := x
  cases exact <;> simp [checked, pure]

theorem checked_eq_error_iff : checked x = .error e ↔ x.exact = false ∧ e = .overflow := by
  obtain ⟨value, exact⟩ := x
  cases exact <;> simp [checked, eq_comm]

/-- What a request for an object is read for before the object is named. -/
def inspected (content : Object) : Object.Field (String × Nat × Value) := do
  let code ← content.requiredString "code"
  let cursor ← content.requiredCursor "cursor_pos"
  let detail ← content.required "detail_level"
  return (code, cursor, detail)

theorem objectInfoRequest_eq (resolve : Resolver) (content : Object) :
    objectInfoRequest resolve content = inspected content >>= fun (code, cursor, detail) =>
      (checked (resolve code cursor)).map fun name =>
        .ofList [("oname", .str name), ("detail_level", detail)] := by
  unfold objectInfoRequest inspected
  cases content.requiredString "code" with
  | error e => rfl
  | ok code =>
    cases content.requiredCursor "cursor_pos" with
    | error e => rfl
    | ok cursor =>
      cases content.required "detail_level" with
      | error e => rfl
      | ok detail => cases checked (resolve code cursor) <;> rfl

theorem enforces_inspected :
    Requirement.Enforces (inspected content) content
      [.text "code", .cursor "cursor_pos", .present "detail_level"] :=
  Requirement.enforces_requiredString.bind fun _ _ =>
    Requirement.enforces_requiredCursor.bind fun _ _ =>
      Requirement.enforces_required.bind fun _ _ => Requirement.enforces_ok _

theorem inspected_eq_ok_iff {code : String} {cursor : Nat} {detail : Value} :
    inspected content = .ok (code, cursor, detail) ↔
      content.get? "code" = some (.str code) ∧
        (content.get? "cursor_pos" = some (.nat cursor) ∧ cursor < 0x10000000000000000) ∧
        content.get? "detail_level" = some detail := by
  simp only [inspected, bind_eq_ok_iff, Object.requiredString_eq_ok_iff,
    Object.requiredCursor_eq_ok_iff, Object.required_eq_ok_iff, pure_eq_ok, Except.ok.injEq,
    Prod.mk.injEq]
  constructor
  · rintro ⟨_, hcode, _, hcursor, _, hdetail, rfl, rfl, rfl⟩
    exact ⟨hcode, hcursor, hdetail⟩
  · rintro ⟨hcode, hcursor, hdetail⟩
    exact ⟨_, hcode, _, hcursor, _, hdetail, rfl, rfl, rfl⟩

theorem objectInfoRequest_eq_ok_iff :
    objectInfoRequest resolve content = .ok result ↔
      ∃ code cursor detail name, content.get? "code" = some (.str code) ∧
        (content.get? "cursor_pos" = some (.nat cursor) ∧ cursor < 0x10000000000000000) ∧
        content.get? "detail_level" = some detail ∧ resolve code cursor = pure name ∧
        Assoc.ofList [("oname", .str name), ("detail_level", detail)] = result := by
  simp [objectInfoRequest_eq, bind_eq_ok_iff, map_eq_ok_iff, inspected_eq_ok_iff,
    checked_eq_ok_iff, and_assoc]

/-- The object is read off the content, but naming it leaves the words. -/
def Overflows (resolve : Resolver) (content : Object) : Prop :=
  ∃ code cursor detail, inspected content = .ok (code, cursor, detail) ∧
    (resolve code cursor).exact = false

theorem objectInfoRequest_eq_error_iff :
    objectInfoRequest resolve content = .error e ↔
      inspected content = .error e ∨ Overflows resolve content ∧ e = .overflow := by
  simp only [objectInfoRequest_eq, bind_eq_error_iff, map_eq_error_iff, checked_eq_error_iff,
    Overflows, Prod.exists]
  refine or_congr_right ?_
  constructor
  · rintro ⟨code, cursor, detail, hread, hinexact, he⟩
    exact ⟨⟨code, cursor, detail, hread, hinexact⟩, he⟩
  · rintro ⟨⟨code, cursor, detail, hread, hinexact⟩, he⟩
    exact ⟨code, cursor, detail, hread, hinexact, he⟩

/-- Contents alone never break off. -/
theorem objectInfoRequest_eq_overflow_iff :
    objectInfoRequest resolve content = .error .overflow ↔ Overflows resolve content := by
  rw [objectInfoRequest_eq_error_iff, and_iff_left rfl]
  exact or_iff_right fun hread => ((enforces_inspected _).mp hread).ne_overflow rfl

end Inspection

section Faults
variable {P : FieldError → Prop} {Q : Prop} {t : String} {u : Undeliverable}

/-- What is told to a sender is one of the faults. -/
theorem exists_within_and_ne_overflow_iff (hP : ∀ e, P e → e ≠ .overflow) :
    (∃ e, (P e ∨ Q ∧ e = .overflow) ∧ e.within t = u) ∧ u ≠ .overflow ↔
      ∃ e, P e ∧ e.within t = u := by
  constructor
  · rintro ⟨⟨e, hfault | ⟨_, rfl⟩, rfl⟩, hne⟩
    · exact ⟨e, hfault, rfl⟩
    · exact absurd rfl hne
  · rintro ⟨e, hfault, rfl⟩
    exact ⟨⟨e, Or.inl hfault, rfl⟩,
      fun hover => hP e hfault (FieldError.within_eq_overflow_iff.mp hover)⟩

theorem exists_within_eq_overflow_iff (hP : ∀ e, P e → e ≠ .overflow) :
    (∃ e, (P e ∨ Q ∧ e = .overflow) ∧ e.within t = .overflow) ↔ Q := by
  constructor
  · rintro ⟨e, hfault | ⟨hover, _⟩, hwithin⟩
    · exact absurd (FieldError.within_eq_overflow_iff.mp hwithin) (hP e hfault)
    · exact hover
  · intro hover
    exact ⟨.overflow, Or.inr ⟨hover, rfl⟩, rfl⟩

end Faults

theorem displayData_eq_ok_iff :
    displayData content = .ok result ↔
      ∃ data, content.get? "data" = some (.obj data) ∧
        Assoc.modify (content.insertNew "source" (.str "display")) "data"
          (fun _ => .obj (printJson data)) = result := by
  simp [displayData, Object.editObject_eq_ok_iff]

end KernelBridge.Protocol.Downgrade
