import KernelBridge.Assoc.Ascending
import KernelBridge.Proofs.Crossing
import KernelBridge.Proofs.Downgrade
import KernelBridge.Proofs.Projection
import KernelBridge.Proofs.Upgrade

/-! # Completions on the way there and back

A request goes to version 4 with the line of its cursor, which is its own line: relayed on, it stays as
it is. A reply goes there with the start of its first match that the span of the reply cuts out, and
comes back with the length of this text as its span. Nowhere does it matter that the width of a span is
kept within 64 bits.
-/
namespace KernelBridge.Protocol
open Json Outcome
variable {resolve : Downgrade.Resolver}

section Slice
variable {text part : List Char} {count : Int}

/-- The start of a text that a number of characters stands for; a negative number stands for all but
the last ones. -/
inductive Slice : List Char → Int → List Char → Prop
  | first (part rest : List Char) : Slice (part ++ rest) part.length part
  | whole {text : List Char} {count : Int} (h : text.length ≤ count) : Slice text count text
  | butLast (part : List Char) {rest : List Char} (hne : rest ≠ []) :
      Slice (part ++ rest) (-rest.length) part
  | nothing {text : List Char} {count : Int} (hneg : count < 0) (h : text.length ≤ -count) :
      Slice text count []

/-- How many characters of a text that are. -/
def sliceLength (length : Nat) (count : Int) : Nat :=
  if 0 ≤ count then count.toNat else length - count.natAbs

theorem Slice.eq_take (h : Slice text count part) :
    text.take (sliceLength text.length count) = part := by
  unfold sliceLength
  cases h with
  | first part rest =>
    rw [if_pos (Int.natCast_nonneg _), Int.toNat_natCast, List.take_left]
  | whole h =>
    rw [if_pos (by omega)]
    exact List.take_of_length_le (by omega)
  | @butLast _ rest hne =>
    have hpos := List.length_pos_iff.mpr hne
    have hcount : (part ++ rest).length - (-(rest.length : Int)).natAbs = part.length := by
      rw [List.length_append]
      omega
    rw [if_neg (by omega), hcount, List.take_left]
  | nothing hneg h =>
    have hzero : text.length - count.natAbs = 0 := by omega
    rw [if_neg (by omega), hzero, List.take_zero]

theorem slice_take (text : List Char) (count : Int) :
    Slice text count (text.take (sliceLength text.length count)) := by
  unfold sliceLength
  by_cases hcount : 0 ≤ count
  · rw [if_pos hcount]
    rcases Int.le_total text.length count with hle | hle
    · rw [List.take_of_length_le (by omega)]
      exact .whole hle
    · have h := Slice.first (text.take count.toNat) (text.drop count.toNat)
      have hlength : ((text.take count.toNat).length : Int) = count := by
        rw [List.length_take]
        omega
      rwa [List.take_append_drop, hlength] at h
  · rw [if_neg hcount]
    rcases Int.le_total text.length (-count) with hle | hle
    · have hzero : text.length - count.natAbs = 0 := by omega
      rw [hzero, List.take_zero]
      exact .nothing (by omega) hle
    · have hrest : ((text.drop (text.length - count.natAbs)).length : Int) = -count := by
        rw [List.length_drop]
        omega
      have hne : text.drop (text.length - count.natAbs) ≠ [] := by
        intro hnil
        rw [hnil] at hrest
        simp only [List.length_nil] at hrest
        omega
      have h := Slice.butLast (text.take (text.length - count.natAbs)) hne
      rwa [List.take_append_drop, hrest, Int.neg_neg] at h

/-- A number stands for one start of a text. -/
theorem Slice.iff_eq {other : List Char} (h : Slice text count part) :
    Slice text count other ↔ other = part := by
  constructor
  · intro hother
    exact hother.eq_take.symm.trans h.eq_take
  · rintro rfl
    exact h

theorem slice_iff : Slice text count part ↔ part = text.take (sliceLength text.length count) :=
  (slice_take text count).iff_eq

theorem Slice.length_le (h : Slice text count part) : part.length ≤ text.length := by
  rw [slice_iff.mp h]
  exact List.length_take_le' ..

theorem Slice.length_eq (h : Slice text count part) (hpos : 0 ≤ count) (hle : count ≤ text.length) :
    (part.length : Int) = count := by
  rw [slice_iff.mp h, List.length_take, sliceLength, if_pos hpos]
  omega

/-- A width outside the words stands for all of a text or for nothing, as their limits do. -/
theorem slice_saturatingSub {start stop : Int} (h : text.length < 0x8000000000000000) :
    Slice text (Word.saturatingSub stop start) part ↔ Slice text (stop - start) part := by
  unfold Word.saturatingSub Word.leastInt64 Word.greatestInt64
  split
  · next hlow =>
    have hleast : Slice text (-0x8000000000000000) [] := .nothing (by decide) (by omega)
    have hwidth : Slice text (stop - start) [] := .nothing (by omega) (by omega)
    exact hleast.iff_eq.trans hwidth.iff_eq.symm
  · split
    · next hhigh =>
      have hgreatest : Slice text 0x7fffffffffffffff text := .whole (by omega)
      have hwidth : Slice text (stop - start) text := .whole (by omega)
      exact hgreatest.iff_eq.trans hwidth.iff_eq.symm
    · exact Iff.rfl

theorem slice_takeSigned (text : String) (count : Int) :
    Slice text.toList count (Downgrade.takeSigned text count).toList := by
  rw [slice_iff, Downgrade.takeSigned, String.toList_ofList]
  rfl

end Slice

section Reply
variable {content result : Object} {start stop : Int} {text matched : String}
variable {others : List Value}

/-- The span of a completion, in 64-bit numbers, and its matches, of which the first is a text. -/
structure Completion (content : Object) (start stop : Int) (text : String)
    (others : List Value) : Prop where
  cursorStart : content.get? "cursor_start" = some (.int start)
  cursorEnd : content.get? "cursor_end" = some (.int stop)
  found : content.get? "matches" = some (.arr (.str text :: others))
  startFits : -0x8000000000000000 ≤ start ∧ start ≤ 0x7fffffffffffffff
  stopFits : -0x8000000000000000 ≤ stop ∧ stop ≤ 0x7fffffffffffffff

/-- What has become of a completion in version 4: a text in the place of the span. -/
structure Matched (content : Object) (matched : String) (result : Object) : Prop where
  matched : result.get? "matched_text" = some (.str matched)
  dropped : ∀ k ∈ ["cursor_start", "cursor_end", "metadata"], result.get? k = none
  others : ∀ k, k ∉ ["cursor_start", "cursor_end", "metadata", "matched_text"] →
    result.get? k = content.get? k
  ascending : content.Ascending → result.Ascending

/-- A completion of version 5 whose span ends at the cursor. -/
def completionBefore (found : List Value) (start : Int) : Object :=
  .ofList
    [("status", .str "ok"), ("matches", .arr found), ("cursor_start", .int start),
      ("cursor_end", .null), ("metadata", .obj [])]

/-- A completion of version 4. -/
def matchedReply (content : Object) (matched : String) : Object :=
  Assoc.insert (content.without ["cursor_start", "cursor_end", "metadata"]) "matched_text"
    (.str matched)

theorem matched_matchedReply (content : Object) (matched : String) :
    Matched content matched (matchedReply content matched) := by
  unfold matchedReply
  refine ⟨?_, ?_, ?_, ?_⟩
  · rw [Assoc.get?_insert, if_pos rfl]
  · intro k hk
    have hne : k ≠ "matched_text" := by
      rintro rfl
      exact absurd hk (by decide)
    rw [Assoc.get?_insert, if_neg hne, Assoc.get?_without, if_pos hk]
  · intro k hk
    simp only [List.mem_cons, List.not_mem_nil, or_false, not_or] at hk
    simp [hk]
  · intro hasc
    exact (hasc.without _).insert _ _

theorem completeReply_eq_ok_iff :
    Downgrade.completeReply content = .ok result ↔
      ∃ start stop text others, Completion content start stop text others ∧
        matchedReply content (Downgrade.takeSigned text (Word.saturatingSub stop start)) = result := by
  rw [Downgrade.completeReply_eq_ok_iff]
  constructor
  · rintro ⟨start, stop, text, ⟨hstart, hstartFits⟩, ⟨hstop, hstopFits⟩, ⟨others, hfound⟩, hresult⟩
    exact ⟨start, stop, text, others, ⟨hstart, hstop, hfound, Word.fitsInt64_iff.mp hstartFits,
      Word.fitsInt64_iff.mp hstopFits⟩, hresult⟩
  · rintro ⟨start, stop, text, others, h, hresult⟩
    exact ⟨start, stop, text, ⟨h.cursorStart, Word.fitsInt64_iff.mpr h.startFits⟩,
      ⟨h.cursorEnd, Word.fitsInt64_iff.mpr h.stopFits⟩, ⟨others, h.found⟩, hresult⟩

/-- A text that 64 bits can count has its length as the negative start of a span. -/
theorem completeReply_of_matched (hmatched : content.get? "matched_text" = some (.str matched))
    {found : List Value} (hfound : content.get? "matches" = some (.arr found))
    (hlength : matched.length < 0x8000000000000000) :
    Upgrade.completeReply content = .ok (completionBefore found (-matched.length)) := by
  have hcount : Word.ofCount matched.length = matched.length := Nat.mod_eq_of_lt (by omega)
  have hfits : Word.fitsInt64 matched.length = true := by
    refine Word.fitsInt64_iff.mpr ?_
    simp only [Word.leastInt64, Word.greatestInt64]
    omega
  have hstart : Word.negate (Word.ofCount matched.length) = -(matched.length : Int) := by
    rw [hcount, Word.negate, if_pos hfits]
  refine Upgrade.completeReply_eq_ok_iff.mpr ⟨matched, .arr found, hmatched, hfound, ?_⟩
  rw [hstart]
  rfl

/-- The part of the first match that the rewrite for version 4 takes. -/
def cutMatch (text : String) (start stop : Int) : String :=
  Downgrade.takeSigned text (Word.saturatingSub stop start)

theorem slice_cutMatch (hlength : text.length < 0x8000000000000000) :
    Slice text.toList (stop - start) (cutMatch text start stop).toList := by
  have hcount : text.toList.length < 0x8000000000000000 := by rwa [String.length_toList]
  exact (slice_saturatingSub hcount).mp (slice_takeSigned text _)

theorem downgrade_completion {m : Message} (ht : m.msgType = "complete_reply")
    (he : m.content.reportsError = false) (h : Completion m.content start stop text others) :
    downgrade resolve m =
      .ok (m.restamp none "complete_reply" (matchedReply m.content (cutMatch text start stop))) :=
  have hcross : Crossing resolve "complete_reply" _ _ := .completeReply
  (hcross.downgrade_eq_ok_iff ht he).mpr
    ⟨_, completeReply_eq_ok_iff.mpr ⟨start, stop, text, others, h, rfl⟩, rfl⟩

theorem upgrade_matchedReply {m : Message} (he : m.content.reportsError = false) {found : List Value}
    (hfound : m.content.get? "matches" = some (.arr found))
    (hlength : matched.length < 0x8000000000000000) :
    upgrade (m.restamp none "complete_reply" (matchedReply m.content matched)) =
      .ok (m.restamp (some "5.0") "complete_reply" (completionBefore found (-matched.length))) := by
  have hcross : Crossing Code.Machine.identifierAt "complete_reply" _ _ := .completeReply
  have hmatched := matched_matchedReply m.content matched
  have hstatus := (Object.reportsError_congr (hmatched.others "status" (by decide))).trans he
  have hmatches := (hmatched.others "matches" (by decide)).trans hfound
  exact (hcross.upgrade_eq_ok_iff rfl hstatus).mpr
    ⟨_, completeReply_of_matched hmatched.matched hmatches hlength, rfl⟩

/-- A completion of version 5 is one of version 4 with the start of the first match that the width of
the span stands for, whatever 64 bits hold of this width, and comes back with the length of that. -/
theorem completions_keep_their_width (resolve : Downgrade.Resolver) {m : Message}
    (ht : m.msgType = "complete_reply") (he : m.content.reportsError = false) :
    ((∃ n, downgrade resolve m = .ok n) ↔
      ∃ start stop text others, Completion m.content start stop text others) ∧
    ∀ start stop text others, Completion m.content start stop text others →
      text.length < 0x8000000000000000 →
      ∃ matched middle, downgrade resolve m = .ok (m.restamp none "complete_reply" middle) ∧
        (∀ part, Slice text.toList (stop - start) part ↔ part = matched.toList) ∧
        Matched m.content matched middle ∧
        upgrade (m.restamp none "complete_reply" middle) =
          .ok (m.restamp (some "5.0") "complete_reply"
            (completionBefore (.str text :: others) (-matched.length))) ∧
        (start ≤ stop → stop - start ≤ text.length → -(matched.length : Int) = start - stop) := by
  constructor
  · constructor
    · rintro ⟨n, hn⟩
      have hcross : Crossing resolve "complete_reply" _ _ := .completeReply
      obtain ⟨result, hresult, _⟩ := (hcross.downgrade_eq_ok_iff ht he).mp hn
      obtain ⟨start, stop, text, others, h, _⟩ := completeReply_eq_ok_iff.mp hresult
      exact ⟨start, stop, text, others, h⟩
    · rintro ⟨start, stop, text, others, h⟩
      exact ⟨_, downgrade_completion ht he h⟩
  · intro start stop text others h hlength
    have hslice : Slice text.toList (stop - start) (cutMatch text start stop).toList :=
      slice_cutMatch hlength
    have hle : (cutMatch text start stop).length ≤ text.length := by
      rw [← String.length_toList, ← String.length_toList]
      exact hslice.length_le
    refine ⟨_, _, downgrade_completion ht he h, fun part => hslice.iff_eq, matched_matchedReply _ _,
      upgrade_matchedReply he h.found (by omega), ?_⟩
    intro hpos hwidth
    have hwhole : stop - start ≤ text.toList.length := by rwa [String.length_toList]
    have hlength := hslice.length_eq (by omega) hwhole
    rw [String.length_toList] at hlength
    omega

/-- Two completions, the first three characters of which are typed already. -/
def printing (start stop : Int) : Message :=
  .new ⟨"complete_reply", some "5.3", [("session", .str "a")]⟩
    [("cursor_end", .int stop), ("cursor_start", .int start),
      ("matches", .arr [.str "print", .str "property"]), ("metadata", .obj []),
      ("status", .str "ok")]

/-- A span that ends before it starts, and one that is too wide for 64 bits as well. -/
theorem completions_keep_their_width_printing :
    (∃ middle, downgrade Code.Machine.identifierAt (printing 9 7) =
        .ok ((printing 9 7).restamp none "complete_reply" middle) ∧
      middle.get? "matched_text" = some (.str "pri") ∧
      upgrade ((printing 9 7).restamp none "complete_reply" middle) =
        .ok ((printing 9 7).restamp (some "5.0") "complete_reply"
          (completionBefore [.str "print", .str "property"] (-3)))) ∧
    ∃ middle, downgrade Code.Machine.identifierAt (printing 0x7fffffffffffffff (-0x8000000000000000)) =
        .ok ((printing 0x7fffffffffffffff (-0x8000000000000000)).restamp none "complete_reply"
          middle) ∧
      middle.get? "matched_text" = some (.str "") := by
  have hlength : "print".length < 0x8000000000000000 := by decide
  constructor
  · have h : Completion (printing 9 7).content 9 7 "print" [.str "property"] :=
      ⟨rfl, rfl, rfl, by decide, by decide⟩
    obtain ⟨matched, middle, hdown, hslice, hmatched, hup, _⟩ :=
      (completions_keep_their_width Code.Machine.identifierAt rfl (by decide)).2 _ _ _ _ h hlength
    have htext : "pri" = matched := by
      have hpart := (hslice "pri".toList).mp (.butLast ['p', 'r', 'i'] (List.cons_ne_nil 'n' ['t']))
      exact String.toList_inj.mp hpart
    subst htext
    exact ⟨middle, hdown, hmatched.matched, hup⟩
  · have h : Completion (printing 0x7fffffffffffffff (-0x8000000000000000)).content
        0x7fffffffffffffff (-0x8000000000000000) "print" [.str "property"] :=
      ⟨rfl, rfl, rfl, by decide, by decide⟩
    obtain ⟨matched, middle, hdown, hslice, hmatched, _⟩ :=
      (completions_keep_their_width Code.Machine.identifierAt rfl (by decide)).2 _ _ _ _ h hlength
    have htext : "" = matched := by
      have hpart := (hslice []).mp (.nothing (by decide) (by decide))
      exact String.toList_inj.mp hpart
    subst htext
    exact ⟨middle, hdown, hmatched.matched⟩

end Reply

section Request
variable {content : Object} {code line : String} {cursor offset : Nat}

/-- A request of version 4, about a line. -/
def lineRequest (line : String) (offset : Nat) : Object :=
  .ofList
    [("text", .str ""), ("line", .str line), ("block", .null), ("cursor_pos", .nat offset)]

/-- A request of version 5 with nothing but what version 4 tells. -/
def codeRequest (code : String) (cursor : Nat) : Object :=
  .ofList [("code", .str code), ("cursor_pos", .nat cursor)]

theorem completeRequest_of_code (hcode : content.get? "code" = some (.str code))
    (hcursor : content.get? "cursor_pos" = some (.nat cursor)) (hlt : cursor < 0x10000000000000000) :
    Downgrade.completeRequest content =
      .ok (lineRequest (Code.lineAt code cursor).1 (Code.lineAt code cursor).2) :=
  Downgrade.completeRequest_eq_ok_iff.mpr ⟨code, cursor, hcode, ⟨hcursor, hlt⟩, rfl⟩

theorem completeRequest_lineRequest (line : String) (offset : Nat) :
    Upgrade.completeRequest (lineRequest line offset) = .ok (codeRequest line offset) := by
  refine Upgrade.completeRequest_eq_ok_iff.mpr ⟨.str line, .nat offset, ?_, ?_, rfl⟩
  · simp [lineRequest, Assoc.get?_ofList, Assoc.get?_cons]
  · simp [lineRequest, Assoc.get?_ofList, Assoc.get?_cons]

theorem lineRequest_reportsError (line : String) (offset : Nat) :
    (lineRequest line offset).reportsError = false := by
  simp [← Bool.not_eq_true, Object.reportsError_iff, lineRequest, Assoc.get?_ofList,
    Assoc.get?_cons]

theorem get?_codeRequest (code : String) (cursor : Nat) :
    (codeRequest code cursor).get? "code" = some (.str code) ∧
      (codeRequest code cursor).get? "cursor_pos" = some (.nat cursor) := by
  simp [codeRequest, Assoc.get?_ofList, Assoc.get?_cons]

theorem codeRequest_reportsError (code : String) (cursor : Nat) :
    (codeRequest code cursor).reportsError = false := by
  simp [← Bool.not_eq_true, Object.reportsError_iff, codeRequest, Assoc.get?_ofList,
    Assoc.get?_cons]

theorem downgrade_codeRequest {m : Message} (ht : m.msgType = "complete_request")
    (he : m.content.reportsError = false) (hcode : m.content.get? "code" = some (.str code))
    (hcursor : m.content.get? "cursor_pos" = some (.nat cursor))
    (hlt : cursor < 0x10000000000000000) :
    downgrade resolve m = .ok (m.restamp none "complete_request"
      (lineRequest (Code.lineAt code cursor).1 (Code.lineAt code cursor).2)) :=
  have hcross : Crossing resolve "complete_request" _ _ := .completeRequest
  (hcross.downgrade_eq_ok_iff ht he).mpr ⟨_, completeRequest_of_code hcode hcursor hlt, rfl⟩

theorem upgrade_lineRequest {m : Message} (ht : m.msgType = "complete_request")
    (hcontent : m.content = lineRequest line offset) :
    upgrade m = .ok (m.restamp (some "5.0") "complete_request" (codeRequest line offset)) := by
  have hcross : Crossing Code.Machine.identifierAt "complete_request" _ _ := .completeRequest
  have he : m.content.reportsError = false := by
    rw [hcontent]
    exact lineRequest_reportsError line offset
  refine (hcross.upgrade_eq_ok_iff ht he).mpr ⟨_, ?_, rfl⟩
  rw [hcontent]
  exact completeRequest_lineRequest line offset

/-- A request about a line that is its own line is relayed as it is. -/
theorem relay_lineRequest (resolve : Downgrade.Resolver) (m : Message)
    (hline : Code.lineAt line offset = (line, offset)) (hlt : offset < 0x10000000000000000) :
    (upgrade (m.restamp none "complete_request" (lineRequest line offset)) >>= downgrade resolve) =
      .ok (m.restamp none "complete_request" (lineRequest line offset)) := by
  obtain ⟨hcode, hcursor⟩ := get?_codeRequest line offset
  have hdown : downgrade resolve
      (m.restamp (some "5.0") "complete_request" (codeRequest line offset)) =
        .ok (m.restamp none "complete_request"
          (lineRequest (Code.lineAt line offset).1 (Code.lineAt line offset).2)) :=
    downgrade_codeRequest rfl (codeRequest_reportsError line offset) hcode hcursor hlt
  rw [hline] at hdown
  rw [upgrade_lineRequest rfl rfl, ok_bind]
  exact hdown

/-- A cursor on its line is projected onto itself, so a request that has gone to version 4 once comes
back from version 5 as it is. -/
theorem requests_settle (resolve : Downgrade.Resolver) :
    (∀ (code : String) (cursor : Nat),
      (Code.lineAt code cursor).2 ≤ (Code.lineAt code cursor).1.length ∧
      Code.lineAt (Code.lineAt code cursor).1 (Code.lineAt code cursor).2 =
        Code.lineAt code cursor) ∧
    ∀ (m : Message) (code : String) (cursor : Nat), m.msgType = "complete_request" →
      m.content.reportsError = false → m.content.get? "code" = some (.str code) →
      m.content.get? "cursor_pos" = some (.nat cursor) → cursor < 0x10000000000000000 →
      ∃ legacy, downgrade resolve m = .ok legacy ∧
        legacy.content =
          lineRequest (Code.lineAt code cursor).1 (Code.lineAt code cursor).2 ∧
        (upgrade legacy >>= downgrade resolve) = .ok legacy := by
  constructor
  · intro code cursor
    exact ⟨Code.lineAt_le_length code cursor, Code.lineAt_lineAt code cursor⟩
  · intro m code cursor ht he hcode hcursor hlt
    have hoffset := Code.lineAt_le_cursor code cursor
    exact ⟨_, downgrade_codeRequest ht he hcode hcursor hlt, rfl,
      relay_lineRequest resolve m (Code.lineAt_lineAt code cursor) (by omega)⟩

/-- A request past the end of a code whose last line ends with both characters of a pair. -/
def completingPastEnd : Message :=
  .new ⟨"complete_request", some "5.3", [("session", .str "a")]⟩
    [("code", .str "x\nab\r\n"), ("cursor_pos", .nat 9)]

theorem requests_settle_pastEnd :
    ∃ legacy, downgrade Code.Machine.identifierAt completingPastEnd = .ok legacy ∧
      legacy.content = lineRequest "ab\r\n" 3 ∧
      (upgrade legacy >>= downgrade Code.Machine.identifierAt) = .ok legacy := by
  have hline : Code.lineAt "x\nab\r\n" 9 = ("ab\r\n", 3) := by decide
  obtain ⟨legacy, hdown, hcontent, hback⟩ :=
    (requests_settle Code.Machine.identifierAt).2 completingPastEnd "x\nab\r\n" 9 rfl (by decide) rfl rfl
      (by decide)
  rw [hline] at hcontent
  exact ⟨legacy, hdown, hcontent, hback⟩

end Request

end KernelBridge.Protocol
