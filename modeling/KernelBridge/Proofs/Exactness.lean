import KernelBridge.Proofs.Completion
import KernelBridge.Proofs.Crossing
import KernelBridge.Proofs.Downgrade
import KernelBridge.Proofs.Projection
import KernelBridge.Proofs.Reading
import KernelBridge.Proofs.WordScanning
import Mathlib.Data.List.TakeWhile

/-! # When positions fit words

A code that a machine can hold is so far from the greatest word that of all the sums on the way to an
identifier only one can leave the words: the boundary of a token at the start of a line, one step
behind the greatest cursor there is. A request to inspect such a code there is not answered. On the
way to a line nothing leaves the words.
-/
namespace KernelBridge.Code.Machine
open Token Word Json Outcome Protocol
open Word.Computed (add add_eq_pure sub_eq_pure)
variable {code : String} {cursor : Nat}

section Size

theorem length_le_byteSize (cs : List Char) : cs.length ≤ (String.ofList cs).utf8ByteSize := by
  induction cs with
  | nil => exact Nat.zero_le _
  | cons c cs ih =>
    have hpos := Char.utf8Size_pos c
    rw [String.ofList_cons, String.utf8ByteSize_append, String.utf8ByteSize_singleton,
      List.length_cons]
    omega

theorem Storable.byteSize_lt (h : Storable code) : code.utf8ByteSize < 0x8000000000000000 := by
  have hrange := fitsInt64_iff.mp h
  simp only [greatestInt64] at hrange
  omega

theorem Storable.length_lt (h : Storable code) : code.length + 3 < 0x10000000000000000 := by
  have hbytes := h.byteSize_lt
  have hle := length_le_byteSize code.toList
  rw [String.ofList_toList, String.length_toList] at hle
  omega

end Size

/-- Reading tokens with the boundary as a word. -/
def readWithin (cursor : Nat) : Nat → Bool → Stacks → List Token → Computed Stacks
  | _, _, s, [] => return s
  | lineStart, afterDot, s, t :: ts => do
    let bound ← boundary cursor lineStart t.start
    if bound ≤ t.start then return s
    else if cursor < t.stop then return s.read afterDot t.lexeme
    else readWithin cursor (lineAfter lineStart t) (isDot t.lexeme) (s.read afterDot t.lexeme) ts

section Read
variable {size pos first skip : Nat} {cs : List Char} {s : Stacks} {afterDot : Bool} {ts : List Token}

/-- All sums but the one for the boundary are exact. -/
theorem readUpTo_eq_readWithin (hsize : size + 3 < 0x10000000000000000) (cursor : Nat)
    (hskip : skip ≤ cs.length) (h : pos + (cs.length - skip) = size) :
    readUpTo size cursor pos skip first afterDot s cs =
      readWithin cursor first afterDot s (lexFrom pos 0 (cs.drop skip)) := by
  induction cs generalizing pos skip first afterDot s with
  | nil =>
    rw [List.length_nil] at hskip h
    rw [readUpTo, peek_eq (by omega), pure_bind, List.drop_nil, lexFrom_nil]
    rfl
  | cons c cs ih =>
    rw [List.length_cons] at hskip h
    cases skip with
    | succ skip =>
      rw [readUpTo, List.drop_succ_cons]
      exact ih (by omega) (by omega)
    | zero =>
      rw [readUpTo, peek_eq (by omega), pure_bind, List.drop_zero]
      cases hblank : isBlank c with
      | true =>
        rw [if_pos rfl, add_eq_pure (by omega), pure_bind, lexFrom_blank hblank,
          ih (by omega) (by omega), List.drop_zero]
      | false =>
        have hpos := scan_length_pos c cs
        have hle := scan_length_le c cs
        have hgone : pos + (Token.scan c cs).2 - pos - 1 = (Token.scan c cs).2 - 1 := by omega
        rw [if_neg (by simp), scan_eq hsize (by omega), pure_bind, lexFrom_cons_drop hblank,
          readWithin]
        dsimp only
        rw [hgone, ih (by omega) (by omega)]
        rfl

theorem boundary_eq (h : cursor + 1 < 0x10000000000000000) (first : Nat) (t : Token) :
    boundary cursor first t.start = pure (Code.boundary cursor first t) := by
  rw [boundary, add_eq_pure h, Code.boundary]
  split <;> rfl

theorem readWithin_eq (h : cursor + 1 < 0x10000000000000000) (first : Nat) (afterDot : Bool)
    (s : Stacks) (ts : List Token) :
    readWithin cursor first afterDot s ts = pure (Code.readUpTo cursor first afterDot s ts) := by
  induction ts generalizing first afterDot s with
  | nil => rfl
  | cons t ts ih =>
    rw [readWithin, boundary_eq h, pure_bind, Code.readUpTo]
    dsimp only
    split
    · rfl
    · split
      · rfl
      · exact ih _ _ _

/-- With the greatest word as the cursor all tokens are read, if none of them starts a line. -/
theorem readWithin_greatest (hcursor : cursor = 0xffffffffffffffff)
    (hstop : ∀ t ∈ ts, t.stop ≤ cursor) (h : Spaced first ts) :
    readWithin cursor first afterDot s ts = pure (Code.readUpTo cursor first afterDot s ts) ∧
        (∀ t ∈ ts, ¬StartsLine first ts t.start) ∨
      (readWithin cursor first afterDot s ts).exact = false ∧
        ∃ t ∈ ts, StartsLine first ts t.start := by
  induction ts generalizing first afterDot s with
  | nil => exact Or.inl ⟨rfl, by simp⟩
  | cons t ts ih =>
    obtain ⟨ht, hts⟩ := List.forall_mem_cons.mp hstop
    rw [readWithin, boundary, Code.readUpTo, Code.boundary]
    by_cases hfirst : t.start = first
    · right
      refine ⟨?_, t, List.mem_cons_self, (startsLine_head h).mpr hfirst⟩
      rw [if_pos hfirst, hcursor, Computed.greatest_add_one]
      rfl
    · have hline : ¬StartsLine first (t :: ts) t.start :=
        fun hl => hfirst ((startsLine_head h).mp hl)
      rw [if_neg hfirst, if_neg hfirst, pure_bind]
      cases h with
      | cons hstart hlength h =>
        have hrest : ∀ u ∈ ts, (StartsLine first (t :: ts) u.start ↔
            StartsLine (lineAfter first t) ts u.start) :=
          fun u hu => startsLine_cons hstart hlength (h.of_mem hu).1
        dsimp only
        rw [if_neg (by omega), if_neg (by omega), if_neg (by omega), if_neg (by omega),
          List.forall_mem_cons, and_iff_right hline]
        rcases ih hts (h.mono (lineAfter_le hstart hlength)) with ⟨hread, hnone⟩ | ⟨hread, u, hu, hl⟩
        · exact Or.inl ⟨hread, fun u hu => (hrest u hu).not.mpr (hnone u hu)⟩
        · exact Or.inr ⟨hread, u, List.mem_cons_of_mem t hu, (hrest u hu).mpr hl⟩

theorem identifierAt_eq_readWithin (hcode : Storable code) (cursor : Nat) :
    identifierAt code cursor =
      readWithin cursor 0 false .empty (lex code.toList) >>= fun s =>
        pure (String.ofList s.answer) := by
  have hsize : 0 + (code.toList.length - 0) = code.length := by
    rw [Nat.zero_add, Nat.sub_zero, String.length_toList]
  rw [identifierAt, readUpTo_eq_readWithin hcode.length_lt cursor (Nat.zero_le _) hsize,
    List.drop_zero]
  rfl

theorem identifierAt_eq (hcode : Storable code) (hcursor : cursor + 1 < 0x10000000000000000) :
    identifierAt code cursor = pure (Code.identifierAt code cursor) := by
  rw [identifierAt_eq_readWithin hcode, readWithin_eq hcursor, pure_bind]
  rfl

/-- One step behind the cursor there is no word, and a token starts at the start of a line. -/
def LeavesWords (code : String) (cursor : Nat) : Prop :=
  cursor = 0xffffffffffffffff ∧
    ∃ t ∈ lex code.toList, StartsLine 0 (lex code.toList) t.start

theorem identifierAt_greatest (hcode : Storable code) (hcursor : cursor = 0xffffffffffffffff) :
    identifierAt code cursor = pure (Code.identifierAt code cursor) ∧ ¬LeavesWords code cursor ∨
      (identifierAt code cursor).exact = false ∧ LeavesWords code cursor := by
  have hlength := hcode.length_lt
  have hstop : ∀ t ∈ lex code.toList, t.stop ≤ cursor := by
    intro t ht
    have hle := stop_le_of_mem_lexFrom ht
    rw [String.length_toList] at hle
    omega
  rw [identifierAt_eq_readWithin hcode]
  rcases readWithin_greatest hcursor hstop (spaced_lex _) with ⟨hread, hnone⟩ | ⟨hread, hsome⟩
  · rw [hread, pure_bind]
    exact Or.inl ⟨rfl, fun hleaves => hleaves.2.elim fun t ht => hnone t ht.1 ht.2⟩
  · rw [Computed.exact_bind, hread]
    exact Or.inr ⟨rfl, hcursor, hsome⟩

/-- The one sum that can leave the words. -/
theorem identifierAt_eq_or (hcode : Storable code) (hcursor : cursor < 0x10000000000000000) :
    identifierAt code cursor = pure (Code.identifierAt code cursor) ∧ ¬LeavesWords code cursor ∨
      (identifierAt code cursor).exact = false ∧ LeavesWords code cursor := by
  by_cases hgreatest : cursor = 0xffffffffffffffff
  · exact identifierAt_greatest hcode hgreatest
  · exact Or.inl ⟨identifierAt_eq hcode (by omega), fun hleaves => hgreatest hleaves.1⟩

theorem identifierAt_inexact_iff (hcode : Storable code) (hcursor : cursor < 0x10000000000000000) :
    (identifierAt code cursor).exact = false ↔ LeavesWords code cursor := by
  rcases identifierAt_eq_or hcode hcursor with ⟨heq, hleaves⟩ | ⟨hinexact, hleaves⟩
  · rw [heq]
    exact iff_of_false Bool.noConfusion hleaves
  · exact iff_of_true hinexact hleaves

theorem identifierAt_eq_of_not_leavesWords (hcode : Storable code)
    (hcursor : cursor < 0x10000000000000000) (h : ¬LeavesWords code cursor) :
    identifierAt code cursor = pure (Code.identifierAt code cursor) := by
  rcases identifierAt_eq_or hcode hcursor with ⟨heq, _⟩ | ⟨_, hleaves⟩
  · exact heq
  · exact absurd hleaves h

/-- What is named without leaving the words is the identifier under the cursor. -/
theorem eq_identifierAt_of_eq_pure (hcode : Storable code) (hcursor : cursor < 0x10000000000000000)
    {name : String} (h : identifierAt code cursor = pure name) :
    name = Code.identifierAt code cursor := by
  rcases identifierAt_eq_or hcode hcursor with ⟨heq, _⟩ | ⟨hinexact, _⟩
  · exact congrArg Computed.value (h.symm.trans heq)
  · rw [h] at hinexact
    cases hinexact

end Read

section Line
variable {cs body : List Char} {ls : List (List Char)} {remaining : Nat}

theorem not_isLineEnd_of_plain (hbody : Plain body) : ∀ c ∈ body, (!isLineEnd c) = true := by
  intro c hc
  have hfeed : c ≠ '\n' := fun he => hbody.1 (he ▸ hc)
  have hreturn : c ≠ '\r' := fun he => hbody.2 (he ▸ hc)
  simp [isLineEnd, hfeed, hreturn]

theorem of_mem_terminators {stop : List Char} (h : stop ∈ terminators) :
    (∀ c, stop.head? = some c → (!isLineEnd c) = false) ∧ 0 < stop.length ∧
      (String.ofList stop).utf8ByteSize = stop.length := by
  simp only [terminators, List.mem_cons, List.not_mem_nil, or_false] at h
  rcases h with rfl | rfl | rfl
  all_goals exact ⟨by simp [isLineEnd], by decide, by decide⟩

theorem byteSize_append (cs ds : List Char) :
    (String.ofList (cs ++ ds)).utf8ByteSize =
      (String.ofList cs).utf8ByteSize + (String.ofList ds).utf8ByteSize := by
  rw [String.ofList_append, String.utf8ByteSize_append]

/-- The end of a line is where its bytes end. -/
theorem lineEnd_eq (h : Cut cs ls) (hsize : (String.ofList cs).utf8ByteSize < 0x10000000000000000) :
    ∀ l ∈ ls, lineEnd l = pure (String.ofList l).utf8ByteSize := by
  induction h with
  | nil => simp
  | @last body hbody _ =>
    have hplain : body.takeWhile (!isLineEnd ·) = body :=
      List.takeWhile_eq_self_iff.mpr (not_isLineEnd_of_plain hbody)
    intro l hl
    obtain rfl := List.mem_singleton.mp hl
    simp only [lineEnd, hplain, Nat.lt_irrefl, if_false]
  | @line body stop rest pieces hbody hstop _ _ ih =>
    obtain ⟨hhead, hpos, hbytes⟩ := of_mem_terminators hstop
    rw [byteSize_append, byteSize_append] at hsize
    refine List.forall_mem_cons.mpr ⟨?_, ih (by omega)⟩
    have hlonger : body.length < (body ++ stop).length := by
      rw [List.length_append]
      omega
    have hrest : (body ++ stop).length - body.length = (String.ofList stop).utf8ByteSize := by
      rw [List.length_append, Nat.add_sub_cancel_left, hbytes]
    rw [lineEnd, takeWhile_append (not_isLineEnd_of_plain hbody) hhead]
    rw [if_pos hlonger, hrest, add_eq_pure (by omega), byteSize_append]

theorem locate_eq (hends : ∀ l ∈ ls, lineEnd l = pure (String.ofList l).utf8ByteSize)
    (hcursor : remaining < 0x10000000000000000) (last : List Char) :
    locate last remaining ls = pure (Code.locate last remaining ls) := by
  induction ls generalizing last remaining with
  | nil => rfl
  | cons l ls ih =>
    obtain ⟨hl, hls⟩ := List.forall_mem_cons.mp hends
    rw [locate, hl, pure_bind, Code.locate]
    split
    · rfl
    · rw [sub_eq_pure (by omega) hcursor, pure_bind, ih hls (by omega)]

theorem lineAt_eq (hcode : Storable code) (hcursor : cursor < 0x10000000000000000) :
    lineAt code cursor = pure (Code.lineAt code cursor) := by
  have hbytes := hcode.byteSize_lt
  have hsize : (String.ofList code.toList).utf8ByteSize < 0x10000000000000000 := by
    rw [String.ofList_toList]
    omega
  rw [lineAt, locate_eq (lineEnd_eq (cut_lines _) hsize) hcursor, pure_bind]
  rfl

end Line

section Request
variable {m : Message} {resolve : Downgrade.Resolver} {detail : Value}

theorem downgrade_inspectRequest (ht : m.msgType = "inspect_request")
    (he : m.content.reportsError = false) (hcode : m.content.get? "code" = some (.str code))
    (hcursor : m.content.get? "cursor_pos" = some (.nat cursor) ∧ cursor < 0x10000000000000000)
    (hdetail : m.content.get? "detail_level" = some detail) {name : String}
    (hname : resolve code cursor = pure name) :
    downgrade resolve m = .ok (m.restamp none "object_info_request"
      (.ofList [("oname", .str name), ("detail_level", detail)])) := by
  have hcross : Crossing resolve "inspect_request" _ _ := .inspectRequest
  exact (hcross.downgrade_eq_ok_iff ht he).mpr
    ⟨_, Downgrade.objectInfoRequest_eq_ok_iff.mpr
      ⟨code, cursor, detail, name, hcode, hcursor, hdetail, hname, rfl⟩, rfl⟩

/-- Of the requests to inspect only one without an error status that is read in full can break off. -/
theorem downgrade_inspectRequest_eq_overflow_iff (ht : m.msgType = "inspect_request")
    (hcode : m.content.get? "code" = some (.str code))
    (hcursor : m.content.get? "cursor_pos" = some (.nat cursor) ∧ cursor < 0x10000000000000000)
    (hstorable : Storable code) :
    downgrade identifierAt m = .error .overflow ↔
      m.content.reportsError = false ∧ (∃ detail, m.content.get? "detail_level" = some detail) ∧
        LeavesWords code cursor := by
  have hcross : Crossing identifierAt "inspect_request" _ _ := .inspectRequest
  cases he : m.content.reportsError with
  | true =>
    rw [downgrade_eq, downgradeContent, RewriteTable.convert_of_reportsError _ _ he]
    simp
  | false =>
    rw [hcross.downgrade_eq_error_iff ht he, and_iff_right rfl]
    simp only [FieldError.within_eq_overflow_iff, exists_eq_right,
      Downgrade.objectInfoRequest_eq_overflow_iff, Downgrade.Overflows,
      Downgrade.inspected_eq_ok_iff]
    constructor
    · rintro ⟨code', cursor', detail, ⟨hcode', hcursor', hdetail⟩, hinexact⟩
      cases hcode.symm.trans hcode'
      cases hcursor.1.symm.trans hcursor'.1
      exact ⟨⟨detail, hdetail⟩, (identifierAt_inexact_iff hstorable hcursor.2).mp hinexact⟩
    · rintro ⟨⟨detail, hdetail⟩, hleaves⟩
      exact ⟨code, cursor, detail, ⟨hcode, hcursor, hdetail⟩,
        (identifierAt_inexact_iff hstorable hcursor.2).mpr hleaves⟩

/-- While a request goes down every sum and difference is exact but one, for a token at the start of a
line with the greatest cursor. There the request to inspect breaks off; anywhere else it names the
identifier under the cursor, and a request to complete is always delivered. -/
theorem request_overflows_iff (hcode : m.content.requiredString "code" = .ok code)
    (hcursor : m.content.requiredCursor "cursor_pos" = .ok cursor) (hstorable : Storable code) :
    lineAt code cursor = pure (Code.lineAt code cursor) ∧
    ((identifierAt code cursor).exact = false ↔ LeavesWords code cursor) ∧
    (m.msgType = "complete_request" → m.content.reportsError = false →
      downgrade identifierAt m = .ok (m.restamp none "complete_request"
        (lineRequest (Code.lineAt code cursor).1 (Code.lineAt code cursor).2))) ∧
    (m.msgType = "inspect_request" →
      (downgrade identifierAt m = .error .overflow ↔
        m.content.reportsError = false ∧ (∃ detail, m.content.get? "detail_level" = some detail) ∧
          LeavesWords code cursor) ∧
      ∀ detail, m.content.reportsError = false → m.content.get? "detail_level" = some detail →
        ¬LeavesWords code cursor →
        downgrade identifierAt m = .ok (m.restamp none "object_info_request" (.ofList
          [("oname", .str (Code.identifierAt code cursor)), ("detail_level", detail)]))) := by
  have hget := Object.requiredString_eq_ok_iff.mp hcode
  have hpos := Object.requiredCursor_eq_ok_iff.mp hcursor
  refine ⟨lineAt_eq hstorable hpos.2, identifierAt_inexact_iff hstorable hpos.2,
    fun ht he => downgrade_codeRequest ht he hget hpos.1 hpos.2,
    fun ht => ⟨downgrade_inspectRequest_eq_overflow_iff ht hget hpos hstorable, ?_⟩⟩
  intro detail he hdetail hwithin
  exact downgrade_inspectRequest ht he hget hpos hdetail
    (identifierAt_eq_of_not_leavesWords hstorable hpos.2 hwithin)

/-- A request to inspect a code. -/
def inspecting (code : String) (cursor : Nat) : Message :=
  .new ⟨"inspect_request", some "5.0", []⟩
    (.ofList [("code", .str code), ("cursor_pos", .nat cursor), ("detail_level", .nat 0)])

/-- Behind blanks the greatest cursor is a cursor past the end. -/
theorem request_overflows_iff_indented :
    (inspecting " f(\n x" 0xffffffffffffffff).content.requiredString "code" = .ok " f(\n x" ∧
      (inspecting " f(\n x" 0xffffffffffffffff).content.requiredCursor "cursor_pos" =
        .ok 0xffffffffffffffff ∧
      Storable " f(\n x" ∧
      downgrade identifierAt (inspecting " f(\n x" 0xffffffffffffffff) =
        .ok (.new (.new "object_info_request")
          (.ofList [("oname", .str "f"), ("detail_level", .nat 0)])) := by
  have hcode : (inspecting " f(\n x" 0xffffffffffffffff).content.requiredString "code" =
      .ok " f(\n x" := by decide
  have hcursor : (inspecting " f(\n x" 0xffffffffffffffff).content.requiredCursor "cursor_pos" =
      .ok 0xffffffffffffffff := by decide
  have hstorable : Storable " f(\n x" := by decide
  have hwithin : ¬LeavesWords " f(\n x" 0xffffffffffffffff := by
    rintro ⟨_, hline⟩
    exact absurd hline (by decide)
  have hname : Code.identifierAt " f(\n x" 0xffffffffffffffff = "f" := by decide
  have hanswer := ((request_overflows_iff hcode hcursor hstorable).2.2.2 rfl).2 (.nat 0)
    (by decide) rfl hwithin
  rw [hname] at hanswer
  exact ⟨hcode, hcursor, hstorable, hanswer⟩

/-- The name stands at the start of its line, so the boundary is one step behind the greatest word. -/
theorem not_always_answered :
    ¬∀ (m : Message) (code : String) (cursor : Nat), m.msgType = "inspect_request" →
      m.content.requiredString "code" = .ok code →
      m.content.requiredCursor "cursor_pos" = .ok cursor → Storable code →
        downgrade identifierAt m ≠ .error .overflow := by
  intro h
  have hname := h (inspecting "foo" 0xffffffffffffffff) "foo" 0xffffffffffffffff rfl (by decide)
    (by decide) (by decide)
  exact hname (by rfl)

end Request

end KernelBridge.Code.Machine
