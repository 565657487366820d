import KernelBridge.Proofs.Answers
import KernelBridge.Proofs.Lossless
import KernelBridge.Proofs.Parentheses

/-! # Object names that come back

An object's name goes up as a code with the cursor at its end. Scanning the code finds the parts of the
name and the dots between them and nothing else, and reading these joins the parts again. So a request
for an object comes back from version 5 as it was.
-/
namespace KernelBridge.Code
open Token

/-- The text of a dotted name. -/
def joined (d : DottedName) : List Char := ['.'].intercalate d

section Joined
variable {c : Char} {cs rest part : List Char} {d : DottedName} {pos : Nat}

theorem joined_singleton (part : List Char) : joined [part] = part := by
  simp [joined, List.intercalate]

theorem joined_cons (hd : d ≠ []) (part : List Char) :
    joined (part :: d) = part ++ '.' :: joined d := by
  cases d with
  | nil => exact absurd rfl hd
  | cons next d => simp [joined, List.intercalate, List.intersperse]

theorem spelling_cons (hd : d ≠ []) (part : List Char) :
    spelling (part :: d) = .name part :: dot :: spelling d := by
  cases d with
  | nil => exact absurd rfl hd
  | cons next d => rfl

/-- An identifier is scanned whole if neither a character of a name nor a quote follows. -/
theorem scan_identifier (hc : isNameStart c = true) (hcs : ∀ x ∈ cs, isNameChar x = true)
    (hname : ∀ x, rest.head? = some x → isNameChar x = false)
    (hquote : ∀ x, rest.head? = some x → isQuote x = false) :
    scan c (cs ++ rest) = (.name (c :: cs), cs.length + 1) := by
  rw [scan_word hc, takeWhile_append hcs hname, dropWhile_append hcs hname]
  refine scanWord_of_noString fun q _ hrest hq => ?_
  rw [hquote q (by rw [hrest, List.head?_cons])] at hq
  cases hq

/-- A dot in front of a name is no part of a longer operator. -/
theorem scan_dot (hc : isNameStart c = true) (cs : List Char) : scan '.' (c :: cs) = (dot, 1) := by
  have hdot : c ≠ '.' := ne_of_class hc (by decide)
  have hlength : opLength ('.' :: c :: cs) = 1 := by
    simp [opLength, threeCharOps, twoCharOps, hdot]
  rw [scan_op (by decide) (by decide) (by decide) (by decide) (by decide), hlength]
  rfl

theorem exists_joined (h : IsIdentifier part) (d : DottedName) :
    ∃ c cs, isNameStart c = true ∧ joined (part :: d) = c :: cs := by
  cases h with
  | @mk c cs hc _ _ =>
    cases d with
    | nil => exact ⟨c, cs, hc, joined_singleton _⟩
    | cons next d => exact ⟨c, _, hc, joined_cons (List.cons_ne_nil _ _) _⟩

/-- The code of a dotted name has the lexemes of that name. -/
theorem lexemes_joined (hd : ∀ part ∈ d, IsIdentifier part) (pos : Nat) :
    (lexFrom pos 0 (joined d)).map Token.lexeme = spelling d := by
  induction d generalizing pos with
  | nil => rfl
  | cons part d ih =>
    obtain ⟨hpart, hrest⟩ := List.forall_mem_cons.mp hd
    cases hpart with
    | @mk c cs hc hcs _ =>
      have hblank := not_isBlank_of_isNameStart hc
      cases d with
      | nil =>
        have hscan : scan c (cs ++ []) = (.name (c :: cs), cs.length + 1) :=
          scan_identifier hc hcs (by simp) (by simp)
        rw [joined_singleton, ← List.append_nil cs, lexFrom_cons_append hblank hscan, lexFrom_nil,
          List.append_nil]
        rfl
      | cons next d =>
        have hscan : scan c (cs ++ '.' :: joined (next :: d)) = (.name (c :: cs), cs.length + 1) :=
          scan_identifier hc hcs (by simp; decide) (by simp; decide)
        obtain ⟨e, es, he, hjoined⟩ := exists_joined (hrest next List.mem_cons_self) d
        have hdot : scan '.' ([] ++ joined (next :: d)) = (dot, 1) := by
          rw [List.nil_append, hjoined, scan_dot he]
        have hbehind := lexFrom_cons_append (by decide) hdot (pos + (cs.length + 1))
        rw [List.nil_append] at hbehind
        rw [joined_cons (List.cons_ne_nil _ _), List.cons_append,
          lexFrom_cons_append hblank hscan, hbehind, List.map_cons, List.map_cons, ih hrest,
          spelling_cons (List.cons_ne_nil _ _)]

/-- Reading the lexemes of a dotted name joins its parts. -/
theorem readAll_spelling (hne : d ≠ []) (hd : ∀ part ∈ d, part ∉ keywords) {ts : List Token}
    (hts : ts.map Token.lexeme = spelling d) : readAll .empty false ts = ⟨[d], []⟩ := by
  induction d using List.reverseRecOn generalizing ts with
  | nil => exact absurd rfl hne
  | append_singleton d text ih =>
    obtain ⟨hfront, htext⟩ := List.forall_mem_append.mp hd
    have htext : text ∉ keywords := htext text List.mem_cons_self
    by_cases hempty : d = []
    · subst hempty
      obtain ⟨t, rfl, ht⟩ := List.map_eq_singleton_iff.mp hts
      rw [readAll, readAll, ht]
      exact (Reads.name htext (Or.inl rfl)).eq_read
    · rw [spelling_append hempty] at hts
      obtain ⟨us, vs, rfl, hus, hvs⟩ := List.map_eq_append_iff.mp hts
      obtain ⟨t, ws, rfl, ht, hws⟩ := List.map_eq_cons_iff.mp hvs
      obtain ⟨u, rfl, hu⟩ := List.map_eq_singleton_iff.mp hws
      obtain ⟨behindDot, hread⟩ := exists_readAll_append .empty false us [t, u]
      rw [hread, ih hempty hfront hus, readAll, readAll, readAll, ht, hu]
      exact (Reads.joined htext).eq_read

theorem IsIdentifier.not_keyword (h : IsIdentifier part) : part ∉ keywords := by
  cases h with
  | mk _ _ hkeyword => exact hkeyword

/-- The identifier at the end of a dotted name is that name. -/
theorem identifierAt_joined (hd : ∀ part ∈ d, IsIdentifier part) {cursor : Nat}
    (hcursor : (joined d).length ≤ cursor) :
    identifierAt (String.ofList (joined d)) cursor = String.ofList (joined d) := by
  rw [identifierAt_eq, String.toList_ofList, counted_past_end hcursor]
  by_cases hne : d = []
  · subst hne
    rfl
  · have hkeyword : ∀ part ∈ d, part ∉ keywords := fun part hpart => (hd part hpart).not_keyword
    rw [lex, readAll_spelling hne hkeyword (lexemes_joined hd 0)]
    rfl

/-- The same with words, since the cursor at the end of a code is not the greatest one. -/
theorem machine_identifierAt_joined (hd : ∀ part ∈ d, IsIdentifier part)
    (hname : Machine.Storable (String.ofList (joined d))) :
    Machine.identifierAt (String.ofList (joined d)) (String.ofList (joined d)).length =
      pure (String.ofList (joined d)) := by
  have hlength := hname.length_lt
  rw [Machine.identifierAt_eq hname (by omega),
    identifierAt_joined hd (Nat.le_of_eq (by rw [String.length_ofList]))]

end Joined

end KernelBridge.Code

namespace KernelBridge.Protocol
open Json Outcome
variable {resolve : Downgrade.Resolver} {name : String} {detail : Value}

/-- What a request for an object asks for. -/
def objectRequest (name : String) (detail : Value) : Object :=
  .ofList [("oname", .str name), ("detail_level", detail)]

/-- What it asks version 5 for: the object at the end of the name. -/
def nameInspection (name : String) (detail : Value) : Object :=
  .ofList [("code", .str name), ("cursor_pos", .nat name.length), ("detail_level", detail)]

theorem get?_objectRequest (name : String) (detail : Value) (k : String) :
    (objectRequest name detail).get? k =
      if k = "detail_level" then some detail else if k = "oname" then some (.str name) else none := by
  simp [objectRequest, Assoc.get?_ofList, Assoc.get?_cons]

theorem get?_nameInspection (name : String) (detail : Value) (k : String) :
    (nameInspection name detail).get? k =
      if k = "detail_level" then some detail
      else if k = "cursor_pos" then some (.nat name.length)
      else if k = "code" then some (.str name) else none := by
  simp [nameInspection, Assoc.get?_ofList, Assoc.get?_cons]

theorem upgradeContent_objectRequest (hlength : name.length < 0x10000000000000000)
    (detail : Value) :
    upgradeContent "inspect_request" (objectRequest name detail) =
      .ok (nameInspection name detail) := by
  have hcross : Crossing Code.Machine.identifierAt "inspect_request" _ _ := .inspectRequest
  have hplain : (objectRequest name detail).reportsError = false := by
    simp [Object.reportsError, Object.text?, get?_objectRequest]
  have hup := Upgrade.inspectRequest_eq_ok_iff.mpr
    ⟨name, detail, get?_objectRequest name detail "oname",
      get?_objectRequest name detail "detail_level", rfl⟩
  rw [Word.Computed.ofCount_eq_self hlength] at hup
  exact (hcross.upgradeContent_eq hplain).trans (mapError_eq_ok_iff.mpr hup)

/-- A name is given back if it is found at the end of the code that it has become. -/
theorem downgradeContent_nameInspection (hlength : name.length < 0x10000000000000000)
    (hresolve : resolve name name.length = pure name) (detail : Value) :
    downgradeContent resolve "inspect_request" (nameInspection name detail) =
      .ok (objectRequest name detail) := by
  have hcross : Crossing resolve "inspect_request" _ _ := .inspectRequest
  have hget := get?_nameInspection name detail
  have hplain : (nameInspection name detail).reportsError = false := by
    simp [Object.reportsError, Object.text?, hget]
  have hdown := Downgrade.objectInfoRequest_eq_ok_iff.mpr
    ⟨name, name.length, detail, name, hget "code", ⟨hget "cursor_pos", hlength⟩,
      hget "detail_level", hresolve, rfl⟩
  exact (hcross.downgradeContent_eq hplain).trans (mapError_eq_ok_iff.mpr hdown)

/-- A request for an object with a dotted name or with no name goes up as a request to inspect the name
at its end, and comes back from there with the same name and level of detail. A machine can hold the
name, so the cursor behind it is a word. -/
theorem object_request_returns {d : Code.DottedName} (hd : ∀ part ∈ d, Code.IsIdentifier part)
    (hname : Code.Machine.Storable (String.ofList (Code.joined d))) (detail : Value) {m : Message}
    (ht : m.msgType = "object_info_request")
    (hcontent : m.content = objectRequest (String.ofList (Code.joined d)) detail) :
    upgrade m = .ok (m.restamp (some Version.currentText) "inspect_request"
      (nameInspection (String.ofList (Code.joined d)) detail)) ∧
    (upgrade m >>= downgrade Code.Machine.identifierAt) = .ok (m.setVersion none) := by
  have hcurrent : m.msgType ∉ currentNames := by
    rw [ht]
    decide
  have hrenamed : upgradeRenames.apply m.msgType = "inspect_request" := by
    rw [ht]
    decide
  have hlength : (String.ofList (Code.joined d)).length < 0x10000000000000000 := by
    have hshort := hname.length_lt
    omega
  have hup := upgradeContent_objectRequest hlength detail
  have hdown := downgradeContent_nameInspection hlength
    (Code.machine_identifierAt_joined hd hname) detail
  constructor
  · rw [upgrade_eq, hrenamed, hcontent, hup, map_ok]
  · rw [upgrade_bind_downgrade _ hcurrent, hrenamed, hcontent, hup, ok_bind, hdown, map_ok,
      ← hcontent, Message.restamp_self]

/-- A part that could stand in front of a string, and one with a letter outside of ASCII. -/
def prefixedName : Code.DottedName := [['r', 'b'], ['é', '1']]

theorem object_request_returns_prefixed :
    (∀ part ∈ prefixedName, Code.IsIdentifier part) ∧
      Code.Machine.Storable (String.ofList (Code.joined prefixedName)) ∧
      ∀ detail, (upgrade (.new (.new "object_info_request") (objectRequest "rb.é1" detail)) =
          .ok (.new ⟨"inspect_request", some "5.0", []⟩ (nameInspection "rb.é1" detail))) ∧
        (upgrade (.new (.new "object_info_request") (objectRequest "rb.é1" detail)) >>=
          downgrade Code.Machine.identifierAt) =
        .ok (.new (.new "object_info_request") (objectRequest "rb.é1" detail)) := by
  have hparts : ∀ part ∈ prefixedName, Code.IsIdentifier part := by
    simp only [prefixedName, List.forall_mem_cons]
    refine ⟨.mk (by decide) ?_ (by decide), .mk (by decide) ?_ (by decide), by simp⟩
    · simp
      decide
    · simp
      decide
  have hname : Code.Machine.Storable (String.ofList (Code.joined prefixedName)) := by decide
  exact ⟨hparts, hname, fun detail => object_request_returns hparts hname detail rfl rfl⟩

end KernelBridge.Protocol
