import KernelBridge.Proofs.Exactness
import KernelBridge.Proofs.Spelling

/-! # What answers are made of

An answer is empty or joined from identifiers, and each of these stands in the code as a token of its
own that the cursor has reached. That holds of whatever tokens are read.
-/
namespace KernelBridge.Code
open Token

/-- A text that is one identifier. -/
inductive IsIdentifier : List Char → Prop
  | mk {c : Char} {cs : List Char} (hstart : isNameStart c = true)
      (hrest : ∀ d ∈ cs, isNameChar d = true) (hkeyword : c :: cs ∉ keywords) :
      IsIdentifier (c :: cs)

/-- A name of a code, with the span that its text fills. -/
structure NameAt (code : List Char) (t : Token) (text : List Char) : Prop where
  mem : t ∈ lex code
  lexeme : t.lexeme = .name text
  text_eq : (code.drop t.start).take (t.stop - t.start) = text

/-- Nothing, or identifiers joined by dots that are names of the code up to the cursor. -/
def WellFormed (code : String) (cursor : Nat) (answer : String) : Prop :=
  answer = "" ∨ ∃ d : DottedName, d ≠ [] ∧ answer = String.ofList (['.'].intercalate d) ∧
    ∀ part ∈ d, IsIdentifier part ∧ ∃ t, NameAt code.toList t part ∧ t.start ≤ cursor

section Answers
variable {code : List Char} {t : Token} {ts : List Token} {text : List Char}

/-- What has been scanned as a name is one, and it ends where its characters do. -/
theorem nameAt_of_mem (h : t ∈ lex code) (ht : t.lexeme = .name text) : NameAt code t text := by
  obtain ⟨before, c, rest, hcode, _, rfl⟩ := exists_scan_of_mem h
  have hlength := length_of_scan_name ht
  obtain ⟨_, rfl⟩ := eq_of_scan_name ht
  refine ⟨h, ht, ?_⟩
  have hfront : c :: rest.takeWhile isNameChar <+: c :: rest :=
    (List.prefix_cons_inj c).mpr (List.takeWhile_prefix _)
  dsimp only
  rw [hlength, Nat.zero_add, Nat.add_sub_cancel_left, hcode, List.drop_left]
  exact (List.prefix_iff_eq_take.mp hfront).symm

theorem isIdentifier_of_scan {c : Char} {cs : List Char} (h : (scan c cs).1 = .name text)
    (hkeyword : text ∉ keywords) : IsIdentifier text := by
  obtain ⟨hc, rfl⟩ := eq_of_scan_name h
  exact .mk hc (fun d hd => List.all_eq_true.mp List.all_takeWhile d hd) hkeyword

/-- Whatever tokens are read, the answer is made of names among them. -/
theorem wellFormed_readAll {code : String} {cursor : Nat}
    (h : ∀ t ∈ ts, t ∈ lex code.toList ∧ t.start ≤ cursor) :
    WellFormed code cursor (String.ofList (readAll .empty false ts).answer) := by
  rw [Stacks.answer_eq]
  cases htop : (readAll .empty false ts).top with
  | none => exact Or.inl rfl
  | some d =>
    obtain ⟨read, hread, hd⟩ := (sourced_readAll ts).spelled d (Stacks.mem_of_top htop)
    refine Or.inr ⟨d, hd.ne_nil, rfl, fun part hpart => ?_⟩
    obtain ⟨t, ht, hname⟩ := List.mem_map.mp (hread.subset (hd.name_mem hpart))
    obtain ⟨hmem, hstart⟩ := h t ht
    obtain ⟨_, c, rest, _, _, rfl⟩ := exists_scan_of_mem hmem
    exact ⟨isIdentifier_of_scan hname (hd.not_keyword hpart), _, nameAt_of_mem hmem hname, hstart⟩

end Answers

section Cursor
variable {code : String} {cursor : Nat} {t : Token} {ts : List Token}

theorem start_le_of_mem_counted {first : Nat} (h : t ∈ counted first ts cursor) :
    t.start ≤ cursor := by
  have hcounts : Counts first ts cursor t := of_decide_eq_true (List.mem_filter.mp h).2
  rcases hcounts with hlt | ⟨heq, _⟩
  · exact Nat.le_of_lt hlt
  · exact Nat.le_of_eq heq

theorem wellFormed_identifierAt (code : String) (cursor : Nat) :
    WellFormed code cursor (identifierAt code cursor) := by
  rw [identifierAt_eq]
  exact wellFormed_readAll fun t ht => ⟨List.mem_of_mem_filter ht, start_le_of_mem_counted ht⟩

/-- Before the greatest cursor words always give an answer. -/
theorem exists_wellFormed (hcode : Machine.Storable code) (hcursor : cursor < 0xffffffffffffffff) :
    ∃ name, Machine.identifierAt code cursor = pure name ∧ WellFormed code cursor name :=
  ⟨identifierAt code cursor, Machine.identifierAt_eq hcode (by omega),
    wellFormed_identifierAt code cursor⟩

theorem wellFormed_of_eq_pure (hcode : Machine.Storable code)
    (hcursor : cursor < 0x10000000000000000) {name : String}
    (h : Machine.identifierAt code cursor = pure name) : WellFormed code cursor name := by
  rw [Machine.eq_identifierAt_of_eq_pure hcode hcursor h]
  exact wellFormed_identifierAt code cursor

/-- An answer is empty or the dotted identifiers of names that start no later than the cursor. With
words there is such an answer at every cursor but the greatest, and if there is one at that cursor it
is no other. -/
theorem answers_wellFormed (code : String) (cursor : Nat) :
    WellFormed code cursor (identifierAt code cursor) ∧
      (Machine.Storable code → cursor < 0xffffffffffffffff →
        ∃ name, Machine.identifierAt code cursor = pure name ∧ WellFormed code cursor name) ∧
      (Machine.Storable code → cursor < 0x10000000000000000 → ∀ name,
        Machine.identifierAt code cursor = pure name → WellFormed code cursor name) :=
  ⟨wellFormed_identifierAt code cursor, exists_wellFormed,
    fun hcode hcursor _ h => wellFormed_of_eq_pure hcode hcursor h⟩

/-- The attribute joins the name that was copied to the calls before. -/
theorem answers_wellFormed_copied :
    Machine.Storable "os(.path)(" ∧ 10 < 0xffffffffffffffff ∧
      Machine.identifierAt "os(.path)(" 10 = pure "os.path" ∧
      WellFormed "os(.path)(" 10 "os.path" := by
  have hstorable : Machine.Storable "os(.path)(" := by decide
  have hname : Machine.identifierAt "os(.path)(" 10 = pure "os.path" := by decide
  obtain ⟨name, hanswer, hformed⟩ := (answers_wellFormed "os(.path)(" 10).2.1 hstorable (by decide)
  obtain rfl : name = "os.path" := congrArg Word.Computed.value (hanswer.symm.trans hname)
  exact ⟨hstorable, by decide, hname, hformed⟩

end Cursor

end KernelBridge.Code
