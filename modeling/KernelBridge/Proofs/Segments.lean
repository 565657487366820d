import KernelBridge.Proofs.DecimalForm
import KernelBridge.Version

/-! # Dotted versions as lists of numbers

A list of 64-bit numbers survives the way into a dotted text and back. The other way a text becomes
its normal form, which keeps the segments that are such numbers, white space around them aside, in
their canonical form: `normalization`.
-/
namespace KernelBridge
open Decimal

namespace Unicode
variable {before after cs : List Char}

theorem isWhiteSpace_of_isDigit {c : Char} (h : c.isDigit = true) : isWhiteSpace c = false := by
  obtain ⟨hleast, hgreatest⟩ := toNat_of_isDigit h
  have hlist : ∀ k < 58, 48 ≤ k → whiteSpaceRanges.coversCode k = false := by decide
  exact hlist c.toNat (by omega) hleast

theorem dropWhile_isWhiteSpace (hcs : ∀ c ∈ cs, isWhiteSpace c = false)
    (ha : ∀ c ∈ after, isWhiteSpace c = true) :
    (cs ++ after).dropWhile isWhiteSpace = if cs = [] then [] else cs ++ after := by
  cases cs with
  | nil =>
    have hall : (after ++ []).dropWhile isWhiteSpace = List.dropWhile isWhiteSpace [] :=
      List.dropWhile_append_of_pos ha
    rwa [List.append_nil, List.dropWhile_nil] at hall
  | cons c cs =>
    have hc := hcs c List.mem_cons_self
    rw [List.cons_append, List.dropWhile_cons_of_neg (by simp [hc]), if_neg (List.cons_ne_nil c cs)]

theorem trim_append (hb : ∀ c ∈ before, isWhiteSpace c = true)
    (hcs : ∀ c ∈ cs, isWhiteSpace c = false) (ha : ∀ c ∈ after, isWhiteSpace c = true) :
    trim (before ++ (cs ++ after)) = cs := by
  unfold trim
  rw [List.dropWhile_append_of_pos hb, dropWhile_isWhiteSpace hcs ha]
  split
  · next hnil => simp [hnil]
  · next hne =>
    have hreverse : ∀ c ∈ cs.reverse, isWhiteSpace c = false := by simpa using hcs
    have hafter : ∀ c ∈ after.reverse, isWhiteSpace c = true := by simpa using ha
    have hrest : cs.reverse.dropWhile isWhiteSpace = cs.reverse := by
      have hnothing : ∀ c ∈ ([] : List Char), isWhiteSpace c = true := by simp
      have hdrop := dropWhile_isWhiteSpace hreverse hnothing
      rwa [List.append_nil, if_neg (by simpa using hne)] at hdrop
    rw [List.reverse_append, List.dropWhile_append_of_pos hafter, hrest, List.reverse_reverse]

/-- Trimming takes white space away and nothing else. -/
theorem exists_append_trim (cs : List Char) :
    ∃ before after, (∀ c ∈ before, isWhiteSpace c = true) ∧ (∀ c ∈ after, isWhiteSpace c = true) ∧
      before ++ (trim cs ++ after) = cs := by
  have hall (l : List Char) : ∀ c ∈ l.takeWhile isWhiteSpace, isWhiteSpace c = true :=
    List.all_eq_true.mp List.all_takeWhile
  refine ⟨cs.takeWhile isWhiteSpace,
    ((cs.dropWhile isWhiteSpace).reverse.takeWhile isWhiteSpace).reverse, hall cs, ?_, ?_⟩
  · intro c hc
    exact hall _ c (List.mem_reverse.mp hc)
  · unfold trim
    rw [← List.reverse_append, List.takeWhile_append_dropWhile, List.reverse_reverse,
      List.takeWhile_append_dropWhile]

end Unicode

namespace Version
open Unicode
variable {part cs : List Char} {n : Int}

theorem isWhiteSpace_of_signed (h : Signed cs n) : ∀ c ∈ cs, isWhiteSpace c = false := by
  have hsign : isWhiteSpace '+' = false ∧ isWhiteSpace '-' = false := by decide
  intro c hc
  cases h with
  | plain h => exact isWhiteSpace_of_isDigit (h.isDigit c hc)
  | plus h =>
    rcases List.mem_cons.mp hc with rfl | hc
    · exact hsign.1
    · exact isWhiteSpace_of_isDigit (h.isDigit c hc)
  | minus h =>
    rcases List.mem_cons.mp hc with rfl | hc
    · exact hsign.2
    · exact isWhiteSpace_of_isDigit (h.isDigit c hc)

/-- A segment that counts: between white space a number of 64 bits with a sign or none. -/
inductive Numeric : List Char → Int → Prop
  | intro {before cs after : List Char} {n : Int} (hb : ∀ c ∈ before, isWhiteSpace c = true)
      (h : Signed cs n) (ha : ∀ c ∈ after, isWhiteSpace c = true)
      (hfits : Word.fitsInt64 n = true) : Numeric (before ++ (cs ++ after)) n

theorem segment?_eq_some_iff : segment? part = some n ↔ Numeric part n := by
  rw [segment?, Option.filter_eq_some_iff, integer?_eq_some_iff]
  constructor
  · rintro ⟨hsigned, hfits⟩
    obtain ⟨before, after, hb, ha, hpart⟩ := exists_append_trim part
    rw [← hpart]
    exact .intro hb hsigned ha hfits
  · intro h
    cases h with
    | intro hb h ha hfits =>
      rw [trim_append hb (isWhiteSpace_of_signed h) ha]
      exact ⟨h, hfits⟩

theorem signed_intText (n : Int) : Signed (intText n) n :=
  integer?_eq_some_iff.mp (integer?_intText n)

theorem segment?_intText (hfits : Word.fitsInt64 n = true) : segment? (intText n) = some n := by
  have hnothing : ∀ c ∈ ([] : List Char), isWhiteSpace c = true := by simp
  have h : Numeric ([] ++ (intText n ++ [])) n :=
    .intro hnothing (signed_intText n) hnothing hfits
  rw [List.nil_append, List.append_nil] at h
  exact segment?_eq_some_iff.mpr h

theorem filterMap_segment?_intText {ns : List Int} (h : ∀ n ∈ ns, Word.fitsInt64 n = true) :
    (ns.map intText).filterMap segment? = ns := by
  induction ns with
  | nil => rfl
  | cons n ns ih =>
    have hn := segment?_intText (h n List.mem_cons_self)
    rw [List.map_cons, List.filterMap_cons_some hn, ih fun m hm => h m (List.mem_cons_of_mem n hm)]

theorem dot_not_mem_intText (n : Int) : '.' ∉ intText n := by
  intro h
  rcases (canonical_intText n).isDigit '.' h with h | h
  · cases h
  · cases h

/-- The segments of a dotted text are the forms of the numbers it was made of. -/
theorem splitOn_ofSegments {ns : List Int} (hne : ns ≠ []) :
    (ofSegments ns).toList.splitOn '.' = ns.map intText := by
  have hdots : ∀ cs ∈ ns.map intText, '.' ∉ cs := by
    intro cs hcs
    obtain ⟨n, _, rfl⟩ := List.mem_map.mp hcs
    exact dot_not_mem_intText n
  rw [ofSegments, String.toList_ofList]
  exact List.splitOn_intercalate '.' hdots (by simpa using hne)

/-- A list without numbers is written as the empty text, which has one segment, an empty one. -/
theorem segments_ofSegments {ns : List Int} (h : ∀ n ∈ ns, Word.fitsInt64 n = true) :
    segments (ofSegments ns) = ns := by
  cases ns with
  | nil => decide
  | cons n ns =>
    rw [segments, splitOn_ofSegments (List.cons_ne_nil n ns), filterMap_segment?_intText h]

theorem fitsInt64_of_mem_segments {version : String} (h : n ∈ segments version) :
    Word.fitsInt64 n = true := by
  obtain ⟨part, _, hpart⟩ := List.mem_filterMap.mp h
  cases segment?_eq_some_iff.mp hpart with
  | intro _ _ _ hfits => exact hfits

/-- The dotted text of the numbers in a dotted text. -/
def normalize (version : String) : String := ofSegments (segments version)

/-- The canonical forms of the segments that count, in their order. -/
inductive Kept : List (List Char) → List (List Char) → Prop
  | nil : Kept [] []
  | number {part form : List Char} {parts forms : List (List Char)} {n : Int}
      (hpart : Numeric part n) (hform : Canonical form n) (rest : Kept parts forms) :
      Kept (part :: parts) (form :: forms)
  | other {part : List Char} {parts forms : List (List Char)} (hpart : ∀ n, ¬Numeric part n)
      (rest : Kept parts forms) : Kept (part :: parts) forms

/-- Every list of segments has exactly one list of such forms. -/
theorem kept_iff {parts forms : List (List Char)} :
    Kept parts forms ↔ forms = (parts.filterMap segment?).map intText := by
  constructor
  · intro h
    induction h with
    | nil => rfl
    | number hpart hform _ ih =>
      rw [List.filterMap_cons_some (segment?_eq_some_iff.mpr hpart), List.map_cons, ← ih,
        canonical_iff.mp hform]
    | other hpart _ ih =>
      have hnone := Option.eq_none_iff_forall_ne_some.mpr fun n hn =>
        hpart n (segment?_eq_some_iff.mp hn)
      rw [List.filterMap_cons_none hnone, ih]
  · rintro rfl
    induction parts with
    | nil => exact .nil
    | cons part parts ih =>
      cases hpart : segment? part with
      | none =>
        rw [List.filterMap_cons_none hpart]
        refine .other ?_ ih
        intro n hn
        rw [segment?_eq_some_iff.mpr hn] at hpart
        cases hpart
      | some n =>
        rw [List.filterMap_cons_some hpart, List.map_cons]
        exact .number (segment?_eq_some_iff.mp hpart) (canonical_intText n) ih

theorem normalize_normalize (version : String) : normalize (normalize version) = normalize version := by
  have h : segments (normalize version) = segments version :=
    segments_ofSegments fun n hn => fitsInt64_of_mem_segments hn
  rw [normalize, h, normalize]

/-- Texts whose segments are canonical are texts of lists of numbers. -/
theorem exists_map_intText {parts : List (List Char)}
    (h : ∀ part ∈ parts, ∃ n, Canonical part n ∧ Word.fitsInt64 n = true) :
    ∃ ns : List Int, (∀ n ∈ ns, Word.fitsInt64 n = true) ∧ parts = ns.map intText := by
  induction parts with
  | nil => exact ⟨[], by simp, rfl⟩
  | cons part parts ih =>
    obtain ⟨n, hpart, hfits⟩ := h part List.mem_cons_self
    obtain ⟨ns, hall, rfl⟩ := ih fun p hp => h p (List.mem_cons_of_mem part hp)
    refine ⟨n :: ns, ?_, ?_⟩
    · intro m hm
      rcases List.mem_cons.mp hm with rfl | hm
      · exact hfits
      · exact hall m hm
    · rw [List.map_cons, canonical_iff.mp hpart]

theorem normalize_eq_self_iff {version : String} :
    normalize version = version ↔
      version = "" ∨ ∀ part ∈ version.toList.splitOn '.',
        ∃ n, Canonical part n ∧ Word.fitsInt64 n = true := by
  constructor
  · intro h
    cases hsegments : segments version with
    | nil =>
      rw [normalize, hsegments, ofSegments_nil] at h
      exact Or.inl h.symm
    | cons n ns =>
      refine Or.inr fun part hpart => ?_
      rw [← h, normalize, hsegments, splitOn_ofSegments (List.cons_ne_nil n ns)] at hpart
      obtain ⟨m, hm, rfl⟩ := List.mem_map.mp hpart
      rw [← hsegments] at hm
      exact ⟨m, canonical_intText m, fitsInt64_of_mem_segments hm⟩
  · rintro (rfl | h)
    · decide
    · obtain ⟨ns, hfits, hparts⟩ := exists_map_intText h
      rw [normalize, segments, hparts, filterMap_segment?_intText hfits, ofSegments, ← hparts,
        List.intercalate_splitOn, String.ofList_toList]

/-- What normalizing keeps, that once is enough, and which texts it leaves as they are. -/
theorem normalization (version : String) :
    (∃ forms, (∀ others, Kept (version.toList.splitOn '.') others ↔ others = forms) ∧
      normalize version = String.ofList (['.'].intercalate forms)) ∧
    normalize (normalize version) = normalize version ∧
    (normalize version = version ↔
      version = "" ∨ ∀ part ∈ version.toList.splitOn '.',
        ∃ n, Canonical part n ∧ Word.fitsInt64 n = true) := by
  refine ⟨?_, normalize_normalize version, normalize_eq_self_iff⟩
  exact ⟨(segments version).map intText, fun others => kept_iff, rfl⟩

example : normalize " +05.x.-0..9223372036854775808" = "5.0" := by decide

end Version

end KernelBridge
