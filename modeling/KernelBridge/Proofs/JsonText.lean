import Mathlib.Data.List.TakeDrop
import KernelBridge.Assoc.Ascending
import KernelBridge.Json.Printer
import KernelBridge.Json.Reader
import KernelBridge.Proofs.DecimalForm

/-! # Reading what was printed

A value without floats is read off its compact text: `read_compact`. So is each of its parts, as long
as nothing stands behind it that could belong to a number: `Reads`. Strings are read piece by piece,
arrays and objects item by item.
-/
namespace KernelBridge.Json
open Decimal

namespace Reader
variable {c e : Char} {cs rest : List Char}

/-! ## Strings -/

/-- The piece that is printed for a character. -/
def pieceOf (c : Char) : Piece :=
  if escape? c = none ∧ c.toNat < 32 then .unit c.toNat else .char c

theorem unescape?_of_escape? (h : escape? c = some e) : unescape? e = some c ∧ e ≠ 'u' := by
  unfold escape? at h
  split at h
  all_goals cases h
  all_goals decide

theorem pieces_letter (he : e ≠ 'u') (h : unescape? e = some c) (rest : List Char) :
    pieces ('\\' :: e :: rest) = prepend (.char c) (pieces rest) := by
  rw [pieces, h]
  rintro a b c d rest rfl
  exact absurd rfl he

/-- A control character without a letter is printed as its code with four hexadecimal digits. -/
theorem escapeChar_control (hc : escape? c = none) (h : c.toNat < 32) :
    ∃ a b, escapeChar c = ['\\', 'u', '0', '0', a, b] ∧ codeUnit? '0' '0' a b = some c.toNat := by
  have hcodes : ∀ n < 32, escape? (Char.ofNat n) = none →
      escapeChar (Char.ofNat n) =
        ['\\', 'u', '0', '0', Nat.digitChar (n / 16), Nat.digitChar (n % 16)] ∧
      codeUnit? '0' '0' (Nat.digitChar (n / 16)) (Nat.digitChar (n % 16)) = some n := by decide
  have hcode := hcodes c.toNat h
  rw [Char.ofNat_toNat] at hcode
  exact ⟨_, _, hcode hc⟩

theorem ne_of_escape?_eq_none (h : escape? c = none) : c ≠ '"' ∧ c ≠ '\\' := by
  constructor
  · rintro rfl
    cases h
  · rintro rfl
    cases h

theorem pieces_plain (hc : escape? c = none) (h : ¬c.toNat < 32) (rest : List Char) :
    pieces (c :: rest) = prepend (.char c) (pieces rest) := by
  obtain ⟨hquote, hbackslash⟩ := ne_of_escape?_eq_none hc
  rw [pieces]
  · simp [hbackslash, h]
  · intro hc
    exact absurd hc hquote
  · rintro a b c d rest hc
    exact absurd hc hbackslash
  · rintro e rest hc
    exact absurd hc hbackslash

theorem pieces_escapeChar (c : Char) (rest : List Char) :
    pieces (escapeChar c ++ rest) = prepend (pieceOf c) (pieces rest) := by
  cases hc : escape? c with
  | some e =>
    obtain ⟨hletter, he⟩ := unescape?_of_escape? hc
    have htext : escapeChar c = ['\\', e] := by rw [escapeChar, hc]
    rw [htext, pieceOf, if_neg (by simp [hc])]
    exact pieces_letter he hletter rest
  | none =>
    by_cases hcontrol : c.toNat < 32
    · obtain ⟨a, b, htext, hcode⟩ := escapeChar_control hc hcontrol
      rw [htext, pieceOf, if_pos ⟨hc, hcontrol⟩]
      change pieces ('\\' :: 'u' :: '0' :: '0' :: a :: b :: rest) = _
      rw [pieces, hcode]
    · have htext : escapeChar c = [c] := by
        rw [escapeChar, hc]
        simp only [hcontrol, if_false]
        rw [if_neg (by omega)]
      rw [htext, pieceOf, if_neg fun h => hcontrol h.2]
      exact pieces_plain hc hcontrol rest

theorem pieces_flatMap (cs rest : List Char) :
    pieces (cs.flatMap escapeChar ++ '"' :: rest) = some (cs.map pieceOf, rest) := by
  induction cs with
  | nil => rw [List.flatMap_nil, List.nil_append, pieces, List.map_nil]
  | cons c cs ih =>
    rw [List.flatMap_cons, List.append_assoc, pieces_escapeChar, ih]
    rfl

theorem joinUnits_unit {n : Nat} (hhigh : isHighSurrogate n = false)
    (hlow : isLowSurrogate n = false) (ps : List Piece) :
    joinUnits (.unit n :: ps) = (joinUnits ps).map (Char.ofNat n :: ·) := by
  cases ps with
  | nil => simp [joinUnits, hhigh, hlow]
  | cons p ps => cases p <;> simp [joinUnits, hhigh, hlow]

/-- No control character is half of a surrogate pair. -/
theorem joinUnits_pieceOf (c : Char) (ps : List Piece) :
    joinUnits (pieceOf c :: ps) = (joinUnits ps).map (c :: ·) := by
  unfold pieceOf
  split
  · next h =>
    have hhigh : isHighSurrogate c.toNat = false := by
      unfold isHighSurrogate
      simp
      omega
    have hlow : isLowSurrogate c.toNat = false := by
      unfold isLowSurrogate
      simp
      omega
    rw [joinUnits_unit hhigh hlow, Char.ofNat_toNat]
  · rw [joinUnits]

theorem joinUnits_map_pieceOf (cs : List Char) : joinUnits (cs.map pieceOf) = some cs := by
  induction cs with
  | nil => rfl
  | cons c cs ih => rw [List.map_cons, joinUnits_pieceOf, ih, Option.map_some]

/-- A string is read off its text behind the opening quote. -/
theorem string_stringChars (s : String) (rest : List Char) :
    string (s.toList.flatMap escapeChar ++ '"' :: rest) = some (s, rest) := by
  rw [string, pieces_flatMap]
  simp only [joinUnits_map_pieceOf, Option.map_some, String.ofList_toList]

/-! ## Numbers -/

/-- Nothing stands in front that could belong to the number before it. -/
def Stops (rest : List Char) : Prop :=
  ∀ c, rest.head? = some c → c.isDigit = false ∧ c ≠ '.' ∧ c ≠ 'e' ∧ c ≠ 'E'

theorem stops_nil : Stops [] := by simp [Stops]

theorem splitDigits_append (hcs : ∀ c ∈ cs, c.isDigit = true) (hrest : Stops rest) :
    Numeral.splitDigits (cs ++ rest) = (cs, rest) := by
  unfold Numeral.splitDigits
  rw [List.span_eq_takeWhile_dropWhile, List.takeWhile_append_of_pos hcs,
    List.dropWhile_append_of_pos hcs]
  cases rest with
  | nil => simp
  | cons c rest =>
    obtain ⟨hc, _⟩ := hrest c rfl
    rw [List.takeWhile_cons_of_neg (by simp [hc]), List.dropWhile_cons_of_neg (by simp [hc]),
      List.append_nil]

theorem readWhole_natText (n : Nat) (hrest : Stops rest) :
    Numeral.readWhole (natText n ++ rest) = some (natText n, rest) := by
  unfold Numeral.readWhole
  rw [splitDigits_append (digits_natText n).isDigit hrest]
  split
  · next h => exact absurd (Prod.mk.inj h).1 (natText_ne_nil n)
  · next d cs _ h =>
    -- Only zero has a text that begins with a zero, and nothing follows there.
    have htext := (Prod.mk.inj h).1
    rcases Nat.eq_zero_or_pos n with rfl | hn
    · cases htext
    · exact absurd htext (natText_head_ne_zero hn _)
  · rfl

theorem readFraction_of_stops (hrest : Stops rest) :
    Numeral.readFraction rest = some (none, rest) := by
  unfold Numeral.readFraction
  split
  · next cs => exact absurd rfl (hrest '.' rfl).2.1
  · rfl

theorem readPower_of_stops (hrest : Stops rest) : Numeral.readPower rest = some (none, rest) := by
  cases rest with
  | nil => rfl
  | cons c rest =>
    obtain ⟨_, _, he⟩ := hrest c rfl
    rw [Numeral.readPower, if_neg (by simp [he])]

theorem read_of_readSign {negative : Bool} {n : Nat}
    (hsign : Numeral.readSign cs = (negative, natText n ++ rest)) (hrest : Stops rest) :
    Numeral.read cs = some (⟨negative, natText n, none, none⟩, rest) := by
  simp only [Numeral.read, hsign, readWhole_natText n hrest, readFraction_of_stops hrest,
    readPower_of_stops hrest, bind, Option.bind, pure]

theorem readSign_natText (n : Nat) (rest : List Char) :
    Numeral.readSign (natText n ++ rest) = (false, natText n ++ rest) := by
  unfold Numeral.readSign
  split
  · next h =>
    cases htext : natText n with
    | nil => exact absurd htext (natText_ne_nil n)
    | cons d ds =>
      rw [htext] at h
      obtain ⟨rfl, _⟩ := List.cons.inj h
      exact absurd htext (natText_head_ne (by decide))
  · rfl

/-- The integers that are no floats in JSON. -/
def FitsJson (i : Int) : Prop := -0x8000000000000000 ≤ i ∧ i < 0x10000000000000000

instance (i : Int) : Decidable (FitsJson i) :=
  inferInstanceAs (Decidable (-0x8000000000000000 ≤ i ∧ i < 0x10000000000000000))

theorem number_of_read {numeral : Numeral} {i : Int} (hread : Numeral.read cs = some (numeral, rest))
    (hint : numeral.intValue? = some i) : number cs = some (.int i, rest) := by
  rw [number, hread]
  simp only [bind, Option.bind, Numeral.value?, hint, pure]
  rfl

theorem number_intText {i : Int} (hi : FitsJson i) (hrest : Stops rest) :
    number (intText i ++ rest) = some (.int i, rest) := by
  obtain ⟨hleast, hgreatest⟩ := hi
  obtain ⟨n, hn⟩ := i.eq_nat_or_neg
  have hvalue : Numeral.digitsValue (natText n) = n := (digits_natText n).value
  -- Zero is written without a sign, so it belongs to the numbers from zero on.
  by_cases hnegative : 0 < n ∧ i = -n
  · obtain ⟨hpos, rfl⟩ := hnegative
    rw [intText_neg hpos]
    refine number_of_read (read_of_readSign rfl hrest) ?_
    simp only [Numeral.intValue?, hvalue, if_true]
    exact if_pos (by omega)
  · obtain rfl : i = n := by omega
    rw [intText_natCast]
    refine number_of_read (read_of_readSign (readSign_natText n rest) hrest) ?_
    simp only [Numeral.intValue?, hvalue]
    rw [if_neg (by decide), if_pos (by omega)]

/-! ## Sequences -/

/-- With this character a value can begin: neither a blank nor the end of a sequence. -/
def Begins (c : Char) : Prop := isBlank c = false ∧ c ≠ ']' ∧ c ≠ '\x7d'

instance (c : Char) : Decidable (Begins c) :=
  inferInstanceAs (Decidable (isBlank c = false ∧ c ≠ ']' ∧ c ≠ '\x7d'))

/-- The ends of sequences. -/
def Closes (c : Char) : Prop := c = ']' ∨ c = '\x7d'

/-- The reader takes the text off as `x`, whatever follows that cannot belong to a number. -/
structure Reads {α : Type} (reader : Reader α) (cs : List Char) (x : α) : Prop where
  begins : ∃ c tail, cs = c :: tail ∧ Begins c
  read : ∀ rest, Stops rest → reader (cs ++ rest) = some (x, rest)

theorem skipBlanks_cons (h : isBlank c = false) (cs : List Char) :
    skipBlanks (c :: cs) = c :: cs := List.dropWhile_cons_of_neg (by simp [h])

section Sequences
variable {α : Type} {reader : Reader α} {text : α → List Char} {x : α} {xs : List α}

theorem Reads.skipBlanks (h : Reads reader cs x) (rest : List Char) :
    Reader.skipBlanks (cs ++ rest) = cs ++ rest := by
  obtain ⟨c, tail, rfl, hc, _⟩ := h.begins
  exact skipBlanks_cons hc (tail ++ rest)

theorem stops_comma (rest : List Char) : Stops (',' :: rest) := by
  intro c hc
  obtain rfl := Option.some.inj hc
  decide

theorem Closes.stops (h : Closes c) (rest : List Char) : Stops (c :: rest) := by
  intro d hd
  obtain rfl := Option.some.inj hd
  rcases h with rfl | rfl <;> decide

theorem Closes.skipBlanks (h : Closes c) (rest : List Char) :
    Reader.skipBlanks (c :: rest) = c :: rest := by
  rcases h with rfl | rfl <;> exact skipBlanks_cons (by decide) rest

theorem Begins.ne_closes (h : Begins c) (he : Closes e) : c ≠ e := by
  obtain ⟨_, hbracket, hbrace⟩ := h
  rcases he with rfl | rfl
  · exact hbracket
  · exact hbrace

theorem itemsFrom_last (hc : Closes c) (h : Reads reader cs x) (limit : Nat) :
    itemsFrom c reader (limit + 1) (cs ++ c :: rest) = some ([x], rest) := by
  rw [itemsFrom, h.skipBlanks, h.read _ (hc.stops rest)]
  simp only [hc.skipBlanks]
  rcases hc with rfl | rfl
  · rfl
  · rfl

theorem itemsFrom_next (h : Reads reader cs x) (limit : Nat) :
    itemsFrom c reader (limit + 1) (cs ++ ',' :: rest) =
      (itemsFrom c reader limit rest).map fun (xs, rest) => (x :: xs, rest) := by
  rw [itemsFrom, h.skipBlanks, h.read _ (stops_comma rest)]
  rfl

theorem itemsFrom_intercalate (hc : Closes c) (h : ∀ y ∈ x :: xs, Reads reader (text y) y)
    {limit : Nat} (hlimit : xs.length < limit) :
    itemsFrom c reader limit ([','].intercalate ((x :: xs).map text) ++ c :: rest) =
      some (x :: xs, rest) := by
  induction xs generalizing x limit with
  | nil =>
    cases limit with
    | zero => cases hlimit
    | succ limit =>
      rw [List.map_singleton, List.intercalate_singleton]
      exact itemsFrom_last hc (h x List.mem_cons_self) limit
  | cons y ys ih =>
    cases limit with
    | zero => cases hlimit
    | succ limit =>
      have hrest := ih (fun z hz => h z (List.mem_cons_of_mem x hz)) (Nat.lt_of_succ_lt_succ hlimit)
      rw [List.map_cons, List.map_cons, List.intercalate_cons_cons, List.append_assoc,
        List.append_assoc, List.singleton_append, itemsFrom_next (h x List.mem_cons_self),
        ← List.map_cons, hrest, Option.map_some]

/-- There is a comma between any two items. -/
theorem length_le_intercalate (xs : List α) (text : α → List Char) :
    xs.length ≤ ([','].intercalate (xs.map text)).length + 1 := by
  induction xs with
  | nil => exact Nat.zero_le _
  | cons x xs ih =>
    cases xs with
    | nil => simp
    | cons y ys =>
      rw [List.map_cons, List.map_cons, List.intercalate_cons_cons]
      simp only [List.length_append, List.length_cons, List.map_cons] at ih ⊢
      omega

theorem exists_intercalate_eq_append (x : α) (xs : List α) (text : α → List Char) :
    ∃ tail, [','].intercalate ((x :: xs).map text) = text x ++ tail := by
  cases xs with
  | nil => exact ⟨[], by simp⟩
  | cons y ys =>
    rw [List.map_cons, List.map_cons, List.intercalate_cons_cons, List.append_assoc]
    exact ⟨_, rfl⟩

/-- Items with commas between them are read off up to the end of the sequence. -/
theorem items_intercalate (hc : Closes c) (h : ∀ y ∈ xs, Reads reader (text y) y)
    (rest : List Char) :
    items c reader ([','].intercalate (xs.map text) ++ c :: rest) = some (xs, rest) := by
  cases xs with
  | nil =>
    change items c reader (c :: rest) = some ([], rest)
    rw [items, hc.skipBlanks]
    exact if_pos rfl
  | cons x xs =>
    have hlimit : xs.length < ([','].intercalate ((x :: xs).map text) ++ c :: rest).length := by
      have hcommas := length_le_intercalate (x :: xs) text
      rw [List.length_cons] at hcommas
      rw [List.length_append, List.length_cons]
      omega
    have hitems : itemsFrom c reader _ ([','].intercalate ((x :: xs).map text) ++ c :: rest) =
        some (x :: xs, rest) := itemsFrom_intercalate hc h hlimit
    obtain ⟨others, hothers⟩ := exists_intercalate_eq_append x xs text
    obtain ⟨d, tail, hd, hbegins⟩ := (h x List.mem_cons_self).begins
    rw [hothers, hd, List.cons_append, List.cons_append] at hitems ⊢
    rw [items, skipBlanks_cons hbegins.1]
    exact (if_neg (hbegins.ne_closes hc)).trans hitems

end Sequences

/-! ## Values -/

theorem Reads.member {reader : Reader Value} {v : Value} (h : Reads reader cs v) (k : String) :
    Reads (Reader.member reader) (stringChars k ++ ':' :: cs) (k, v) := by
  refine ⟨⟨'"', _, rfl, by decide⟩, fun rest hrest => ?_⟩
  have htext : stringChars k ++ ':' :: cs ++ rest =
      '"' :: (k.toList.flatMap escapeChar ++ '"' :: ':' :: (cs ++ rest)) := by simp [stringChars]
  rw [htext, Reader.member, string_stringChars]
  simp only [bind, Option.bind]
  rw [skipBlanks_cons (by decide)]
  simp only [h.skipBlanks, h.read rest hrest]
  rfl

theorem value_of_ne (hbracket : c ≠ '[') (hbrace : c ≠ '\x7b') (depth : Nat) (cs : List Char) :
    value depth (c :: cs) = scalar (c :: cs) := by
  cases depth with
  | zero => rfl
  | succ depth =>
    unfold value
    split
    · next h => exact absurd (List.cons.inj h).1 hbracket
    · next h => exact absurd (List.cons.inj h).1 hbrace
    · rfl

/-- With this character a number can begin. -/
def BeginsNumber (c : Char) : Prop := c = '-' ∨ c.isDigit = true

instance (c : Char) : Decidable (BeginsNumber c) :=
  inferInstanceAs (Decidable (c = '-' ∨ c.isDigit = true))

theorem BeginsNumber.ne (hc : BeginsNumber c) (he : ¬BeginsNumber e) : c ≠ e := by
  rintro rfl
  exact he hc

theorem BeginsNumber.begins (hc : BeginsNumber c) : Begins c := by
  have hspace : c ≠ ' ' := hc.ne (by decide)
  have htab : c ≠ '\t' := hc.ne (by decide)
  have hfeed : c ≠ '\n' := hc.ne (by decide)
  have hreturn : c ≠ '\r' := hc.ne (by decide)
  refine ⟨?_, hc.ne (by decide), hc.ne (by decide)⟩
  simp [isBlank, hspace, htab, hfeed, hreturn]

theorem exists_intText_eq_cons (i : Int) : ∃ c cs, intText i = c :: cs ∧ BeginsNumber c := by
  cases htext : intText i with
  | nil =>
    have hread := integer?_intText i
    rw [htext] at hread
    cases hread
  | cons c cs =>
    refine ⟨c, cs, rfl, (canonical_intText i).isDigit c ?_⟩
    rw [htext]
    exact List.mem_cons_self

/-- A text that begins like a number is read as one. -/
theorem value_of_beginsNumber (hc : BeginsNumber c) (depth : Nat) (cs : List Char) :
    value depth (c :: cs) = number (c :: cs) := by
  rw [value_of_ne (hc.ne (by decide)) (hc.ne (by decide))]
  unfold scalar
  split
  · next h => exact absurd (List.cons.inj h).1 (hc.ne (by decide))
  · next h => exact absurd (List.cons.inj h).1 (hc.ne (by decide))
  · next h => exact absurd (List.cons.inj h).1 (hc.ne (by decide))
  · next h => exact absurd (List.cons.inj h).1 (hc.ne (by decide))
  · rfl

theorem reads_int {i : Int} (hi : FitsJson i) (depth : Nat) :
    Reads (value depth) (intText i) (.int i) := by
  obtain ⟨c, cs, htext, hc⟩ := exists_intText_eq_cons i
  refine ⟨⟨c, cs, htext, hc.begins⟩, fun rest hrest => ?_⟩
  rw [← number_intText hi hrest, htext, List.cons_append, value_of_beginsNumber hc]

theorem reads_str (s : String) (depth : Nat) :
    Reads (value depth) (stringChars s) (.str s) := by
  refine ⟨⟨'"', _, rfl, by decide⟩, fun rest _ => ?_⟩
  have htext : stringChars s ++ rest = '"' :: (s.toList.flatMap escapeChar ++ '"' :: rest) := by
    simp [stringChars]
  rw [htext, value_of_ne (by decide) (by decide), scalar, string_stringChars]
  rfl

theorem reads_arr {depth : Nat} {items : List Value}
    (h : ∀ v ∈ items, Reads (value depth) v.chars v) :
    Reads (value (depth + 1)) (Value.arr items).chars (.arr items) := by
  refine ⟨⟨'[', _, rfl, by decide⟩, fun rest _ => ?_⟩
  have htext : (Value.arr items).chars ++ rest =
      '[' :: ([','].intercalate (items.map Value.chars) ++ ']' :: rest) := by
    simp [Value.chars, Value.itemChars_eq_map]
  rw [htext, value, items_intercalate (Or.inl rfl) h]
  rfl

theorem reads_obj {depth : Nat} {fields : Object} (hasc : fields.Ascending)
    (h : ∀ e ∈ fields, Reads (value depth) e.2.chars e.2) :
    Reads (value (depth + 1)) (Value.obj fields).chars (.obj fields) := by
  refine ⟨⟨'\x7b', _, rfl, by decide⟩, fun rest _ => ?_⟩
  have hmembers : ∀ e ∈ fields,
      Reads (member (value depth)) (stringChars e.1 ++ ':' :: e.2.chars) e := by
    intro e he
    exact (h e he).member e.1
  have htext : (Value.obj fields).chars ++ rest =
      '\x7b' :: ([','].intercalate (fields.map fun e => stringChars e.1 ++ ':' :: e.2.chars) ++
        '\x7d' :: rest) := by
    simp [Value.chars, Value.fieldChars_eq_map]
  rw [htext, value, items_intercalate (Or.inr rfl) hmembers]
  change some (Value.obj (Assoc.ofList fields), rest) = some (Value.obj fields, rest)
  rw [hasc.ofList_eq]

end Reader

/-- Values that can be read off their text: no floats, at most `depth` levels of arrays and objects,
the members of an object in order. -/
inductive Writable : Nat → Value → Prop
  | null {depth : Nat} : Writable depth .null
  | bool {depth : Nat} (b : Bool) : Writable depth (.bool b)
  | int {depth : Nat} {i : Int} (h : Reader.FitsJson i) : Writable depth (.int i)
  | str {depth : Nat} (s : String) : Writable depth (.str s)
  | arr {depth : Nat} {items : List Value} (h : ∀ v ∈ items, Writable depth v) :
      Writable (depth + 1) (.arr items)
  | obj {depth : Nat} {fields : Object} (hasc : fields.Ascending)
      (h : ∀ e ∈ fields, Writable depth e.2) : Writable (depth + 1) (.obj fields)

open Reader in
theorem Writable.reads {depth : Nat} {v : Value} (h : Writable depth v) :
    Reads (value depth) v.chars v := by
  induction h with
  | null =>
    refine ⟨⟨'n', _, rfl, by decide⟩, fun rest _ => ?_⟩
    exact value_of_ne (by decide) (by decide) _ _
  | bool b =>
    cases b with
    | false =>
      refine ⟨⟨'f', _, rfl, by decide⟩, fun rest _ => ?_⟩
      exact value_of_ne (by decide) (by decide) _ _
    | true =>
      refine ⟨⟨'t', _, rfl, by decide⟩, fun rest _ => ?_⟩
      exact value_of_ne (by decide) (by decide) _ _
  | int h => exact reads_int h _
  | str s => exact reads_str s _
  | arr _ ih => exact reads_arr ih
  | obj hasc _ ih => exact reads_obj hasc ih

/-- The text of a value is read as that value. -/
theorem read_compact {v : Value} (h : Writable maxDepth v) : read v.compact = some v := by
  have htext : v.compact.toList = v.chars := String.toList_ofList
  have hvalue := h.reads.read [] Reader.stops_nil
  rw [List.append_nil] at hvalue
  have hblanks := h.reads.skipBlanks []
  rw [List.append_nil] at hblanks
  rw [read, htext, hblanks, hvalue]
  rfl

end KernelBridge.Json
