import KernelBridge.Proofs.Exactness
import KernelBridge.Proofs.Locality

/-! # What stands in comments and strings

A comment ends at the end of its line, and a terminated string at the next of its quotes. So either ends
where it did when its body gives way to another one that holds no such end, and the tokens before it
do not look into it. Then all tokens are the same, and so is every identifier: `bodies_ignored`.
-/
namespace KernelBridge.Code
open Token

/-- What stands around the body of a comment or a string. -/
structure Surroundings where
  before : List Char
  opening : List Char
  closing : List Char
  after : List Char

namespace Surroundings

/-- The code with a body. -/
def fill (s : Surroundings) (body : List Char) : List Char :=
  s.before ++ (s.opening ++ (body ++ s.closing) ++ s.after)

/-- The comment or the string with its body. -/
def token (s : Surroundings) (body : List Char) : Token :=
  ⟨.other, s.before.length, s.before.length + (s.opening ++ (body ++ s.closing)).length⟩

end Surroundings

/-- How comments and terminated strings are delimited, with what may stand for any character of the
body. A string may have a mark in front of its quotes. -/
inductive Delimited : List Char → List Char → (Char → Prop) → Prop
  | comment : Delimited ['#'] [] fun c => c ≠ '\n' ∧ c ≠ '\r'
  | single {mark : List Char} {quote : Char}
      (hmark : mark = [] ∨ mark.map Char.toLower ∈ stringMarks) (hquote : isQuote quote = true) :
      Delimited (mark ++ [quote]) [quote] fun c => c ≠ quote ∧ c ≠ '\\' ∧ c ≠ '\n'
  | triple {mark : List Char} {quote : Char}
      (hmark : mark = [] ∨ mark.map Char.toLower ∈ stringMarks) (hquote : isQuote quote = true) :
      Delimited (mark ++ [quote, quote, quote]) [quote, quote, quote]
        fun c => c ≠ quote ∧ c ≠ '\\' ∧ c ≠ '\n'

namespace Token
variable {c quote : Char} {cs os rest body other opening closing after mark : List Char}
  {allowed : Char → Prop}

theorem head?_of_length_takeWhile {p : Char → Bool}
    (h : ((cs ++ rest).takeWhile p).length = cs.length) :
    ∀ x, rest.head? = some x → p x = false := by
  induction cs with
  | nil =>
    intro x hx
    obtain ⟨behind, rfl⟩ := List.head?_eq_some_iff.mp hx
    by_contra hp
    rw [List.nil_append, List.takeWhile_cons_of_pos (by simpa using hp)] at h
    cases h
  | cons c cs ih =>
    rw [List.cons_append, List.takeWhile_cons] at h
    split at h
    · exact ih (Nat.succ_injective h)
    · cases h

/-- A body without quotes, backslashes and line feeds is passed over. -/
theorem bodyLength_append_plain (h : ∀ c ∈ body, c ≠ quote ∧ c ≠ '\\' ∧ c ≠ '\n') (triple : Bool)
    (rest : List Char) :
    bodyLength quote triple (body ++ rest) = body.length + bodyLength quote triple rest := by
  induction body with
  | nil => exact (Nat.zero_add _).symm
  | cons c body ih =>
    obtain ⟨⟨hquote, hescape, hfeed⟩, hbody⟩ := List.forall_mem_cons.mp h
    rw [List.cons_append, bodyLength_cons hescape, if_neg (fun h => hfeed h.1),
      if_neg (fun h => hquote h.1), if_neg (fun h => hquote h.1), ih hbody, List.length_cons,
      Nat.add_right_comm]

theorem bodyLength_close (hquote : isQuote quote = true) (rest : List Char) :
    bodyLength quote false (quote :: rest) = 1 ∧
      bodyLength quote true (quote :: quote :: quote :: rest) = 3 := by
  rcases eq_of_isQuote hquote with rfl | rfl
  all_goals exact ⟨by simp [bodyLength], by simp [bodyLength, List.isPrefixOf]⟩

/-- A string between single quotes of either kind ends at the next one, if it has a body. -/
theorem stringLength_single (hquote : isQuote quote = true) (hne : body ≠ [])
    (h : ∀ c ∈ body, c ≠ quote ∧ c ≠ '\\' ∧ c ≠ '\n') (rest : List Char) :
    stringLength quote (body ++ quote :: rest) = body.length + 2 := by
  obtain ⟨c, cs, rfl⟩ := List.exists_cons_of_ne_nil hne
  have hopens : ¬[quote, quote].isPrefixOf (c :: cs ++ quote :: rest) = true := by
    simp [List.isPrefixOf, (h c List.mem_cons_self).1.symm]
  rw [stringLength, if_neg hopens, bodyLength_append_plain h, (bodyLength_close hquote rest).1]

theorem stringLength_triple (hquote : isQuote quote = true)
    (h : ∀ c ∈ body, c ≠ quote ∧ c ≠ '\\' ∧ c ≠ '\n') (rest : List Char) :
    stringLength quote (quote :: quote :: (body ++ quote :: quote :: quote :: rest)) =
      body.length + 6 := by
  have hopens : [quote, quote].isPrefixOf
      (quote :: quote :: (body ++ quote :: quote :: quote :: rest)) = true := by
    simp [List.isPrefixOf]
  rw [stringLength, if_pos hopens, List.drop_succ_cons, List.drop_succ_cons, List.drop_zero,
    bodyLength_append_plain h, (bodyLength_close hquote rest).2]

theorem stringAt_opening {quotes : List Char} (hmark : mark = [] ∨ mark.map Char.toLower ∈ stringMarks)
    (hquote : isQuote quote = true) (hopening : mark ++ quote :: quotes = c :: os)
    (rest : List Char) : StringAt (c :: (os ++ rest)) mark quote (quotes ++ rest) where
  text_eq := by rw [← List.cons_append, ← hopening, List.append_assoc, List.cons_append]
  mark := hmark
  quote := hquote

theorem exists_opener_of_mark {quotes : List Char}
    (hmark : mark = [] ∨ mark.map Char.toLower ∈ stringMarks) (hquote : isQuote quote = true) :
    ∃ c os, mark ++ quote :: quotes = c :: os ∧ isOpener c = true := by
  cases mark with
  | nil => exact ⟨quote, quotes, rfl, by simp [isOpener, hquote]⟩
  | cons m mark =>
    have hstart := isNameStart_of_mem_mark (hmark.resolve_left (List.cons_ne_nil _ _))
      List.mem_cons_self
    exact ⟨m, mark ++ quote :: quotes, rfl, by simp [isOpener, hstart]⟩

end Token

namespace Delimited
variable {c : Char} {os body other opening closing after : List Char} {allowed : Char → Prop}

theorem exists_opener (h : Delimited opening closing allowed) :
    ∃ c os, opening = c :: os ∧ isOpener c = true := by
  cases h with
  | comment => exact ⟨'#', [], rfl, rfl⟩
  | single hmark hquote => exact exists_opener_of_mark hmark hquote
  | triple hmark hquote => exact exists_opener_of_mark hmark hquote

/-- With another body the comment or the string ends where that body does. -/
theorem scan_replace (h : Delimited opening closing allowed) (hopening : opening = c :: os)
    (hlength : other.length = body.length) (hother : ∀ c ∈ other, allowed c)
    (hscan : (scan c (os ++ (body ++ closing) ++ after)).2 = (os ++ (body ++ closing)).length + 1) :
    scan c (os ++ (other ++ closing) ++ after) =
      (.other, (os ++ (other ++ closing)).length + 1) := by
  cases h with
  | comment =>
    obtain ⟨rfl, rfl⟩ := List.cons_eq_cons.mp hopening
    rw [scan_comment, List.append_nil, List.nil_append] at hscan
    have hafter := head?_of_length_takeWhile (Nat.succ_injective hscan)
    have hplain : ∀ c ∈ other, (!isLineEnd c) = true := by
      intro c hc
      simp [isLineEnd, hother c hc]
    rw [scan_comment, List.append_nil, List.nil_append, takeWhile_append hplain hafter]
  | @single mark quote hmark hquote =>
    have hstring := stringAt_opening hmark hquote hopening
    rw [List.append_assoc, scan_string (hstring _)] at hscan ⊢
    refine congrArg (Prod.mk Lexeme.other) ?_
    -- without a body there are two quotes, which can also be the first of three
    by_cases hne : other = []
    · subst hne
      obtain rfl : body = [] := List.length_eq_zero_iff.mp hlength.symm
      exact hscan
    · have htext : [] ++ (other ++ [quote] ++ after) = other ++ quote :: after := by simp
      have hmarked := congrArg List.length hopening
      rw [htext, stringLength_single hquote hne hother]
      simp only [List.length_append, List.length_cons, List.length_nil] at hmarked ⊢
      omega
  | @triple mark quote hmark hquote =>
    have hstring := stringAt_opening hmark hquote hopening
    have htext : [quote, quote] ++ (other ++ [quote, quote, quote] ++ after) =
        quote :: quote :: (other ++ quote :: quote :: quote :: after) := by simp
    have hmarked := congrArg List.length hopening
    rw [List.append_assoc, scan_string (hstring _), htext, stringLength_triple hquote hother]
    refine congrArg (Prod.mk Lexeme.other) ?_
    simp only [List.length_append, List.length_cons, List.length_nil] at hmarked ⊢
    omega

end Delimited

section Ignored
variable {s : Surroundings} {body other : List Char} {allowed : Char → Prop}

theorem lex_fill (h : Delimited s.opening s.closing allowed) (htoken : s.token body ∈ lex (s.fill body))
    (hlength : other.length = body.length) (hother : ∀ c ∈ other, allowed c) :
    lex (s.fill other) = lex (s.fill body) := by
  obtain ⟨c, os, hopening, hc⟩ := h.exists_opener
  have hfill : ∀ b, s.fill b = s.before ++ c :: (os ++ (b ++ s.closing) ++ s.after) := by
    intro b
    rw [Surroundings.fill, hopening]
    rfl
  have hstart : (s.token body).start = 0 + s.before.length := (Nat.zero_add _).symm
  rw [hfill] at htoken
  obtain ⟨hblank, hscanned⟩ := scan_of_mem htoken hstart
  have hscan : scan c (os ++ (body ++ s.closing) ++ s.after) =
      (.other, (os ++ (body ++ s.closing)).length + 1) := by
    simp only [Surroundings.token, hopening, Token.mk.injEq, Nat.zero_add, true_and,
      Nat.add_left_cancel_iff] at hscanned
    exact Prod.ext hscanned.1.symm hscanned.2.symm
  have hreplaced := h.scan_replace hopening hlength hother (congrArg Prod.snd hscan)
  have hlengths : (os ++ (other ++ s.closing)).length = (os ++ (body ++ s.closing)).length := by
    simp only [List.length_append, hlength]
  rw [hfill, hfill]
  refine lexFrom_append_short hc htoken hstart ?_
  rw [lexFrom_cons_append hblank hreplaced, lexFrom_cons_append hblank hscan, hlengths]

/-- What stands in a comment or a terminated string never matters: with another body of the same length
that does not end it the code has the same tokens, so the same identifier at every cursor. -/
theorem bodies_ignored (h : Delimited s.opening s.closing allowed)
    (htoken : s.token body ∈ lex (s.fill body)) (hlength : other.length = body.length)
    (hother : ∀ c ∈ other, allowed c) :
    lex (s.fill other) = lex (s.fill body) ∧
    (∀ cursor, identifierAt (String.ofList (s.fill other)) cursor =
      identifierAt (String.ofList (s.fill body)) cursor) ∧
    (Machine.Storable (String.ofList (s.fill other)) →
      Machine.Storable (String.ofList (s.fill body)) →
      ∀ cursor, Machine.identifierAt (String.ofList (s.fill other)) cursor =
        Machine.identifierAt (String.ofList (s.fill body)) cursor) := by
  have hlex := lex_fill h htoken hlength hother
  refine ⟨hlex, fun cursor => ?_, fun hnew hold cursor => ?_⟩
  · rw [identifierAt, identifierAt, String.toList_ofList, String.toList_ofList, hlex]
  · rw [Machine.identifierAt_eq_readWithin hnew, Machine.identifierAt_eq_readWithin hold,
      String.toList_ofList, String.toList_ofList, hlex]

/-- A raw string as an argument, with a parenthesis and an assignment for the name in it. -/
def rawArgument : Surroundings := ⟨"f(".toList, "R'".toList, "'".toList, ", ".toList⟩

theorem bodies_ignored_rawArgument :
    Delimited rawArgument.opening rawArgument.closing (fun c => c ≠ '\'' ∧ c ≠ '\\' ∧ c ≠ '\n') ∧
      rawArgument.token "a.b".toList ∈ lex (rawArgument.fill "a.b".toList) ∧
      (∀ c ∈ ")=\"".toList, c ≠ '\'' ∧ c ≠ '\\' ∧ c ≠ '\n') ∧
      Machine.identifierAt "f(R')=\"', " 9 = Machine.identifierAt "f(R'a.b', " 9 ∧
      Machine.identifierAt "f(R'a.b', " 9 = pure "f" := by
  have hmark : ['R'] = [] ∨ ['R'].map Char.toLower ∈ stringMarks := Or.inr (by decide)
  have hdelimited : Delimited rawArgument.opening rawArgument.closing
      (fun c => c ≠ '\'' ∧ c ≠ '\\' ∧ c ≠ '\n') := .single hmark rfl
  have htoken : rawArgument.token "a.b".toList ∈ lex (rawArgument.fill "a.b".toList) := by decide
  have hother : ∀ c ∈ ")=\"".toList, c ≠ '\'' ∧ c ≠ '\\' ∧ c ≠ '\n' := by simp
  have hlength : ")=\"".toList.length = "a.b".toList.length := by decide
  have hnew : String.ofList (rawArgument.fill ")=\"".toList) = "f(R')=\"', " := by decide
  have hold : String.ofList (rawArgument.fill "a.b".toList) = "f(R'a.b', " := by decide
  obtain ⟨_, _, hidentifier⟩ := bodies_ignored hdelimited htoken hlength hother
  rw [hnew, hold] at hidentifier
  exact ⟨hdelimited, htoken, hother, hidentifier (by decide) (by decide) 9, by decide⟩

end Ignored

end KernelBridge.Code
