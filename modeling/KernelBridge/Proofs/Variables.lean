import KernelBridge.Assoc.Ascending
import KernelBridge.Proofs.Crossing
import KernelBridge.Proofs.Upgrade

/-! # Variables as expressions

Version 4 knows variables besides expressions: a request names them, a reply tells their values. On the
way up both are merged into one object, `Merged`. A variable is the expression of its name, and where
there is an expression under the same name the variable counts.
-/
namespace KernelBridge.Protocol
open Json Outcome
variable {content result expressions values : Object} {names others : List String}

/-- A request with the names of variables and with expressions, either of which it may leave out. -/
structure Asks (content : Object) (names : List String) (expressions : Object) : Prop where
  names_eq : (content.get? "user_variables").getD (.arr []) = .arr (names.map .str)
  expressions_eq : (content.get? "user_expressions").getD (.obj []) = .obj expressions

/-- A reply with the values of variables, also left out or null, and of expressions. -/
structure Tells (content values expressions : Object) : Prop where
  values_eq : (content.get? "user_variables" = none ∨ content.get? "user_variables" = some .null) ∧
    values = [] ∨ content.get? "user_variables" = some (.obj values)
  expressions_eq : (content.get? "user_expressions").getD (.obj []) = .obj expressions

/-- The variables that a request names, as expressions. -/
def asked (names : List String) (k : String) : Option Value :=
  if k ∈ names then some (.str k) else none

/-- A content that had expressions and now has those of variables before them, but no variables. -/
structure Merged (content : Object) (valueOf : String → Option Value) (expressions : Object)
    (result : Object) : Prop where
  dropped : result.get? "user_variables" = none
  merged : ∃ merged : Object, result.get? "user_expressions" = some (.obj merged) ∧
    (∀ k, merged.get? k = (valueOf k).or (expressions.get? k)) ∧
    (expressions.Ascending → merged.Ascending)
  others : ∀ k, k ∉ ["user_variables", "user_expressions"] → result.get? k = content.get? k
  ascending : content.Ascending → result.Ascending

/-- What either rewrite makes of a content once it has read the variables as entries. -/
def withVariables (content expressions : Object) (entries : List (String × Value)) : Object :=
  Assoc.modify (Upgrade.prepareExpressions content) "user_expressions"
    fun _ => .obj (expressions.insertAll entries)

/-- The entries go in one after another, so of those under one key the last counts. -/
theorem merged_withVariables {entries : List (String × Value)} {valueOf : String → Option Value}
    (h : ∀ k, Assoc.get? entries.reverse k = valueOf k) :
    Merged content valueOf expressions (withVariables content expressions entries) := by
  unfold withVariables
  refine ⟨?_, ⟨expressions.insertAll entries, ?_, ?_, ?_⟩, ?_, ?_⟩
  · simp [Upgrade.get?_prepareExpressions]
  · simp [Upgrade.get?_prepareExpressions]
  · intro k
    rw [Assoc.get?_insertAll, h]
  · intro hasc
    exact hasc.insertAll entries
  · intro k hk
    simp only [List.mem_cons, List.not_mem_nil, or_false, not_or] at hk
    simp [Upgrade.get?_prepareExpressions, hk]
  · intro hasc
    have hprepared := (hasc.erase "user_variables").insertNew "user_expressions" (.obj [])
    exact hprepared.modify _ _

/-- The entries that a list of names is read as. -/
def expressionsOf (names : List String) : List (String × Value) := names.map fun n => (n, .str n)

theorem get?_expressionsOf (names : List String) (k : String) :
    Assoc.get? (expressionsOf names) k = asked names k := by
  induction names with
  | nil => rfl
  | cons n names ih =>
    unfold asked at ih ⊢
    change Assoc.get? ((n, .str n) :: expressionsOf names) k = _
    rw [Assoc.get?_cons, ih]
    by_cases hk : k = n
    · simp [hk]
    · simp [hk]

theorem get?_reverse_expressionsOf (names : List String) (k : String) :
    Assoc.get? (expressionsOf names).reverse k = asked names k := by
  have hreverse : (expressionsOf names).reverse = expressionsOf names.reverse := by
    unfold expressionsOf
    rw [List.map_reverse]
  rw [hreverse, get?_expressionsOf]
  simp [asked]

/-- Neither the order of the names counts nor how often each is among them. -/
theorem insertAll_expressionsOf_congr (hasc : expressions.Ascending)
    (h : ∀ n, n ∈ others ↔ n ∈ names) :
    expressions.insertAll (expressionsOf others) = expressions.insertAll (expressionsOf names) := by
  refine Assoc.Ascending.ext (hasc.insertAll _) (hasc.insertAll _) fun k => ?_
  have hasked : asked others k = asked names k := by
    unfold asked
    simp [h k]
  rw [Assoc.get?_insertAll, Assoc.get?_insertAll, get?_reverse_expressionsOf,
    get?_reverse_expressionsOf, hasked]

theorem withVariables_insert (content expressions : Object) (entries : List (String × Value))
    (v : Value) :
    withVariables (content.insert "user_variables" v) expressions entries =
      withVariables content expressions entries := by
  have hprepared : Upgrade.prepareExpressions (content.insert "user_variables" v) =
      Upgrade.prepareExpressions content := by
    unfold Upgrade.prepareExpressions
    rw [Assoc.erase_insert_self]
  unfold withVariables
  rw [hprepared]

/-- A request may name its variables anew. -/
theorem Asks.insert (h : Asks content names expressions) (others : List String) :
    Asks (content.insert "user_variables" (.arr (others.map .str))) others expressions := by
  refine ⟨?_, ?_⟩
  · simp
  · simpa using h.expressions_eq

theorem mapM_expressionOf_eq_ok_iff {list : List Value} {entries : List (String × Value)} :
    list.mapM Upgrade.expressionOf = .ok entries ↔
      ∃ names : List String, list = names.map .str ∧ expressionsOf names = entries := by
  constructor
  · intro h
    induction list generalizing entries with
    | nil =>
      cases h
      exact ⟨[], rfl, rfl⟩
    | cons v list ih =>
      rw [List.mapM_cons] at h
      obtain ⟨entry, hentry, h⟩ := bind_eq_ok_iff.mp h
      obtain ⟨rest, hrest, h⟩ := bind_eq_ok_iff.mp h
      obtain ⟨names, rfl, rfl⟩ := ih hrest
      cases h
      cases v with
      | str n =>
        cases hentry
        exact ⟨n :: names, rfl, rfl⟩
      | _ => cases hentry
  · rintro ⟨names, rfl, rfl⟩
    induction names with
    | nil => rfl
    | cons n names ih =>
      rw [List.map_cons, List.mapM_cons, ih]
      rfl

namespace Upgrade

theorem executeRequest_eq_ok_iff_asks :
    executeRequest content = .ok result ↔
      ∃ names expressions, Asks content names expressions ∧
        withVariables content expressions (expressionsOf names) = result := by
  have hlist {list : List Value} : requestedVariables content = .ok list ↔
      (content.get? "user_variables").getD (.arr []) = .arr list := by
    rw [requestedVariables_eq_ok_iff]
    cases content.get? "user_variables" <;> simp [eq_comm]
  simp only [executeRequest_eq_ok_iff, hlist, requiredExpressions_eq_ok_iff,
    mapM_expressionOf_eq_ok_iff]
  constructor
  · rintro ⟨_, expressions, _, hlist, hexpressions, ⟨names, rfl, rfl⟩, hresult⟩
    exact ⟨names, expressions, ⟨hlist, hexpressions⟩, hresult⟩
  · rintro ⟨names, expressions, h, hresult⟩
    exact ⟨_, expressions, _, h.names_eq, h.expressions_eq, ⟨names, rfl, rfl⟩, hresult⟩

theorem executeReply_eq_ok_iff_tells :
    executeReply content = .ok result ↔
      ∃ values expressions, Tells content values expressions ∧
        withVariables content expressions values = result := by
  simp only [executeReply_eq_ok_iff, repliedVariables_eq_ok_iff, requiredExpressions_eq_ok_iff]
  constructor
  · rintro ⟨values, expressions, hvalues, hexpressions, hresult⟩
    exact ⟨values, expressions, ⟨hvalues, hexpressions⟩, hresult⟩
  · rintro ⟨values, expressions, h, hresult⟩
    exact ⟨values, expressions, h.values_eq, h.expressions_eq, hresult⟩

end Upgrade

section Message
variable {m : Message}

theorem upgrade_of_asks (ht : m.msgType = "execute_request") (he : m.content.reportsError = false)
    (h : Asks m.content names expressions) :
    upgrade m = .ok (m.restamp (some "5.0") "execute_request"
      (withVariables m.content expressions (expressionsOf names))) := by
  have hcross : Crossing Code.Machine.identifierAt "execute_request" _ _ := .executeRequest
  have hup := Upgrade.executeRequest_eq_ok_iff_asks.mpr ⟨names, expressions, h, rfl⟩
  exact (hcross.upgrade_eq_ok_iff ht he).mpr ⟨_, hup, rfl⟩

theorem exists_upgrade_iff_asks (ht : m.msgType = "execute_request")
    (he : m.content.reportsError = false) :
    (∃ n, upgrade m = .ok n) ↔ ∃ names expressions, Asks m.content names expressions := by
  constructor
  · rintro ⟨n, hn⟩
    have hcross : Crossing Code.Machine.identifierAt "execute_request" _ _ := .executeRequest
    obtain ⟨result, hresult, _⟩ := (hcross.upgrade_eq_ok_iff ht he).mp hn
    obtain ⟨names, expressions, h, _⟩ := Upgrade.executeRequest_eq_ok_iff_asks.mp hresult
    exact ⟨names, expressions, h⟩
  · rintro ⟨names, expressions, h⟩
    exact ⟨_, upgrade_of_asks ht he h⟩

theorem upgrade_of_tells (ht : m.msgType = "execute_reply") (he : m.content.reportsError = false)
    (h : Tells m.content values expressions) :
    upgrade m = .ok (m.restamp (some "5.0") "execute_reply"
      (withVariables m.content expressions values)) := by
  have hcross : Crossing Code.Machine.identifierAt "execute_reply" _ _ := .executeReply
  have hup := Upgrade.executeReply_eq_ok_iff_tells.mpr ⟨values, expressions, h, rfl⟩
  exact (hcross.upgrade_eq_ok_iff ht he).mpr ⟨_, hup, rfl⟩

theorem exists_upgrade_iff_tells (ht : m.msgType = "execute_reply")
    (he : m.content.reportsError = false) :
    (∃ n, upgrade m = .ok n) ↔ ∃ values expressions, Tells m.content values expressions := by
  constructor
  · rintro ⟨n, hn⟩
    have hcross : Crossing Code.Machine.identifierAt "execute_reply" _ _ := .executeReply
    obtain ⟨result, hresult, _⟩ := (hcross.upgrade_eq_ok_iff ht he).mp hn
    obtain ⟨values, expressions, h, _⟩ := Upgrade.executeReply_eq_ok_iff_tells.mp hresult
    exact ⟨values, expressions, h⟩
  · rintro ⟨values, expressions, h⟩
    exact ⟨_, upgrade_of_tells ht he h⟩

/-- The message with a list of names for its variables. -/
def naming (m : Message) (names : List String) : Message :=
  { m with content := m.content.insert "user_variables" (.arr (names.map .str)) }

theorem naming_reportsError (m : Message) (names : List String) :
    (naming m names).content.reportsError = m.content.reportsError :=
  Object.reportsError_congr (by simp [naming])

/-- Other names for the same variables, in any order and any of them repeated, ask for the same. -/
theorem upgrade_naming (ht : m.msgType = "execute_request") (he : m.content.reportsError = false)
    (h : Asks m.content names expressions) (hasc : expressions.Ascending)
    (hothers : ∀ n, n ∈ others ↔ n ∈ names) :
    upgrade (naming m others) = upgrade m := by
  have hasks : Asks (naming m others).content others expressions := h.insert others
  have hcontents : withVariables (naming m others).content expressions (expressionsOf others) =
      withVariables m.content expressions (expressionsOf names) := by
    unfold naming
    rw [withVariables_insert]
    unfold withVariables
    rw [insertAll_expressionsOf_congr hasc hothers]
  have hnaming : (naming m others).msgType = "execute_request" := ht
  rw [upgrade_of_asks hnaming ((naming_reportsError m others).trans he) hasks, hcontents,
    upgrade_of_asks ht he h]
  rfl

/-- On the way up variables and expressions become one object that has all of both, except that under
one key the variable counts. -/
theorem variables_become_expressions (m : Message) (he : m.content.reportsError = false) :
    (m.msgType = "execute_request" →
      ((∃ n, upgrade m = .ok n) ↔ ∃ names expressions, Asks m.content names expressions) ∧
      ∀ names expressions, Asks m.content names expressions →
        (∃ result, upgrade m = .ok (m.restamp (some "5.0") "execute_request" result) ∧
          Merged m.content (asked names) expressions result) ∧
        ∀ others : List String, (∀ n, n ∈ others ↔ n ∈ names) → expressions.Ascending →
          upgrade (naming m others) = upgrade m) ∧
    (m.msgType = "execute_reply" →
      ((∃ n, upgrade m = .ok n) ↔ ∃ values expressions, Tells m.content values expressions) ∧
      ∀ values expressions, Tells m.content values expressions → values.Ascending →
        ∃ result, upgrade m = .ok (m.restamp (some "5.0") "execute_reply" result) ∧
          Merged m.content values.get? expressions result) := by
  constructor
  · intro ht
    refine ⟨exists_upgrade_iff_asks ht he, fun names expressions h => ⟨?_, ?_⟩⟩
    · exact ⟨_, upgrade_of_asks ht he h, merged_withVariables (get?_reverse_expressionsOf names)⟩
    · intro others hothers hasc
      exact upgrade_naming ht he h hasc hothers
  · intro ht
    refine ⟨exists_upgrade_iff_tells ht he, fun values expressions h hasc => ?_⟩
    exact ⟨_, upgrade_of_tells ht he h, merged_withVariables hasc.get?_reverse⟩

/-- A request that names one variable twice and another that is also an expression. -/
def askingTwice : Message :=
  .new (.new "execute_request")
    [("code", .str "a"), ("user_expressions", .obj [("a", .str "a + 1"), ("c", .str "c")]),
      ("user_variables", .arr [.str "b", .str "a", .str "b"])]

/-- A reply with a variable and an expression under one key. -/
def tellingTwice : Message :=
  .new (.new "execute_reply")
    [("status", .str "ok"), ("user_expressions", .obj [("a", .nat 1), ("c", .nat 3)]),
      ("user_variables", .obj [("a", .nat 7), ("b", .nat 2)])]

theorem variables_become_expressions_colliding :
    (∃ result,
      upgrade askingTwice = .ok (askingTwice.restamp (some "5.0") "execute_request" result) ∧
      Merged askingTwice.content (asked ["b", "a", "b"]) [("a", .str "a + 1"), ("c", .str "c")]
        result) ∧
    upgrade (naming askingTwice ["a", "b"]) = upgrade askingTwice ∧
    ∃ result, upgrade tellingTwice = .ok (tellingTwice.restamp (some "5.0") "execute_reply" result) ∧
      Merged tellingTwice.content (Assoc.get? [("a", .nat 7), ("b", .nat 2)])
        [("a", .nat 1), ("c", .nat 3)] result := by
  have hasks : Asks askingTwice.content ["b", "a", "b"]
      [("a", .str "a + 1"), ("c", .str "c")] := ⟨rfl, rfl⟩
  have htells : Tells tellingTwice.content [("a", .nat 7), ("b", .nat 2)]
      [("a", .nat 1), ("c", .nat 3)] := ⟨Or.inr rfl, rfl⟩
  have hsame (n : String) : n ∈ ["a", "b"] ↔ n ∈ ["b", "a", "b"] := by
    simp only [List.mem_cons, List.not_mem_nil]
    grind
  obtain ⟨hrequest, hanew⟩ :=
    ((variables_become_expressions askingTwice (by decide)).1 rfl).2 _ _ hasks
  obtain ⟨_, hreply⟩ := (variables_become_expressions tellingTwice (by decide)).2 rfl
  exact ⟨hrequest, hanew _ hsame (by decide), hreply _ _ htells (by decide)⟩

end Message

end KernelBridge.Protocol
