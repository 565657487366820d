import KernelBridge.Assoc.Ascending
import KernelBridge.Proofs.Envelope
import Mathlib.Data.List.Nodup

/-! # Names that come back

A table of renames in which no two names share a new one can be undone: its inverse says the same
the other way round. A message whose content is left alone gets its type back unless the type is only
a new name of the table: such a type goes down as it is and comes up under the old name.
-/
namespace KernelBridge
open Json Outcome Protocol

namespace Assoc
variable {κ α : Type} {m : Assoc κ α} {q : κ} {v : α}

theorem Ascending.nodup_keys [LT κ] [Std.Asymm (α := κ) (· < ·)] (h : m.Ascending) :
    m.keys.Nodup := by
  refine List.Pairwise.imp ?_ h
  rintro a b hlt rfl
  exact Std.Irrefl.irrefl (r := (· < · : κ → κ → Prop)) a hlt

variable [DecidableEq κ]

/-- What is found under a key is the first entry with it. -/
theorem get?_eq_some_iff_append :
    m.get? q = some v ↔ ∃ before after, m = before ++ (q, v) :: after ∧ q ∉ keys before := by
  constructor
  · intro h
    induction m with
    | nil => cases h
    | cons e m ih =>
      rw [get?_cons] at h
      split at h
      · next hq =>
        obtain rfl := Option.some.inj h
        subst hq
        exact ⟨[], m, rfl, List.not_mem_nil⟩
      · next hq =>
        obtain ⟨before, after, rfl, hbefore⟩ := ih h
        exact ⟨e :: before, after, rfl, List.not_mem_cons_of_ne_of_not_mem hq hbefore⟩
  · rintro ⟨before, after, rfl, h⟩
    rw [get?_append, get?_eq_none_iff.mpr h, Option.none_or, get?_cons, if_pos rfl]

/-- Where no key occurs twice an entry is found exactly if it is there. -/
theorem get?_eq_some_iff_mem (h : m.keys.Nodup) : m.get? q = some v ↔ (q, v) ∈ m := by
  rw [get?_eq_some_iff_append]
  constructor
  · rintro ⟨before, after, rfl, _⟩
    exact List.mem_append_right _ List.mem_cons_self
  · intro hmem
    obtain ⟨before, after, rfl⟩ := List.append_of_mem hmem
    rw [keys, List.map_append, List.map_cons] at h
    have hdisjoint := (List.nodup_append.mp h).2.2
    exact ⟨before, after, rfl, fun hq => hdisjoint q hq q List.mem_cons_self rfl⟩

/-- Of the entries of one key the last is found. -/
theorem get?_ofList_eq_some_iff_append [LT κ] [DecidableLT κ] :
    (ofList m).get? q = some v ↔
      ∃ earlier later, m = earlier ++ (q, v) :: later ∧ q ∉ keys later := by
  rw [get?_ofList, get?_eq_some_iff_append]
  constructor
  · rintro ⟨later, earlier, hm, hlater⟩
    refine ⟨earlier.reverse, later.reverse, ?_, by simpa [keys] using hlater⟩
    rw [← List.reverse_reverse m, hm]
    simp
  · rintro ⟨earlier, later, rfl, hlater⟩
    exact ⟨later.reverse, earlier.reverse, by simp, by simpa [keys] using hlater⟩

theorem get?_ofList_eq_some_iff [LT κ] [DecidableLT κ] (h : m.keys.Nodup) :
    (ofList m).get? q = some v ↔ (q, v) ∈ m := by
  have hreverse : (keys m.reverse).Nodup := by
    rw [keys, List.map_reverse]
    exact List.nodup_reverse.mpr h
  rw [get?_ofList, get?_eq_some_iff_mem hreverse, List.mem_reverse]

end Assoc

namespace TypeRenames
variable {r : TypeRenames} {old new name : String}

/-- Names that are replaced. -/
def Old (r : TypeRenames) (name : String) : Prop := ∃ new, r.renamed? name = some new

/-- Names that others are replaced by. -/
def New (r : TypeRenames) (name : String) : Prop := ∃ old, r.renamed? old = some name

/-- No two names are replaced by one. -/
def Injective (r : TypeRenames) : Prop :=
  ∀ old other new, r.renamed? old = some new → r.renamed? other = some new → old = other

/-- Tables as they are built: with their pairs in order. -/
def Sorted (r : TypeRenames) : Prop := r.pairs.Ascending

theorem sorted_ofList (pairs : List (String × String)) : (ofList pairs).Sorted :=
  Assoc.ascending_ofList pairs

theorem sorted_inverse (r : TypeRenames) : r.inverse.Sorted := sorted_ofList _

theorem Sorted.renamed?_eq_some_iff (h : r.Sorted) :
    r.renamed? old = some new ↔ (old, new) ∈ r.pairs :=
  Assoc.get?_eq_some_iff_mem h.nodup_keys

theorem Sorted.ext {s : TypeRenames} (hr : r.Sorted) (hs : s.Sorted)
    (h : ∀ old new, r.renamed? old = some new ↔ s.renamed? old = some new) : r = s := by
  obtain ⟨pairs⟩ := r
  obtain ⟨others⟩ := s
  exact congrArg mk (Assoc.Ascending.ext hr hs fun q => Option.ext fun v => h q v)

theorem Sorted.nodup_swap_iff (h : r.Sorted) :
    (Assoc.keys (r.pairs.map Prod.swap)).Nodup ↔ r.Injective := by
  have hkeys : Assoc.keys (r.pairs.map Prod.swap) = r.pairs.map Prod.snd := by
    rw [Assoc.keys, List.map_map]
    rfl
  have hnodup : r.pairs.Nodup := List.Nodup.of_map Prod.fst h.nodup_keys
  rw [hkeys, List.nodup_map_iff_inj_on hnodup]
  simp only [Injective, h.renamed?_eq_some_iff, Prod.forall]
  constructor
  · intro hinj old other new hold hother
    exact congrArg Prod.fst (hinj old new hold other new hother rfl)
  · rintro hinj old new hold other _ hother rfl
    rw [hinj old other new hold hother]

theorem Sorted.renamed?_inverse_iff (h : r.Sorted) (hr : r.Injective) :
    r.inverse.renamed? new = some old ↔ r.renamed? old = some new := by
  have hinverse : r.inverse.renamed? new = some old ↔ (new, old) ∈ r.pairs.map Prod.swap :=
    Assoc.get?_ofList_eq_some_iff (h.nodup_swap_iff.mpr hr)
  rw [hinverse, h.renamed?_eq_some_iff]
  simp

/-- A name has one new name, so the inverse of a table does not confuse names either. -/
theorem Sorted.injective_inverse (h : r.Sorted) (hr : r.Injective) : r.inverse.Injective := by
  intro new other old hnew hother
  rw [h.renamed?_inverse_iff hr] at hnew hother
  exact Option.some.inj (hnew.symm.trans hother)

theorem Sorted.inverse_inverse (h : r.Sorted) (hr : r.Injective) : r.inverse.inverse = r := by
  refine (sorted_inverse _).ext h fun old new => ?_
  rw [(sorted_inverse r).renamed?_inverse_iff (h.injective_inverse hr), h.renamed?_inverse_iff hr]

theorem Sorted.size_inverse (h : r.Sorted) (hr : r.Injective) : r.inverse.size = r.size := by
  have hswap : (r.pairs.map Prod.swap).Nodup := List.Nodup.of_map Prod.fst (h.nodup_swap_iff.mpr hr)
  have hinverse : r.inverse.pairs.Nodup :=
    List.Nodup.of_map Prod.fst (sorted_inverse r).nodup_keys
  have hperm : r.inverse.pairs.Perm (r.pairs.map Prod.swap) := by
    refine (List.perm_ext_iff_of_nodup hinverse hswap).mpr fun e => ?_
    rw [← (sorted_inverse r).renamed?_eq_some_iff, h.renamed?_inverse_iff hr,
      h.renamed?_eq_some_iff]
    simp [Prod.ext_iff]
  exact hperm.length_eq.trans (List.length_map _)

theorem not_old_iff : ¬r.Old name ↔ r.renamed? name = none := by
  rw [Old, ← Option.isSome_iff_exists, Option.not_isSome_iff_eq_none]

/-- There and back: only the names that are new but not old change. -/
theorem Sorted.inverse_apply_apply_iff (h : r.Sorted) (hr : r.Injective) :
    r.inverse.apply (r.apply name) = name ↔ r.Old name ∨ ¬r.New name := by
  by_cases hold : r.Old name
  · obtain ⟨new, hnew⟩ := hold
    rw [apply_of_renamed? hnew, apply_of_renamed? ((h.renamed?_inverse_iff hr).mpr hnew)]
    exact iff_of_true rfl (Or.inl ⟨new, hnew⟩)
  · rw [apply_of_not_renamed (not_old_iff.mp hold)]
    -- the name went down as it is, and comes up as another if that other one would become it
    by_cases hnew : r.New name
    · obtain ⟨old, hrenamed⟩ := hnew
      rw [apply_of_renamed? ((h.renamed?_inverse_iff hr).mpr hrenamed)]
      refine iff_of_false ?_ (not_or.mpr ⟨hold, not_not_intro ⟨old, hrenamed⟩⟩)
      rintro rfl
      exact hold ⟨_, hrenamed⟩
    · have hkept : r.inverse.renamed? name = none := by
        rw [Option.eq_none_iff_forall_ne_some]
        exact fun old hrenamed => hnew ⟨old, (h.renamed?_inverse_iff hr).mp hrenamed⟩
      rw [apply_of_not_renamed hkept]
      exact iff_of_true rfl (Or.inr hnew)

end TypeRenames

/-- Contents of messages of a type that no rewrite applies to, on the way down with a table of
renames and up with its inverse. -/
inductive Untouched (resolve : Downgrade.Resolver) (r : TypeRenames) (msgType : String)
    (content : Object) : Prop
  | errorReply (h : content.reportsError = true) : Untouched resolve r msgType content
  | notRewritten (hdown : (Downgrade.rewrites resolve).get? (r.apply msgType) = none)
      (hup : Upgrade.rewrites.get? (r.inverse.apply (r.apply msgType)) = none) :
      Untouched resolve r msgType content

theorem Untouched.convert {resolve : Downgrade.Resolver} {r : TypeRenames} {msgType : String}
    {content : Object} (h : Untouched resolve r msgType content) :
    (Downgrade.rewrites resolve).convert (r.apply msgType) content = .ok content ∧
      Upgrade.rewrites.convert (r.inverse.apply (r.apply msgType)) content = .ok content := by
  cases h with
  | errorReply h =>
    exact ⟨RewriteTable.convert_of_reportsError _ _ h, RewriteTable.convert_of_reportsError _ _ h⟩
  | notRewritten hdown hup =>
    exact ⟨RewriteTable.convert_of_absent hdown _, RewriteTable.convert_of_absent hup _⟩

/-- Down with a table of renames and up with its inverse. -/
def relay (resolve : Downgrade.Resolver) (r : TypeRenames) (m : Message) : Adapted Message :=
  (Downgrade.adapter r resolve).adapt m >>= (Upgrade.adapter r.inverse).adapt

namespace Labelled
variable {resolve : Downgrade.Resolver} {r : TypeRenames} {l : Labelled} {m : Message}

def relay (resolve : Downgrade.Resolver) (r : TypeRenames) (l : Labelled) : Adapted Labelled :=
  l.adaptBy (Downgrade.adapter r resolve) >>= (·.adaptBy (Upgrade.adapter r.inverse))

theorem relay_labelled (resolve : Downgrade.Resolver) (r : TypeRenames) (m : Message) :
    m.labelled.relay resolve r = (KernelBridge.relay resolve r m).map Message.labelled :=
  adaptBy_bind_labelled _ _ m

/-- A message whose content stays as it is only gets a new name. -/
theorem exists_adaptBy_of_convert {a : Adapter} {version : Option String} (h : a.Restamps version)
    (hc : a.rewrites.convert (a.renames.apply l.label) l.message.content =
      .ok l.message.content) :
    ∃ n, l.adaptBy a = .ok n ∧ n.label = a.renames.apply l.label ∧
      n.message.content = l.message.content := by
  have hessence := map_essence_adaptBy h l
  rw [hc, map_ok] at hessence
  obtain ⟨n, hn, he⟩ := map_eq_ok_iff.mp hessence
  exact ⟨n, hn, Prod.mk.inj he⟩

theorem exists_relay (h : Untouched resolve r l.label l.message.content) :
    ∃ n, l.relay resolve r = .ok n ∧ n.label = r.inverse.apply (r.apply l.label) ∧
      n.message.content = l.message.content := by
  obtain ⟨hdown, hup⟩ := h.convert
  obtain ⟨k, hk, hlabel, hcontent⟩ :=
    exists_adaptBy_of_convert (Downgrade.restamps r resolve) hdown
  have hlabel : k.label = r.apply l.label := hlabel
  rw [← hlabel, ← hcontent] at hup
  obtain ⟨n, hn, hback, hkept⟩ := exists_adaptBy_of_convert (Upgrade.restamps r.inverse) hup
  have hback : n.label = r.inverse.apply k.label := hback
  refine ⟨n, ?_, hback.trans (congrArg _ hlabel), hkept.trans hcontent⟩
  rw [relay, hk, ok_bind, hn]

end Labelled

/-- All that undoing a table of renames gives: the table the other way round, and the types of
messages, be they taken from the header or from the label beside it. -/
structure TypeRenames.Undone (r : TypeRenames) : Prop where
  inverse : ∀ old new, r.inverse.renamed? new = some old ↔ r.renamed? old = some new
  size : r.inverse.size = r.size
  twice : r.inverse.inverse = r
  message : ∀ (resolve : Downgrade.Resolver) (m : Message),
    Untouched resolve r m.msgType m.content →
    ∃ n, relay resolve r m = .ok n ∧ n.content = m.content ∧
      (n.msgType = m.msgType ↔ r.Old m.msgType ∨ ¬r.New m.msgType)
  label : ∀ (resolve : Downgrade.Resolver) (l : Labelled),
    Untouched resolve r l.label l.message.content →
    ∃ n, l.relay resolve r = .ok n ∧ n.message.content = l.message.content ∧
      (n.label = l.label ↔ r.Old l.label ∨ ¬r.New l.label)

theorem TypeRenames.Sorted.undone {r : TypeRenames} (h : r.Sorted) (hr : r.Injective) :
    r.Undone := by
  have hlabel : ∀ (resolve : Downgrade.Resolver) (l : Labelled),
      Untouched resolve r l.label l.message.content →
      ∃ n, l.relay resolve r = .ok n ∧ n.message.content = l.message.content ∧
        (n.label = l.label ↔ r.Old l.label ∨ ¬r.New l.label) := by
    intro resolve l hl
    obtain ⟨n, hn, hback, hkept⟩ := Labelled.exists_relay hl
    refine ⟨n, hn, hkept, ?_⟩
    rw [hback]
    exact h.inverse_apply_apply_iff hr
  refine ⟨fun _ _ => h.renamed?_inverse_iff hr, h.size_inverse hr, h.inverse_inverse hr, ?_, hlabel⟩
  intro resolve m hm
  obtain ⟨n, hn, hkept, hiff⟩ := hlabel resolve m.labelled hm
  rw [Labelled.relay_labelled] at hn
  obtain ⟨k, hk, rfl⟩ := map_eq_ok_iff.mp hn
  exact ⟨k, hk, hkept, hiff⟩

/-- A table made of pairs says what the last pair of each name says. If it is injective it can be
undone. -/
theorem renames_undone (pairs : List (String × String))
    (h : (TypeRenames.ofList pairs).Injective) :
    (∀ old new, (TypeRenames.ofList pairs).renamed? old = some new ↔
      ∃ earlier later, pairs = earlier ++ (old, new) :: later ∧ old ∉ Assoc.keys later) ∧
    (TypeRenames.ofList pairs).Undone :=
  ⟨fun _ _ => Assoc.get?_ofList_eq_some_iff_append, (TypeRenames.sorted_ofList pairs).undone h⟩

/-- A swap, a chain, a name that stays, and a pair that a later one replaces. -/
def tangledPairs : List (String × String) :=
  [("status", "stream"), ("pyin", "pyout"), ("status", "error"), ("error", "status"),
    ("pyout", "result"), ("clear", "clear")]

theorem renames_undone_tangled :
    (TypeRenames.ofList tangledPairs).Injective ∧
      (TypeRenames.ofList tangledPairs).inverse.renamed? "result" = some "pyout" ∧
      (∃ n, relay Code.Machine.identifierAt (.ofList tangledPairs) (.new (.new "pyout") []) = .ok n ∧
        n.msgType = "pyout") ∧
      ∃ n, relay Code.Machine.identifierAt (.ofList tangledPairs)
          (.new (.new "result") [("status", .str "error")]) = .ok n ∧ n.msgType ≠ "result" := by
  have hsorted := TypeRenames.sorted_ofList tangledPairs
  have hinjective : (TypeRenames.ofList tangledPairs).Injective :=
    hsorted.nodup_swap_iff.mp (by decide)
  obtain ⟨_, hundone⟩ := renames_undone tangledPairs hinjective
  refine ⟨hinjective, (hundone.inverse "pyout" "result").mpr (by decide), ?_, ?_⟩
  · obtain ⟨n, hn, _, hiff⟩ := hundone.message Code.Machine.identifierAt (.new (.new "pyout") [])
      (.notRewritten rfl rfl)
    exact ⟨n, hn, hiff.mpr (Or.inl ⟨"result", by decide⟩)⟩
  · obtain ⟨n, hn, _, hiff⟩ := hundone.message Code.Machine.identifierAt
      (.new (.new "result") [("status", .str "error")]) (.errorReply rfl)
    refine ⟨n, hn, mt hiff.mp (not_or.mpr ⟨?_, not_not_intro ⟨"pyout", by decide⟩⟩)⟩
    exact TypeRenames.not_old_iff.mpr (by decide)

end KernelBridge
