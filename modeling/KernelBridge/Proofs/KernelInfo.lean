import KernelBridge.Assoc.Ascending
import KernelBridge.Proofs.Crossing
import KernelBridge.Proofs.Downgrade
import KernelBridge.Proofs.Segments
import KernelBridge.Proofs.Upgrade

/-! # Replies about kernels on the way there and back

Version 4 has lists where version 5 has dotted texts, one name for the implementation and its
version together, and no banner. What comes back of a reply of version 5 is told key by key:
`Returned`; a reply of version 4 gets its lists back.
-/
namespace KernelBridge.Protocol
open Json Outcome

/-- The fields with a version that both protocol versions have. -/
def versionFields : List String := ["language_version", "protocol_version"]

/-- What a reply says about the implementation: its name, its version, and both under the name that
version 4 knows. -/
def implementationOf (content : Object) : List (Option Value) :=
  [content.get? "implementation", content.get? "implementation_version",
    content.get? "ipython_version"]

namespace Downgrade
variable {content result : Object} {k : String}

theorem get?_of_ne_implementationKey (h : kernelInfoReply content = .ok result)
    (hk : k ≠ implementationKey) : result.get? k = (foldedReply content).get? k := by
  rcases kernelInfoReply_eq_ok_iff.mp h with ⟨_, rfl⟩ | ⟨_, language, _, rfl⟩
  · rfl
  · rw [Assoc.get?_insert, if_neg hk]

theorem get?_splitVersions (hk : k ∉ "banner" :: versionFields) :
    (splitVersions content).get? k = content.get? k := by
  simp only [versionFields, List.mem_cons, List.not_mem_nil, or_false, not_or] at hk
  simp [splitVersions, hk]

theorem segmentList_str (version : String) :
    segmentList (.str version) = some (.arr ((Version.segments version).map .int)) := rfl

/-- A field with a version comes down as a list if it holds a text. -/
theorem get?_versionField (h : kernelInfoReply content = .ok result) (hk : k ∈ versionFields) :
    result.get? k = (content.get? k).map fun v => (segmentList v).getD v := by
  simp only [versionFields, List.mem_cons, List.not_mem_nil, or_false] at hk
  have hfolded : (foldedReply content).get? k = (splitVersions content).get? k := by
    unfold foldedReply foldImplementation
    rcases hk with rfl | rfl <;> split <;> simp
  rw [get?_of_ne_implementationKey h (by rcases hk with rfl | rfl <;> decide), hfolded]
  rcases hk with rfl | rfl <;> simp [splitVersions]

/-- The version of the one implementation that version 4 has a name for. -/
def ipythonVersion? (content : Object) : Option Value :=
  if content.text? "implementation" = some "ipython" then content.get? "implementation_version"
  else none

theorem ipythonVersion?_of_ipython (h : content.get? "implementation" = some (.str "ipython")) :
    ipythonVersion? content = content.get? "implementation_version" :=
  if_pos (Object.text?_eq_some_iff.mpr h)

theorem ipythonVersion?_eq_none (h : content.get? "implementation" = some (.str "ipython") →
    content.get? "implementation_version" = none) : ipythonVersion? content = none := by
  unfold ipythonVersion?
  split
  · next hname => exact h (Object.text?_eq_some_iff.mp hname)
  · rfl

theorem implementationOf_kernelInfoReply (h : kernelInfoReply content = .ok result)
    (hc : content.get? "ipython_version" = none) :
    implementationOf result = [none, none, ipythonVersion? content] := by
  have hname : (splitVersions content).text? "implementation" = content.text? "implementation" := by
    rw [Object.text?, Object.text?, get?_splitVersions (by decide)]
  have hversion : (splitVersions content).get? "implementation_version" =
      content.get? "implementation_version" := get?_splitVersions (by decide)
  have hsilent : (splitVersions content).get? "ipython_version" = none := by
    rw [get?_splitVersions (by decide), hc]
  have hkey : ∀ k ∈ ["implementation", "implementation_version", "ipython_version"],
      result.get? k = (foldedReply content).get? k := by
    intro k hk
    refine get?_of_ne_implementationKey h ?_
    rintro rfl
    exact absurd hk (by decide)
  rw [implementationOf, hkey _ (by simp), hkey _ (by simp), hkey _ (by simp), foldedReply,
    foldImplementation, hname, hversion]
  split
  · next version hipython hsome =>
    simp [ipythonVersion?_of_ipython (Object.text?_eq_some_iff.mp hipython), hsome]
  · next hother =>
    have hnone : ipythonVersion? content = none := by
      refine ipythonVersion?_eq_none fun hipython => Option.eq_none_iff_forall_ne_some.mpr ?_
      intro version hsome
      exact hother version (Object.text?_eq_some_iff.mpr hipython) hsome
    simp [hnone, hsilent]

/-- A language is named for version 4 if nothing else is. -/
theorem kernelInfoReply_of_language {language : Value}
    (hl : content.get? "language" = some language) (hc : content.get? implementationKey = none) :
    kernelInfoReply content = .ok ((foldedReply content).insert implementationKey language) := by
  have habsent : (foldedReply content).contains implementationKey = false := by
    rw [Assoc.contains, get?_foldedReply (by decide), hc]
    rfl
  have hfound : language? (foldedReply content) = some language := by
    rw [language?, get?_foldedReply (by decide), hl, Option.some_or]
  exact kernelInfoReply_eq_ok_iff.mpr (Or.inr ⟨habsent, language, hfound, rfl⟩)

theorem ascending_foldedReply (h : content.Ascending) : (foldedReply content).Ascending := by
  have hsplit : (splitVersions content).Ascending := ((h.erase "banner").modify _ _).modify _ _
  unfold foldedReply foldImplementation
  split
  · exact (hsplit.insert _ _).without _
  · exact hsplit.without _

end Downgrade

namespace Upgrade
variable {content result : Object} {k : String}

/-- A field with a version goes up as a dotted text if it holds a list. -/
theorem get?_versionField (h : kernelInfoReply content = .ok result) (hk : k ∈ versionFields) :
    result.get? k = (content.get? k).map fun v => (dottedText v).getD v := by
  obtain ⟨language, _, rfl⟩ := kernelInfoReply_eq_ok_iff.mp h
  simp only [versionFields, List.mem_cons, List.not_mem_nil, or_false] at hk
  have hdotted : (dotVersions content).get? k =
      (content.get? k).map fun v => (dottedText v).getD v := by
    rcases hk with rfl | rfl <;> simp [dotVersions]
  have hunfolded : (unfoldImplementation (dotVersions content)).get? k =
      (dotVersions content).get? k := by
    unfold unfoldImplementation
    rcases hk with rfl | rfl <;> split <;> simp
  rw [Assoc.get?_insert, if_neg (by rcases hk with rfl | rfl <;> decide)]
  split
  · rw [hunfolded, hdotted]
  · exact hdotted

/-- Numbers are written in a list as they are written in a dotted text. -/
theorem dottedText_segments (ns : List Int) :
    dottedText (.arr (ns.map .int)) = some (.str (Version.ofSegments ns)) := by
  have htexts : (ns.map Value.int).map segmentText = ns.map Decimal.intText := by
    rw [List.map_map]
    rfl
  unfold dottedText Version.ofSegments
  rw [Value.asList?_arr, Option.map_some, htexts]

theorem get?_banner (h : kernelInfoReply content = .ok result) :
    result.get? "banner" = some (.str "") := by
  obtain ⟨language, _, rfl⟩ := kernelInfoReply_eq_ok_iff.mp h
  rw [Assoc.get?_insert, if_pos rfl]

/-- What version 4 says about the implementation is said with two names if it is about Python. -/
theorem implementationOf_kernelInfoReply {language : String} {version : Option String}
    (h : kernelInfoReply content = .ok result) (hl : content.get? "language" = some (.str language))
    (hc : implementationOf content = [none, none, version.map .str]) :
    implementationOf result =
      if isPython language then
        [version.map fun _ => .str "ipython", version.map .str, none]
      else [none, none, version.map .str] := by
  obtain ⟨other, hother, rfl⟩ := kernelInfoReply_eq_ok_iff.mp h
  obtain rfl := Value.str.inj (Option.some.inj (hl.symm.trans hother))
  simp only [implementationOf, List.cons.injEq, and_true] at hc
  obtain ⟨hname, hversion, hipython⟩ := hc
  have hdotted : (dotVersions content).get? "ipython_version" = version.map .str := by
    simp only [dotVersions, Object.get?_change, hipython]
    cases version <;> rfl
  have hkept : ∀ k ∈ ["implementation", "implementation_version"],
      (dotVersions content).get? k = none := by
    simp [dotVersions, hname, hversion]
  unfold implementationOf
  split
  · unfold unfoldImplementation
    cases version with
    | none => simp [hdotted, hkept]
    | some version => simp [hdotted]
  · simp [hdotted, hkept]

theorem ascending_kernelInfoReply (h : kernelInfoReply content = .ok result)
    (hc : content.Ascending) : result.Ascending := by
  obtain ⟨language, _, rfl⟩ := kernelInfoReply_eq_ok_iff.mp h
  have hdotted : (dotVersions content).Ascending := ((hc.modify _ _).modify _ _).modify _ _
  have hunfolded : (unfoldImplementation (dotVersions content)).Ascending := by
    unfold unfoldImplementation
    split
    · exact hdotted
    · exact ((hdotted.erase _).insert _ _).insert _ _
  split
  · exact hunfolded.insert _ _
  · exact hdotted.insert _ _

end Upgrade

/-- Replies as version 5 has them: without the keys of version 4, and with texts for versions. -/
structure CurrentReply (content : Object) (language : String) : Prop where
  language : content.get? "language" = some (.str language)
  implementation : content.get? implementationKey = none
  ipythonVersion : content.get? "ipython_version" = none
  versions : ∀ k ∈ "implementation_version" :: versionFields, ∀ v,
    content.get? k = some v → ∃ version, v = .str version

/-- What has become of a reply that went to version 4 and came back. -/
structure Returned (content : Object) (language : String) (result : Object) : Prop where
  banner : result.get? "banner" = some (.str "")
  implementation : result.get? implementationKey = some (.str language)
  versions : ∀ k ∈ versionFields, result.get? k =
    (content.text? k).map fun version => .str (Version.normalize version)
  kept : ∀ version, content.get? "implementation" = some (.str "ipython") →
    content.get? "implementation_version" = some version →
    "python".toList <+: language.toList →
    implementationOf result = [some (.str "ipython"), some version, none]
  folded : ∀ version, content.get? "implementation" = some (.str "ipython") →
    content.get? "implementation_version" = some version →
    ¬"python".toList <+: language.toList →
    implementationOf result = [none, none, some version]
  dropped : (content.get? "implementation" = some (.str "ipython") →
      content.get? "implementation_version" = none) →
    implementationOf result = [none, none, none]
  others : ∀ k, k ∉ ["banner", implementationKey, "language_version", "protocol_version",
      "implementation", "implementation_version", "ipython_version"] →
    result.get? k = content.get? k
  ascending : content.Ascending → result.Ascending

variable {content middle result : Object} {language : String}

theorem CurrentReply.get?_eq_text? (h : CurrentReply content language) {k : String}
    (hk : k ∈ "implementation_version" :: versionFields) :
    content.get? k = (content.text? k).map .str := by
  unfold Object.text?
  cases hv : content.get? k with
  | none => rfl
  | some v =>
    obtain ⟨version, rfl⟩ := h.versions k hk v hv
    rfl

theorem isPython_iff : Upgrade.isPython language = true ↔ "python".toList <+: language.toList :=
  List.isPrefixOf_iff_prefix

theorem returned_of_steps (h : CurrentReply content language)
    (hd : Downgrade.kernelInfoReply content = .ok middle)
    (hu : Upgrade.kernelInfoReply middle = .ok result) : Returned content language result := by
  have hmiddle : middle = (Downgrade.foldedReply content).insert implementationKey
      (.str language) := by
    have hd' := Downgrade.kernelInfoReply_of_language h.language h.implementation
    exact Except.ok.inj (hd.symm.trans hd')
  have hkeeps {k : String} (hk : k ∉ Downgrade.kernelInfoKeys ++ Upgrade.kernelInfoKeys) :
      result.get? k = content.get? k := by
    rw [List.mem_append, not_or] at hk
    rw [Upgrade.get?_kernelInfoReply hu hk.2, Downgrade.get?_kernelInfoReply hd hk.1]
  have hlanguage : middle.get? "language" = some (.str language) := by
    rw [Downgrade.get?_kernelInfoReply hd (by decide), h.language]
  have hrelayed {version : Option String}
      (hversion : Downgrade.ipythonVersion? content = version.map .str) :=
    Upgrade.implementationOf_kernelInfoReply hu hlanguage
      (hversion ▸ Downgrade.implementationOf_kernelInfoReply hd h.ipythonVersion)
  have hversion {v : Value} (hname : content.get? "implementation" = some (.str "ipython"))
      (hv : content.get? "implementation_version" = some v) :
      ∃ version, v = .str version ∧
        Downgrade.ipythonVersion? content = (some version).map .str := by
    obtain ⟨version, rfl⟩ := h.versions _ List.mem_cons_self v hv
    exact ⟨version, rfl, (Downgrade.ipythonVersion?_of_ipython hname).trans hv⟩
  refine ⟨Upgrade.get?_banner hu, ?_, ?_, ?_, ?_, ?_, ?_, ?_⟩
  · rw [Upgrade.get?_kernelInfoReply hu (by decide), hmiddle, Assoc.get?_insert, if_pos rfl]
  · intro k hk
    rw [Upgrade.get?_versionField hu hk, Downgrade.get?_versionField hd hk,
      h.get?_eq_text? (List.mem_cons_of_mem _ hk)]
    cases content.text? k with
    | none => rfl
    | some version =>
      simp only [Option.map_some, Downgrade.segmentList_str, Option.getD_some,
        Upgrade.dottedText_segments]
      rfl
  · intro v hname hv hpython
    obtain ⟨version, rfl, hkept⟩ := hversion hname hv
    rw [hrelayed hkept, if_pos (isPython_iff.mpr hpython)]
    rfl
  · intro v hname hv hpython
    obtain ⟨version, rfl, hkept⟩ := hversion hname hv
    rw [hrelayed hkept, if_neg fun htrue => hpython (isPython_iff.mp htrue)]
    rfl
  · intro hnone
    have hunknown : Downgrade.ipythonVersion? content = (none : Option String).map .str :=
      Downgrade.ipythonVersion?_eq_none hnone
    rw [hrelayed hunknown]
    exact ite_self _
  · intro k hk
    refine hkeeps ?_
    simp_all [Downgrade.kernelInfoKeys, Upgrade.kernelInfoKeys]
  · intro hasc
    rw [hmiddle] at hu
    exact Upgrade.ascending_kernelInfoReply hu ((Downgrade.ascending_foldedReply hasc).insert _ _)

/-- A reply about a kernel of version 5 comes back from version 4, and `Returned` tells as what. -/
theorem kernel_info_comes_back (resolve : Downgrade.Resolver) {m : Message} {language : String}
    (ht : m.msgType = "kernel_info_reply") (he : m.content.reportsError = false)
    (h : CurrentReply m.content language) :
    ∃ result, (downgrade resolve m >>= upgrade) =
        .ok (m.restamp (some "5.0") "kernel_info_reply" result) ∧
      Returned m.content language result := by
  have hd := Downgrade.kernelInfoReply_of_language h.language h.implementation
  have hlanguage := (Downgrade.get?_kernelInfoReply hd (k := "language") (by decide)).trans h.language
  have hu := Upgrade.kernelInfoReply_eq_ok_iff.mpr ⟨language, hlanguage, rfl⟩
  have hstatus := Downgrade.get?_kernelInfoReply hd (k := "status") (by decide)
  refine ⟨_, ?_, returned_of_steps h hd hu⟩
  rw [downgrade_bind_upgrade resolve (by rw [ht]; decide), ht,
    Crossing.kernelInfoReply.down_up he hd hstatus hu, map_ok]
  rfl

/-- A reply for Python with versions that are not in normal form. -/
def pythonReply : Message :=
  .new ⟨"kernel_info_reply", some "5.3", [("session", .str "a")]⟩
    [("banner", .str "Welcome"), ("implementation", .str "ipython"),
      ("implementation_version", .str "8.x"), ("language", .str "python3"),
      ("language_version", .str "3.012.x"), ("protocol_version", .str "")]

theorem kernel_info_comes_back_python :
    CurrentReply pythonReply.content "python3" ∧
      ∃ result, (downgrade Code.Machine.identifierAt pythonReply >>= upgrade) =
          .ok (pythonReply.restamp (some "5.0") "kernel_info_reply" result) ∧
        result.get? "language_version" = some (.str "3.12") ∧
        implementationOf result = [some (.str "ipython"), some (.str "8.x"), none] := by
  have hcurrent : CurrentReply pythonReply.content "python3" := by
    refine ⟨rfl, rfl, rfl, ?_⟩
    intro k hk v hv
    simp only [versionFields, List.mem_cons, List.not_mem_nil, or_false] at hk
    rcases hk with rfl | rfl | rfl <;> exact ⟨_, (Option.some.inj hv).symm⟩
  obtain ⟨result, hresult, hreturned⟩ :=
    kernel_info_comes_back Code.Machine.identifierAt (m := pythonReply) rfl (by decide) hcurrent
  refine ⟨hcurrent, result, hresult, ?_, hreturned.kept _ rfl rfl (by decide)⟩
  have htext : pythonReply.content.text? "language_version" = some "3.012.x" := rfl
  have hnormal : Version.normalize "3.012.x" = "3.12" := by decide
  rw [hreturned.versions "language_version" (by decide), htext, Option.map_some, hnormal]

/-- Lists of numbers become dotted texts of which they can be read off again. Version 5 is given those
in the version fields of a reply as such texts, and version 4 gets them back as they were. -/
theorem version_lists_come_back :
    (∀ ns : List Int, (∀ n ∈ ns, Word.fitsInt64 n = true) →
      Version.segments (Version.ofSegments ns) = ns) ∧
    (∀ ns : List Int,
      Upgrade.dottedText (.arr (ns.map .int)) = some (.str (Version.ofSegments ns))) ∧
    ∀ (resolve : Downgrade.Resolver) (m : Message) (language : String),
      m.msgType = "kernel_info_reply" → m.content.reportsError = false →
      m.content.get? "language" = some (.str language) →
      ∃ middle n, upgrade m = .ok middle ∧ downgrade resolve middle = .ok n ∧
        ∀ k ∈ versionFields, ∀ ns : List Int, (∀ n ∈ ns, Word.fitsInt64 n = true) →
          m.content.get? k = some (.arr (ns.map .int)) →
          middle.content.get? k = some (.str (Version.ofSegments ns)) ∧
            n.content.get? k = some (.arr (ns.map .int)) := by
  refine ⟨fun ns => Version.segments_ofSegments, Upgrade.dottedText_segments, ?_⟩
  intro resolve m language ht he hl
  have hcross : Crossing resolve "kernel_info_reply" _ _ := .kernelInfoReply
  have hu := Upgrade.kernelInfoReply_eq_ok_iff.mpr ⟨language, hl, rfl⟩
  obtain ⟨result, hd⟩ := Downgrade.exists_kernelInfoReply
    ((Upgrade.get?_kernelInfoReply hu (k := "language") (by decide)).trans hl)
  have hplain := (Object.reportsError_congr
    (Upgrade.get?_kernelInfoReply hu (k := "status") (by decide))).trans he
  refine ⟨_, _, (hcross.upgrade_eq_ok_iff ht he).mpr ⟨_, hu, rfl⟩,
    (hcross.downgrade_eq_ok_iff rfl hplain).mpr ⟨result, hd, rfl⟩, ?_⟩
  intro k hk ns hns hfield
  have hdotted := Upgrade.get?_versionField hu hk
  rw [hfield, Option.map_some, Upgrade.dottedText_segments, Option.getD_some] at hdotted
  refine ⟨hdotted, ?_⟩
  rw [Message.content_restamp, Downgrade.get?_versionField hd hk, hdotted, Option.map_some,
    Downgrade.segmentList_str, Option.getD_some, Version.segments_ofSegments hns]

/-- A reply of version 4 with the least number that a version can have, and with an empty list. -/
def listedReply : Message :=
  .new ⟨"kernel_info_reply", none, []⟩
    [("language", .str "julia"), ("language_version", .arr []),
      ("protocol_version", .arr [.int 4, .int Word.leastInt64])]

theorem version_lists_come_back_least :
    Version.segments (Version.ofSegments [4, Word.leastInt64]) = [4, Word.leastInt64] ∧
      ∃ middle n, upgrade listedReply = .ok middle ∧
        downgrade Code.Machine.identifierAt middle = .ok n ∧
        middle.content.get? "protocol_version" = some (.str "4.-9223372036854775808") ∧
        n.content.get? "protocol_version" = some (.arr [.int 4, .int Word.leastInt64]) ∧
        n.content.get? "language_version" = some (.arr []) := by
  obtain ⟨hsegments, _, hreply⟩ := version_lists_come_back
  have hfits : ∀ n ∈ [4, Word.leastInt64], Word.fitsInt64 n = true := by decide
  obtain ⟨middle, n, hmiddle, hn, hlists⟩ :=
    hreply Code.Machine.identifierAt listedReply "julia" rfl (by decide) rfl
  obtain ⟨hdotted, hlist⟩ := hlists "protocol_version" (by decide) [4, Word.leastInt64] hfits rfl
  obtain ⟨_, hempty⟩ := hlists "language_version" (by decide) [] (by decide) rfl
  have htext : Version.ofSegments [4, Word.leastInt64] = "4.-9223372036854775808" := by decide
  rw [htext] at hdotted
  exact ⟨hsegments _ hfits, middle, n, hmiddle, hn, hdotted, hlist, hempty⟩

end KernelBridge.Protocol
