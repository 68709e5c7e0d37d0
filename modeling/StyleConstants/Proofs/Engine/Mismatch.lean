import StyleConstants.Proofs.Engine.Completeness

/-!
# Names that do not come back

A request for names asks for those without a value under the names to be declared, and what comes
back is handed out under converted names again. A name that cannot be declared is refused before
anything is rendered. A name that none of those asked for is converted back to has no value
afterwards, and is refused then. Either way all such names are listed, and nothing else makes a
request fail with names of the wrong case.

* `missing_merge_resolved`: what is missing still after a merge.
* `namedValues_of_invalid`, `namedValues_of_resolved`, `namedValues_of_unresolved`: the three ways
  in which a request goes on that is not answered from the cache.
* `mismatch_is_exact`: when a request fails so, and with which names.
-/

namespace StyleConstants

open Stylesheet

namespace Engine

variable {engine : Engine} {state : State} {path target key : Path} {names : List String}

/-! ## What is missing -/

/-- Of the names that were missing, those are missing still that got no value. -/
theorem missing_merge_missing (cache : Cache) (key : Path) (names : List String)
    (values : Values) : (cache.merge key values).missing key (cache.missing key names) =
      (cache.missing key names).filter fun name => name ∉ values := by
  have hfilter : (cache.missing key names).filter
      (fun name => name ∉ (cache.merge key values).known key) =
        (cache.missing key names).filter fun name => name ∉ values := by
    refine List.filter_congr fun name hname => ?_
    have hunknown := (Cache.mem_missing.1 hname).2
    rw [decide_eq_decide, Cache.known_merge, if_pos (Path.sameAs_iff.2 rfl),
      Std.ExtTreeMap.mem_union_iff, or_iff_left hunknown]
  have hnodup : (cache.missing key names).Nodup := nodup_eraseDups _
  rw [missing_eq, hfilter, eraseDups_of_nodup (hnodup.filter _)]

section Reader

variable (hreader : engine.probe.reader = .declarations)

include hreader

/-- Of the names that were missing, those are missing still that no name asked for is converted back
to. -/
theorem missing_merge_resolved {earlier : List RenderRequest} {cache : Cache} {values : Values}
    (h : engine.resolved earlier target
      ((cache.missing key names).map engine.cases.toDeclared.apply) = .ok values) :
    (cache.merge key values).missing key (cache.missing key names) =
      (cache.missing key names).filter fun name => name ∉ (cache.missing key names).map
        fun wanted => engine.cases.toOutput.apply (engine.cases.toDeclared.apply wanted) := by
  rw [missing_merge_missing]
  refine List.filter_congr fun name _ => ?_
  rw [decide_eq_decide, mem_resolved_iff hreader h, ← List.mem_map, List.map_map]
  rfl

/-- What asking comes to, if anything is asked. -/
theorem resolved_eq {earlier : List RenderRequest} (hnames : names ≠ []) :
    let set := MarkerSet.ofNames engine.token names
    engine.resolved earlier target names =
      match engine.probe.renderer earlier (engine.probe.request target set) with
      | .error fault => .error (.render target fault)
      | .ok rendered =>
        match set.readBack rendered with
        | .error fault => .error (.readback fault)
        | .ok values => .ok (values.renamed engine.cases.toOutput) := by
  intro set
  rw [resolved, if_neg hnames, evaluate]
  cases engine.probe.renderer earlier (engine.probe.request target set) with
  | error fault => rfl
  | ok rendered =>
    dsimp only
    rw [hreader, OutputReader.declarations]
    cases set.readBack rendered <;> rfl

theorem exists_resolved_iff {earlier : List RenderRequest} (hnames : names ≠ []) :
    let set := MarkerSet.ofNames engine.token names
    (∃ values, engine.resolved earlier target names = .ok values) ↔ ∃ rendered values,
      engine.probe.renderer earlier (engine.probe.request target set) = .ok rendered ∧
        set.readBack rendered = .ok values := by
  intro set
  rw [resolved_eq hreader hnames]
  constructor
  · rintro ⟨values, hvalues⟩
    split at hvalues
    · cases hvalues
    · rename_i rendered hrendered
      split at hvalues
      · cases hvalues
      · rename_i read hread
        exact ⟨rendered, read, hrendered, hread⟩
  · rintro ⟨rendered, values, hrendered, hread⟩
    exact ⟨values.renamed engine.cases.toOutput, by rw [hrendered]; dsimp only; rw [hread]⟩

/-- Asking fails in the compiler or in the reader. -/
theorem resolved_ne_caseMismatch {earlier : List RenderRequest} {culprits : List String} :
    engine.resolved earlier target names ≠ .error (.caseMismatch culprits) := by
  intro h
  by_cases hnames : names = []
  · rw [resolved, if_pos hnames] at h
    cases h
  · rw [resolved_eq hreader hnames] at h
    split at h
    · cases h
    · split at h <;> cases h

end Reader

/-! ## How a request goes on -/

theorem namedValues_of_invalid (hlocate : state.locate path = .ok (target, key))
    (hinvalid : engine.invalid (state.cache.missing key names) ≠ []) :
    engine.namedValues state path names =
      (.error (.caseMismatch (engine.invalid (state.cache.missing key names))), state) := by
  have hmissing : state.cache.missing key names ≠ [] := by
    intro hnil
    rw [hnil] at hinvalid
    exact hinvalid rfl
  rw [namedValues_eq hlocate]
  dsimp only
  rw [if_neg hmissing, if_neg hinvalid]

section Asked

variable (hlocate : state.locate path = .ok (target, key))
  (hinvalid : engine.invalid (state.cache.missing key names) = [])

include hlocate hinvalid

theorem namedValues_of_unresolved (hmissing : state.cache.missing key names ≠ []) {fault : Failure}
    (hfault : engine.resolved state.renders target
      ((state.cache.missing key names).map engine.cases.toDeclared.apply) = .error fault) :
    (engine.namedValues state path names).1 = .error fault := by
  rw [namedValues_eq hlocate]
  dsimp only
  rw [if_neg hmissing, if_pos hinvalid, hfault]

theorem namedValues_of_resolved (hreader : engine.probe.reader = .declarations) {values : Values}
    (hvalues : engine.resolved state.renders target
      ((state.cache.missing key names).map engine.cases.toDeclared.apply) = .ok values) :
    let absent := state.cache.missing key names
    let lost := absent.filter fun name => name ∉ absent.map
      fun wanted => engine.cases.toOutput.apply (engine.cases.toDeclared.apply wanted)
    (lost = [] → ∃ values, (engine.namedValues state path names).1 = .ok values) ∧
      (lost ≠ [] → (engine.namedValues state path names).1 = .error (.caseMismatch lost)) := by
  intro absent lost
  have hlost : (state.cache.merge key values).missing key absent = lost :=
    missing_merge_resolved hreader hvalues
  rw [namedValues_eq hlocate]
  dsimp only
  by_cases hmissing : absent = []
  · rw [if_pos hmissing]
    exact ⟨fun _ => ⟨_, rfl⟩, fun hne => absurd (by simp [lost, hmissing]) hne⟩
  · rw [if_neg hmissing, if_pos hinvalid, hvalues]
    dsimp only
    rw [hlost]
    refine ⟨fun hnone => ?_, fun hsome => by rw [if_neg hsome]⟩
    rw [if_pos hnone]
    exact ⟨_, rfl⟩

theorem namedValues_of_unanswered (hreader : engine.probe.reader = .declarations)
    (hfails : state.cache.missing key names ≠ [] → ¬ ∃ values, engine.resolved state.renders target
      ((state.cache.missing key names).map engine.cases.toDeclared.apply) = .ok values)
    (culprits : List String) :
    (engine.namedValues state path names).1 ≠ .error (.caseMismatch culprits) := by
  by_cases hmissing : state.cache.missing key names = []
  · rw [namedValues_of_known hlocate (Cache.missing_eq_nil_iff.1 hmissing)]
    exact fun h => nomatch h
  · cases hresolved : engine.resolved state.renders target
        ((state.cache.missing key names).map engine.cases.toDeclared.apply) with
    | error fault =>
      rw [namedValues_of_unresolved hlocate hinvalid hmissing hresolved]
      intro h
      rw [Except.error.inj h] at hresolved
      exact resolved_ne_caseMismatch hreader hresolved
    | ok values => exact absurd ⟨values, hresolved⟩ (hfails hmissing)

end Asked

/-- **Names that do not come back.** A request for names fails for their case exactly if some of the
names without a value cannot be declared, and then nothing is rendered, or, with values rendered and
read, if some of them are the conversion of no name asked for. It lists these, each once and in the
order of the request. It does not fail so if conversion there and back gives each name again. -/
theorem mismatch_is_exact (cases : Naming) (renderer : Renderer) (loadPaths : List Path)
    (token : MarkerToken) (state : State) {path target key : Path}
    (hlocate : state.locate path = .ok (target, key)) (names : List String) :
    let engine : Engine := ⟨cases, ⟨renderer, .declarations, loadPaths⟩, token⟩
    let declared := cases.toDeclared.apply
    let output := cases.toOutput.apply
    let absent := (names.filter fun name => name ∉ state.cache.known key).eraseDups
    let invalid := absent.filter fun name => !isVariableName (declared name).toList
    let lost := absent.filter fun name => name ∉ absent.map fun wanted => output (declared wanted)
    let set := MarkerSet.ofNames token (absent.map declared)
    let answered := ∃ rendered values,
      renderer state.renders (engine.probe.request target set) = .ok rendered ∧
        set.readBack rendered = .ok values
    let result := engine.namedValues state path names
    (invalid ≠ [] →
      result.1 = .error (.caseMismatch invalid) ∧ result.2.renders = state.renders) ∧
    (invalid = [] → answered →
      (lost ≠ [] → result.1 = .error (.caseMismatch lost)) ∧
      (lost = [] → ∃ values, result.1 = .ok values)) ∧
    (invalid = [] → ¬ answered → ∀ culprits, result.1 ≠ .error (.caseMismatch culprits)) ∧
    ((∀ name ∈ absent, output (declared name) = name ∧
        isVariableName (declared name).toList = true) →
      ∀ culprits, result.1 ≠ .error (.caseMismatch culprits)) := by
  intro engine declared output absent invalid lost set answered result
  have hreader : engine.probe.reader = .declarations := rfl
  have habsent : state.cache.missing key names = absent := missing_eq state.cache key names
  have hinvalid : engine.invalid (state.cache.missing key names) = invalid := by
    rw [habsent]
    rfl
  have hanswered : absent ≠ [] →
      ((∃ values, engine.resolved state.renders target (absent.map declared) = .ok values) ↔
        answered) := by
    intro hne
    have hnames : absent.map declared ≠ [] := fun hnil => hne (List.map_eq_nil_iff.1 hnil)
    exact exists_resolved_iff hreader hnames
  have hresolved : answered →
      ∃ values, engine.resolved state.renders target (absent.map declared) = .ok values := by
    intro h
    by_cases hnone : absent = []
    · exact ⟨∅, by rw [hnone]; rfl⟩
    · exact (hanswered hnone).2 h
  have hrefused : invalid = [] → answered →
      (lost ≠ [] → result.1 = .error (.caseMismatch lost)) ∧
        (lost = [] → ∃ values, result.1 = .ok values) := by
    intro hvalid h
    obtain ⟨values, hvalues⟩ := hresolved h
    rw [← habsent] at hvalues
    have houtcome := namedValues_of_resolved hlocate (hinvalid.trans hvalid) hreader hvalues
    rw [habsent] at houtcome
    exact ⟨houtcome.2, houtcome.1⟩
  have hfails : invalid = [] → ¬ answered →
      ∀ culprits, result.1 ≠ .error (.caseMismatch culprits) := by
    intro hvalid h
    refine namedValues_of_unanswered hlocate (hinvalid.trans hvalid) hreader ?_
    rw [habsent]
    exact fun hne => mt (hanswered hne).1 h
  refine ⟨?_, hrefused, hfails, ?_⟩
  · intro hne
    have hresult : result = (.error (.caseMismatch invalid), state) := by
      rw [← hinvalid] at hne ⊢
      exact namedValues_of_invalid hlocate hne
    rw [hresult]
    exact ⟨rfl, rfl⟩
  · intro hround culprits
    have hvalid : invalid = [] :=
      List.filter_eq_nil_iff.2 fun name hname => by simp [(hround name hname).2]
    have hnone : lost = [] := by
      refine List.filter_eq_nil_iff.2 fun name hname => ?_
      rw [decide_eq_true_iff]
      exact fun hlost => hlost (List.mem_map.2 ⟨name, hname, (hround name hname).1⟩)
    by_cases h : answered
    · obtain ⟨values, hvalues⟩ := (hrefused hvalid h).2 hnone
      rw [hvalues]
      exact fun h => nomatch h
    · exact hfails hvalid h culprits

/-- A file, whatever it holds. -/
def plainTree : MemoryTree := MemoryTree.empty.add (.ofText "/a.scss") []

def plainState : State := .fresh plainTree.fileSystem

/-- An engine that hands out in one style what is declared in another. -/
def stylingEngine : Engine :=
  ⟨⟨.style .param, .style .camel⟩,
    ⟨.prepared [] (.ok "#vars_0f\x7b--my-var_0f:1\x7d"), .declarations, []⟩, ⟨"0f"⟩⟩

theorem mismatch_is_exact_styling :
    plainState.locate (.ofText "/a.scss") = .ok (.ofText "/a.scss", .ofText "/a.scss") ∧
      (stylingEngine.namedValues plainState (.ofText "/a.scss") ["my-var", "myVar", "my-var"]).1 =
        .error (.caseMismatch ["my-var"]) ∧
      (stylingEngine.namedValues plainState (.ofText "/a.scss") ["myVar", "2x", "", "2x"]).1 =
        .error (.caseMismatch ["2x", ""]) := by
  have hlocate : plainState.locate (.ofText "/a.scss") =
      .ok (.ofText "/a.scss", .ofText "/a.scss") := rfl
  have hexact := mismatch_is_exact stylingEngine.cases stylingEngine.probe.renderer []
    ⟨"0f"⟩ plainState hlocate
  dsimp only at hexact
  refine ⟨hlocate, ?_, ?_⟩
  · obtain ⟨-, hrefused, -⟩ := hexact ["my-var", "myVar", "my-var"]
    have habsent : (["my-var", "myVar", "my-var"].filter fun name =>
        name ∉ plainState.cache.known (.ofText "/a.scss")).eraseDups = ["my-var", "myVar"] := by
      decide +kernel
    have hset : MarkerSet.ofNames ⟨"0f"⟩
        (["my-var", "myVar"].map stylingEngine.cases.toDeclared.apply) =
          ⟨⟨"0f"⟩, ["my-var"]⟩ := by
      decide +kernel
    have hlost : (["my-var", "myVar"].filter fun name => name ∉ ["my-var", "myVar"].map
        fun wanted => stylingEngine.cases.toOutput.apply
          (stylingEngine.cases.toDeclared.apply wanted)) = ["my-var"] := by
      decide +kernel
    have hread : ∃ values, (MarkerSet.mk ⟨"0f"⟩ ["my-var"]).readBack
        "#vars_0f\x7b--my-var_0f:1\x7d" = .ok values := ⟨_, rfl⟩
    obtain ⟨values, hvalues⟩ := hread
    rw [habsent, hset, hlost] at hrefused
    exact (hrefused (by decide +kernel) ⟨_, values, rfl, hvalues⟩).1 (by decide)
  · obtain ⟨hinvalid, -⟩ := hexact ["myVar", "2x", "", "2x"]
    have habsent : (["myVar", "2x", "", "2x"].filter fun name =>
        name ∉ plainState.cache.known (.ofText "/a.scss")).eraseDups = ["myVar", "2x", ""] := by
      decide +kernel
    have hculprits : (["myVar", "2x", ""].filter fun name =>
        !isVariableName (stylingEngine.cases.toDeclared.apply name).toList) = ["2x", ""] := by
      decide +kernel
    rw [habsent, hculprits] at hinvalid
    exact (hinvalid (by decide)).1

end Engine

end StyleConstants
