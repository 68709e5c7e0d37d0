import StyleConstants.Proofs.Engine.Submission
import StyleConstants.Proofs.Text.Distinct

/-!
# No rendering is redundant

Only what is not known is asked for, and nothing is asked for twice. A request for names submits
the names without a value, and one for all values submits the names found without a value; the
search for them is passed over when the file is marked. So what was answered once is answered from
the cache ever after.

* `pairwise_unresolved`, `mem_unresolved`: the names found without a value, in ascending order.
* `Request.IsKnown`: what a request asks for is known already; then it is answered from the cache.
* `serve_of_served`: a request that was answered is answered again without rendering.
* `no_redundant_rendering`: all of it.
-/

namespace StyleConstants

open Stylesheet

theorem NameSet.pairwise_toList (names : NameSet) : names.toList.Pairwise (· < ·) :=
  names.ordered_toList.imp fun h => compareOfLessAndEq_eq_lt.1 h

namespace Engine

variable {engine : Engine} {state : State} {path target key : Path}

/-! ## The names asked for -/

theorem missing_eq (cache : Cache) (key : Path) (names : List String) :
    cache.missing key names = (names.filter fun name => name ∉ cache.known key).eraseDups := by
  have hfilter : (fun name => !(cache.known key).contains name) =
      fun name => decide (name ∉ cache.known key) := by
    funext name
    rw [Bool.eq_iff_iff, Bool.not_eq_true', ← Bool.not_eq_true, Std.ExtTreeMap.contains_iff_mem,
      decide_eq_true_iff]
  rw [Cache.missing, hfilter]

theorem pairwise_unresolved (engine : Engine) (known : Values) (names : NameSet) :
    (engine.unresolved known names).Pairwise (· < ·) :=
  names.pairwise_toList.filter _

theorem mem_unresolved {known : Values} {names : NameSet} {name : String} :
    name ∈ engine.unresolved known names ↔
      name ∈ names ∧ engine.cases.toOutput.apply name ∉ known := by
  rw [unresolved, List.mem_filter, Std.ExtTreeSet.mem_toList, Bool.not_eq_true', ← Bool.not_eq_true,
    Std.ExtTreeMap.contains_iff_mem]

theorem submission_of_nodup {names : List String} (h : names.Nodup) :
    engine.submission target names =
      if names = [] then [] else [engine.probe.request target ⟨engine.token, names⟩] := by
  rw [submission, MarkerSet.ofNames, eraseDups_of_nodup h]

theorem submission_checked (engine : Engine) (target : Path) (absent : List String) :
    let declared := (absent.map engine.cases.toDeclared.apply).eraseDups
    (if engine.invalid absent = [] then
        engine.submission target (absent.map engine.cases.toDeclared.apply)
      else []) =
      if absent ≠ [] ∧ ∀ name ∈ declared, isVariableName name.toList = true then
        [engine.probe.request target ⟨engine.token, declared⟩]
      else [] := by
  intro declared
  have hvalid : engine.invalid absent = [] ↔
      ∀ name ∈ declared, isVariableName name.toList = true := by
    rw [invalid_eq_nil_iff]
    simp only [declared, List.mem_eraseDups, List.forall_mem_map]
  rw [submission]
  by_cases hnone : absent = []
  · rw [if_pos (List.map_eq_nil_iff.2 hnone), ite_self, if_neg fun h => h.1 hnone]
  · rw [if_neg fun h => hnone (List.map_eq_nil_iff.1 h)]
    by_cases hnames : ∀ name ∈ declared, isVariableName name.toList = true
    · rw [if_pos (hvalid.2 hnames), if_pos ⟨hnone, hnames⟩]
      rfl
    · rw [if_neg fun h => hnames (hvalid.1 h), if_neg fun h => hnames h.2]

/-! ## Requests that were answered -/

theorem isComplete_of_allValues_eq_ok (hlocate : state.locate path = .ok (target, key))
    {values : Values} (h : (engine.allValues state path).1 = .ok values) :
    (engine.allValues state path).2.cache.isComplete key = true := by
  have houtcome := allValues_outcome engine state path
  generalize engine.allValues state path = result at houtcome h
  cases houtcome with
  | unlocated => cases h
  | complete hlocate' hcomplete =>
    cases hlocate'.symm.trans hlocate
    exact hcomplete
  | unsearched => cases h
  | unanswered => cases h
  | @resolved _ _ _ resolved _ asked hlocate' =>
    cases hlocate'.symm.trans hlocate
    have hmark := (asked.cache.merge key resolved).isComplete_markComplete key key
    rwa [Path.sameAs_iff.2 rfl, Bool.true_or] at hmark

/-- What the request asks about the file of this name is known. -/
def Request.IsKnown (cache : Cache) (key : Path) : Request → Prop
  | .all _ => cache.isComplete key = true
  | .named _ names => ∀ name ∈ names, name ∈ cache.known key

namespace Request.IsKnown

variable {wanted : Request} {cache later : Cache} {other : Path}

theorem of_served (hlocate : state.locate wanted.path = .ok (target, key)) {values : Values}
    (hserved : (engine.serve state wanted).1 = .ok values) :
    wanted.IsKnown (engine.serve state wanted).2.cache key := by
  cases wanted with
  | all path => exact isComplete_of_allValues_eq_ok hlocate hserved
  | named path names =>
    obtain ⟨_, _, hlocated, hknown⟩ := serve_eq_ok hserved
    cases hlocated.symm.trans hlocate
    intro name hname
    rw [hknown]
    exact mem_of_namedValues_eq_ok hserved hname

theorem keeps (h : wanted.IsKnown cache key) (hkeeps : cache.Keeps later) :
    wanted.IsKnown later key := by
  cases wanted with
  | all path => exact hkeeps.complete h
  | named path names => exact fun name hname => hkeeps.mem_known (h name hname)

theorem congr (h : wanted.IsKnown cache key) (hsame : key.sameAs other = true) :
    wanted.IsKnown cache other := by
  cases wanted with
  | all path => exact (Cache.isComplete_congr cache hsame).symm.trans h
  | named path names => exact fun name hname => Cache.known_congr cache hsame ▸ h name hname

theorem serve_eq (hlocate : state.locate wanted.path = .ok (target, key))
    (h : wanted.IsKnown state.cache key) : engine.serve state wanted = state.answer key := by
  cases wanted with
  | all path => exact allValues_of_isComplete hlocate h
  | named path names => exact namedValues_of_known hlocate h

end Request.IsKnown

/-- A request that was answered is answered again without rendering, as long as its path leads to
the same file. -/
theorem serve_of_served {wanted : Request} (hlocate : state.locate wanted.path = .ok (target, key))
    {values : Values} (hserved : (engine.serve state wanted).1 = .ok values) (between : List Event)
    {target' key' : Path}
    (hlocate' : (engine.run (engine.serve state wanted).2 between).locate wanted.path =
      .ok (target', key'))
    (hsame : key.sameAs key' = true) :
    engine.serve (engine.run (engine.serve state wanted).2 between) wanted =
      (engine.run (engine.serve state wanted).2 between).answer key' := by
  have hknown := Request.IsKnown.of_served hlocate hserved
  exact ((hknown.keeps (engine.keeps_run _ between)).congr hsame).serve_eq hlocate'

/-- **No rendering is redundant.** A request for names submits the names without a value, each
once and under the name to be declared, if all of these can be names of variables; otherwise it
submits nothing. A request for all values neither reads nor submits anything if the file is marked,
and if it is not and the search succeeds, it submits the names found without a value in ascending
order. What was answered once is answered ever after, and nothing is submitted for it. -/
theorem no_redundant_rendering (engine : Engine) (state : State) :
    (∀ path names target key, state.locate path = .ok (target, key) →
      let absent := (names.filter fun name => name ∉ state.cache.known key).eraseDups
      let declared := (absent.map engine.cases.toDeclared.apply).eraseDups
      (engine.namedValues state path names).2.renders = state.renders ++
        if absent ≠ [] ∧ ∀ name ∈ declared, isVariableName name.toList = true then
          [engine.probe.request target ⟨engine.token, declared⟩]
        else []) ∧
    (∀ path target key, state.locate path = .ok (target, key) →
      (state.cache.isComplete key = true →
        (engine.allValues state path).2.reads = state.reads ∧
          (engine.allValues state path).2.renders = state.renders) ∧
      (state.cache.isComplete key = false →
        (∀ fault, state.files.declaredNames target = .error fault →
          (engine.allValues state path).2.renders = state.renders) ∧
        ∀ found, state.files.declaredNames target = .ok found → ∃ wanted : List String,
          wanted.Pairwise (· < ·) ∧
          (∀ name, name ∈ wanted ↔
            name ∈ found ∧ engine.cases.toOutput.apply name ∉ state.cache.known key) ∧
          (engine.allValues state path).2.renders = state.renders ++
            if wanted = [] then [] else [engine.probe.request target ⟨engine.token, wanted⟩])) ∧
    ∀ wanted target key values between target' key',
      let later := engine.run (engine.serve state wanted).2 between
      state.locate wanted.path = .ok (target, key) →
      (engine.serve state wanted).1 = .ok values →
      later.locate wanted.path = .ok (target', key') → key.sameAs key' = true →
        (∃ values', (engine.serve later wanted).1 = .ok values') ∧
          (engine.serve later wanted).2.renders = later.renders := by
  refine ⟨?_, ?_, ?_⟩
  · intro path names target key hlocate absent declared
    have hmissing : state.cache.missing key names = absent := missing_eq state.cache key names
    rw [renders_namedValues hlocate, hmissing, submission_checked]
  · intro path target key hlocate
    refine ⟨?_, ?_⟩
    · intro hcomplete
      rw [allValues_of_isComplete hlocate hcomplete]
      exact ⟨rfl, rfl⟩
    · intro hcomplete
      refine ⟨fun fault hfault => renders_allValues_of_unsearched hlocate hcomplete hfault, ?_⟩
      intro found hfound
      have hsorted := engine.pairwise_unresolved (state.cache.known key) found
      have hnodup : (engine.unresolved (state.cache.known key) found).Nodup := by
        refine hsorted.imp fun hlt => ?_
        rintro rfl
        exact String.lt_irrefl _ hlt
      refine ⟨_, hsorted, fun name => mem_unresolved, ?_⟩
      rw [renders_allValues hlocate hcomplete hfound, submission_of_nodup hnodup]
  · intro wanted target key values between target' key' later hlocate hserved hlocate' hsame
    have hserve := serve_of_served hlocate hserved between hlocate' hsame
    rw [hserve]
    exact ⟨⟨_, rfl⟩, rfl⟩

end Engine

end StyleConstants
