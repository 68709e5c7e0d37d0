import StyleConstants.Proofs.Engine.Imports
import StyleConstants.Proofs.Engine.Submission

/-!
# Requests that fail

A request writes to the cache only when it has all that it needs, so one that fails leaves the cache
as it was. There is one exception: when the compiler gives the values that a request for names needs
but not under these names, the values stay in the cache although the request fails. An import makes
at most two requests, the second for names, so there is no more to it.

* `cache_allValues_of_error`: a failed request for all values leaves no trace.
* `MergedAtMost`, `mergedAtMost_of_error`: what a failed request for names may leave.
* `failure_keeps_cache`: all kinds of requests together.
-/

namespace StyleConstants

/-- The first value of a name wins: a merge adds the values of names that had none. -/
theorem Cache.getElem?_known_merge_self (cache : Cache) (key : Path) (values : Values)
    (name : String) : ((cache.merge key values).known key)[name]? =
      (cache.known key)[name]?.or values[name]? := by
  rw [known_merge, if_pos (Path.sameAs_iff.2 rfl), Std.ExtTreeMap.getElem?_union]

namespace Engine

variable {engine : Engine} {state : State} {path : Path} {names : List String} {fault : Failure}

/-! ## One request -/

theorem cache_allValues_of_error (h : (engine.allValues state path).1 = .error fault) :
    (engine.allValues state path).2.cache = state.cache := by
  have houtcome := allValues_outcome engine state path
  generalize engine.allValues state path = result at houtcome h
  cases houtcome with
  | unlocated => rfl
  | complete => cases h
  | unsearched _ _ hsearch =>
    obtain rfl := (declaredNames_snd state _).symm.trans (congrArg Prod.snd hsearch)
    rfl
  | unanswered _ _ hsearch hask =>
    obtain rfl := (declaredNames_snd state _).symm.trans (congrArg Prod.snd hsearch)
    obtain rfl := congrArg Prod.snd hask
    rfl
  | resolved => cases h

/-- The values that asking for those of these names that are missing from the cache gives. -/
def askedFor (engine : Engine) (state : State) (target key : Path) (names : List String) :
    Except Failure Values :=
  engine.resolved state.renders target
    ((state.cache.missing key names).map engine.cases.toDeclared.apply)

/-- The cache of the state or the same with the values that asking for these names gives merged into
the entry of the file that the path leads to. -/
def MergedAtMost (engine : Engine) (state : State) (path : Path) (names : List String)
    (cache : Cache) : Prop :=
  cache = state.cache ∨ ∃ target key values, state.locate path = .ok (target, key) ∧
    engine.askedFor state target key names = .ok values ∧ cache = state.cache.merge key values

/-- A failed request for names leaves the cache alone, unless it was answered and some of the names
are still missing. -/
theorem cache_namedValues_of_error (h : (engine.namedValues state path names).1 = .error fault) :
    ((engine.namedValues state path names).2.cache = state.cache ∧
      ((engine.namedValues state path names).2.renders ≠ state.renders →
        ∃ target key unasked, state.locate path = .ok (target, key) ∧
          engine.askedFor state target key names = .error unasked)) ∨
      ∃ target key values culprits, state.locate path = .ok (target, key) ∧
        engine.askedFor state target key names = .ok values ∧ fault = .caseMismatch culprits ∧
        (engine.namedValues state path names).2.renders ≠ state.renders ∧
        (engine.namedValues state path names).2.cache = state.cache.merge key values := by
  cases hlocate : state.locate path with
  | error _ =>
    rw [namedValues_of_unlocated hlocate]
    exact .inl ⟨rfl, fun hrenders => absurd rfl hrenders⟩
  | ok place =>
    obtain ⟨target, key⟩ := place
    have houtcome := namedValues_outcome engine state names path
    generalize engine.namedValues state path names = result at houtcome h
    cases houtcome with
    | unlocated hlocate' => exact absurd (hlocate.symm.trans hlocate') nofun
    | known => cases h
    | invalid => exact .inl ⟨rfl, fun hrenders => absurd rfl hrenders⟩
    | unanswered hlocate' _ _ hask =>
      cases hlocate.symm.trans hlocate'
      rw [ask_eq] at hask
      obtain ⟨hasked, rfl⟩ := Prod.mk.inj hask
      exact .inl ⟨rfl, fun _ => ⟨target, key, _, rfl, hasked⟩⟩
    | unmatched hlocate' hmissing _ hask =>
      cases hlocate.symm.trans hlocate'
      rw [ask_eq] at hask
      obtain ⟨hasked, rfl⟩ := Prod.mk.inj hask
      refine .inr ⟨target, key, _, _, rfl, hasked, (Except.error.inj h).symm, ?_, rfl⟩
      -- something was missing, so something was submitted
      have hdeclared : (state.cache.missing key names).map engine.cases.toDeclared.apply ≠ [] :=
        fun hnil => hmissing (List.map_eq_nil_iff.1 hnil)
      rw [asked, submission, if_neg hdeclared]
      simp
    | resolved => cases h

/-- Where a failed request for names has submitted something, the cache depends on what became of
that. -/
theorem cache_namedValues_of_submitted (h : (engine.namedValues state path names).1 = .error fault)
    (hrenders : (engine.namedValues state path names).2.renders ≠ state.renders) :
    ∃ target key, state.locate path = .ok (target, key) ∧
      (∀ fault, engine.askedFor state target key names = .error fault →
        (engine.namedValues state path names).2.cache = state.cache) ∧
      ∀ values, engine.askedFor state target key names = .ok values →
        (engine.namedValues state path names).2.cache = state.cache.merge key values := by
  rcases cache_namedValues_of_error h with
    ⟨hcache, hunasked⟩ | ⟨target, key, values, -, hlocate, hvalues, -, -, hcache⟩
  · obtain ⟨target, key, fault', hlocate, hfault'⟩ := hunasked hrenders
    refine ⟨target, key, hlocate, fun _ _ => hcache, fun values hvalues => ?_⟩
    cases hfault'.symm.trans hvalues
  · refine ⟨target, key, hlocate, fun fault' hfault' => ?_, fun values' hvalues' => ?_⟩
    · cases hvalues.symm.trans hfault'
    · cases hvalues.symm.trans hvalues'
      exact hcache

theorem mergedAtMost_of_error (h : (engine.namedValues state path names).1 = .error fault) :
    engine.MergedAtMost state path names (engine.namedValues state path names).2.cache := by
  rcases cache_namedValues_of_error h with
    ⟨hcache, -⟩ | ⟨target, key, values, -, hlocate, hvalues, -, -, hcache⟩
  · exact .inl hcache
  · exact .inr ⟨target, key, values, hlocate, hvalues, hcache⟩

/-! ## All requests -/

/-- **Failed requests leave the cache intact.** A request for all values that fails leaves the cache
as it was. So does one for names, unless names that were missing before the compiler answered are
missing still: then the values are merged into the entry of the file, the first value of each name
winning, and no file is marked. An import that fails leaves what its request for all values has
left, or what there was before, changed by one such merge at most. -/
theorem failure_keeps_cache (engine : Engine) (state : State) :
    (∀ path fault, (engine.allValues state path).1 = .error fault →
      (engine.allValues state path).2.cache = state.cache) ∧
    (∀ path names fault, (engine.namedValues state path names).1 = .error fault →
      let later := (engine.namedValues state path names).2
      ((∀ culprits, fault ≠ .caseMismatch culprits) ∨ later.renders = state.renders →
        later.cache = state.cache) ∧
      (∀ culprits, fault = .caseMismatch culprits → later.renders ≠ state.renders →
        ∃ target key, state.locate path = .ok (target, key) ∧
          (∀ fault, engine.askedFor state target key names = .error fault →
            later.cache = state.cache) ∧
          ∀ values, engine.askedFor state target key names = .ok values →
            later.cache = state.cache.merge key values ∧
            later.cache.complete = state.cache.complete ∧
            (∀ other, key.sameAs other = false →
              later.cache.get? other = state.cache.get? other) ∧
            ∀ name : String, (later.cache.known key)[name]? =
              (state.cache.known key)[name]?.or values[name]?)) ∧
    ∀ importer wanted fault later,
      engine.importConstants state importer wanted = (.error fault, later) →
      let target := importer.importTarget wanted.specifier
      (wanted.defaultBinding.isSome = true ∧ (engine.allValues state target).1 = .error fault ∧
        later.cache = state.cache) ∨
      ∃ middle, engine.Begun state target wanted.defaultBinding middle ∧
        (engine.namedValues middle target (wanted.named.map (·.imported))).1 = .error fault ∧
        engine.MergedAtMost middle target (wanted.named.map (·.imported)) later.cache := by
  refine ⟨fun path fault h => cache_allValues_of_error h, ?_, ?_⟩
  · intro path names fault h later
    have hcache := cache_namedValues_of_error h
    refine ⟨?_, ?_⟩
    · intro hother
      rcases hcache with ⟨hsame, -⟩ | ⟨_, _, _, culprits, _, _, hfault, hrenders, _⟩
      · exact hsame
      · exact absurd (hother.resolve_left fun hfault' => hfault' culprits hfault) hrenders
    · intro culprits _ hrenders
      obtain ⟨target, key, hlocate, hunasked, hasked⟩ := cache_namedValues_of_submitted h hrenders
      refine ⟨target, key, hlocate, hunasked, fun values hvalues => ?_⟩
      have hmerged : later.cache = state.cache.merge key values := hasked values hvalues
      refine ⟨hmerged, by rw [hmerged]; rfl, fun other hother => ?_, fun name => ?_⟩
      · rw [hmerged]
        exact ((Cache.GrowsAt.merge key _ values).other hother).1
      · rw [hmerged, Cache.getElem?_known_merge_self]
  · intro importer wanted fault later h target
    rcases importConstants_eq_error h with ⟨hbinding, hall⟩ | ⟨middle, hbegun, hnamed⟩
    · have hfault := congrArg Prod.fst hall
      have hcache := cache_allValues_of_error hfault
      rw [hall] at hcache
      exact .inl ⟨hbinding, hfault, hcache⟩
    · have hfault := congrArg Prod.fst hnamed
      have hmerged := mergedAtMost_of_error hfault
      rw [hnamed] at hmerged
      exact .inr ⟨middle, hbegun, hfault, hmerged⟩

end Engine

end StyleConstants
