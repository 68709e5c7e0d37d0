import StyleConstants.Proofs.Engine.Economy
import StyleConstants.Proofs.Engine.Evaluated

/-!
# What requests settle

The names submitted for a request depend on what was asked before. What the request comes to does
not: it is granted exactly if all that it asks for is declared, and then the entry lists what it
asks for beside what it listed before. A request that is refused leaves the cache alone.

* `Grants`: a request and the variables that it is granted, whatever was asked before.
* `Settled`: what the cache holds after some requests, in terms of which these are.
* `Settled.serve`: one more request.
-/

namespace StyleConstants.Engine

open Stylesheet

variable {engine : Engine} {files : FileSystem} {state : State} {key target located : Path}
  {declared scope : Set String} {value : String → String}

/-! ## What requests are granted -/

/-- The variables that a request asks for, if the names found by a search are these. -/
def wants (engine : Engine) (found? : Option NameSet) : Request → Option (Set String)
  | .all _ => found?.map fun found => {name | name ∈ found}
  | .named _ names =>
    some {name | ∃ requested ∈ names, engine.cases.toDeclared.apply requested = name}

/-- The request asks for these variables, and all of them are declared. -/
structure Grants (engine : Engine) (found? : Option NameSet) (declared : Set String)
    (wanted : Request) (names : Set String) : Prop where
  wants : engine.wants found? wanted = some names
  declared : names ⊆ declared
  valid : ∀ name ∈ names, isVariableName name.toList = true

/-- The path leads to the file `key`, and a search from there finds these names. -/
structure Leads (files : FileSystem) (key : Path) (found? : Option NameSet)
    (path target located : Path) : Prop where
  locate : (State.fresh files).locate path = .ok (target, located)
  same : located.sameAs key = true
  found : (files.declaredNames target).toOption = found?

variable {found? : Option NameSet} {path : Path} {wanted : Request} {past : List Request}

/-- The variables that were granted to these requests. -/
def granted (engine : Engine) (found? : Option NameSet) (declared : Set String)
    (past : List Request) : Set String :=
  {name | ∃ wanted ∈ past, ∃ names, engine.Grants found? declared wanted names ∧ name ∈ names}

/-- The state after these requests about the file `key`. -/
structure Settled (engine : Engine) (files : FileSystem) (key : Path) (found? : Option NameSet)
    (declared : Set String) (value : String → String) (past : List Request) (state : State) :
    Prop where
  files_eq : state.files = files
  entry : (state.cache.get? key).isSome = true ↔
    ∃ wanted ∈ past, ∃ names, engine.Grants found? declared wanted names
  lists : engine.Lists value (state.cache.known key) (engine.granted found? declared past)
  complete : state.cache.isComplete key = true ↔
    ∃ path, .all path ∈ past ∧ ∃ names, engine.Grants found? declared (.all path) names

theorem Leads.canonical {path : Path} (h : Leads files key found? path target located) :
    (files.canonical target).sameAs key = true := by
  have hlocated := canonical_of_locate h.locate
  rw [State.fresh] at hlocated
  exact hlocated ▸ h.same

theorem Grants.unique {a b : Set String} (ha : engine.Grants found? declared wanted a)
    (hb : engine.Grants found? declared wanted b) : a = b :=
  Option.some.inj (ha.wants.symm.trans hb.wants)

theorem granted_subset : engine.granted found? declared past ⊆ declared := by
  rintro name ⟨wanted, -, names, hgrants, hname⟩
  exact hgrants.declared hname

theorem isVariableName_of_mem_granted {name : String}
    (h : name ∈ engine.granted found? declared past) : isVariableName name.toList = true := by
  obtain ⟨wanted, -, names, hgrants, hname⟩ := h
  exact hgrants.valid name hname

theorem exists_mem_concat {α : Type} {f : α → Request} {p : α → Prop} :
    (∃ a, f a ∈ past ++ [wanted] ∧ p a) ↔ (∃ a, f a ∈ past ∧ p a) ∨ ∃ a, f a = wanted ∧ p a := by
  simp only [List.mem_append, List.mem_singleton, or_and_right, exists_or]

theorem granted_append_of_grants {names : Set String}
    (h : engine.Grants found? declared wanted names) :
    engine.granted found? declared (past ++ [wanted]) =
      engine.granted found? declared past ∪ names := by
  ext name
  rw [granted, Set.mem_ofPred_eq, exists_mem_concat, exists_eq_left]
  refine or_congr Iff.rfl ⟨?_, fun hname => ⟨names, h, hname⟩⟩
  rintro ⟨names', hgrants, hname⟩
  exact hgrants.unique h ▸ hname

theorem granted_append_of_not_grants
    (h : ¬ ∃ names, engine.Grants found? declared wanted names) :
    engine.granted found? declared (past ++ [wanted]) = engine.granted found? declared past := by
  ext name
  rw [granted, Set.mem_ofPred_eq, exists_mem_concat, exists_eq_left]
  exact or_iff_left fun ⟨names, hgrants, _⟩ => h ⟨names, hgrants⟩

/-! ## Settled states -/

theorem settled_fresh : engine.Settled files key found? declared value [] (.fresh files) where
  files_eq := rfl
  entry := by simp [State.fresh, Cache.empty, Cache.get?]
  lists := by
    intro output found
    simp [granted, State.fresh, Cache.empty, Cache.known, Cache.get?]
  complete := by simp [State.fresh, Cache.empty, Cache.isComplete]

namespace Settled

variable {later : State} {names : Set String}
  (h : engine.Settled files key found? declared value past state)

include h

theorem refuse (hrefused : ¬ ∃ names, engine.Grants found? declared wanted names)
    (hfiles : later.files = state.files) (hcache : later.cache = state.cache) :
    engine.Settled files key found? declared value (past ++ [wanted]) later where
  files_eq := hfiles.trans h.files_eq
  entry := by
    rw [hcache, h.entry, exists_mem_concat, exists_eq_left]
    exact (or_iff_left hrefused).symm
  lists := by
    rw [hcache, granted_append_of_not_grants hrefused]
    exact h.lists
  complete := by
    rw [hcache, h.complete, exists_mem_concat]
    refine (or_iff_left ?_).symm
    rintro ⟨path, rfl, hgrants⟩
    exact hrefused hgrants

theorem grant (hgrants : engine.Grants found? declared wanted names)
    (hsame : located.sameAs key = true) (hfiles : later.files = state.files)
    (hlists : engine.Lists value (later.cache.known key)
      (engine.granted found? declared past ∪ names))
    (hcomplete : later.cache.isComplete key = true ↔
      state.cache.isComplete key = true ∨ ∃ path, wanted = .all path) :
    engine.Settled files key found? declared value (past ++ [wanted])
      (later.answer located).2 where
  files_eq := hfiles.trans h.files_eq
  entry := by
    have hentry : (later.answer located).2.cache.get? key = some (later.cache.known located) :=
      (later.cache.get?_touch located key).trans (if_pos hsame)
    rw [hentry]
    exact ⟨fun _ => ⟨wanted, List.mem_append_right _ List.mem_cons_self, names, hgrants⟩,
      fun _ => rfl⟩
  lists := by
    have hknown : (later.answer located).2.cache.known key = later.cache.known key :=
      later.cache.known_touch located key
    rwa [hknown, granted_append_of_grants hgrants]
  complete := by
    have hmark : (later.answer located).2.cache.isComplete key = later.cache.isComplete key := rfl
    rw [hmark, hcomplete, h.complete, exists_mem_concat]
    refine or_congr Iff.rfl ⟨?_, ?_⟩
    · rintro ⟨path, rfl⟩
      exact ⟨path, rfl, names, hgrants⟩
    · rintro ⟨path, hpath, -⟩
      exact ⟨path, hpath.symm⟩

section Submitted

variable (hinjective : Set.InjOn engine.cases.toOutput.apply scope) (hdeclared : declared ⊆ scope)
  (hnames : names ⊆ scope) {submitted : List String}
  (hsubmitted : ∀ name, name ∈ submitted ↔
    name ∈ names ∧ engine.cases.toOutput.apply name ∉ state.cache.known key)

include hinjective hdeclared hnames hsubmitted

theorem mem_granted_or_mem_submitted {name : String} (hname : name ∈ names) :
    name ∈ engine.granted found? declared past ∨ name ∈ submitted := by
  by_cases hknown : engine.cases.toOutput.apply name ∈ state.cache.known key
  · have hold : engine.granted found? declared past ⊆ scope := granted_subset.trans hdeclared
    exact .inl ((h.lists.apply_mem_iff hinjective hold (hnames hname)).1 hknown)
  · exact .inr ((hsubmitted name).2 ⟨hname, hknown⟩)

/-- A request is granted if all that it submits is declared. -/
theorem grants_of_submitted (hwants : engine.wants found? wanted = some names)
    (hall : ∀ name ∈ submitted, name ∈ declared)
    (hvalid : ∀ name ∈ submitted, isVariableName name.toList = true) :
    engine.Grants found? declared wanted names where
  wants := hwants
  declared := by
    intro name hname
    rcases h.mem_granted_or_mem_submitted hinjective hdeclared hnames hsubmitted hname with
      hgranted | hmem
    · exact granted_subset hgranted
    · exact hall name hmem
  valid := by
    intro name hname
    rcases h.mem_granted_or_mem_submitted hinjective hdeclared hnames hsubmitted hname with
      hgranted | hmem
    · exact isVariableName_of_mem_granted hgranted
    · exact hvalid name hmem

/-- Of the variables granted, those without a value are resolved, and then all have one. -/
theorem exists_merged (hgrants : engine.Grants found? declared wanted names)
    (hevaluates : engine.Evaluates files key declared value)
    (htarget : (files.canonical target).sameAs key = true) :
    ∃ values, engine.resolved state.renders target submitted = .ok values ∧
      engine.Lists value (values ∪ state.cache.known key)
        (engine.granted found? declared past ∪ names) := by
  have hold : engine.granted found? declared past ⊆ scope := granted_subset.trans hdeclared
  have hmem : ∀ name ∈ submitted, name ∈ names := fun name hname => ((hsubmitted name).1 hname).1
  obtain ⟨values, hvalues, hlists⟩ := exists_resolved hinjective hevaluates htarget
    (fun name hname => hnames (hmem name hname))
    (fun name hname => hgrants.declared (hmem name hname))
    (fun name hname => hgrants.valid name (hmem name hname)) state.renders
  -- a name is submitted for want of a value, and a name granted earlier has one
  have hunion := h.lists.union hinjective hlists hold (fun name hname => hnames (hmem name hname))
    (fun name hname hgranted => ((hsubmitted name).1 hname).2
      ((h.lists.apply_mem_iff hinjective hold (hold hgranted)).2 hgranted))
  have hsets : engine.granted found? declared past ∪ {name | name ∈ submitted} =
      engine.granted found? declared past ∪ names := by
    ext name
    constructor
    · exact Or.imp_right (hmem name)
    · rintro (hname | hname)
      · exact .inl hname
      · exact h.mem_granted_or_mem_submitted hinjective hdeclared hnames hsubmitted hname
  exact ⟨values, hvalues, hsets ▸ hunion⟩

/-- If a request is refused, what it submits is not resolved. -/
theorem exists_fault (hwants : engine.wants found? wanted = some names)
    (hrefused : ¬ ∃ names, engine.Grants found? declared wanted names)
    (hvalid : ∀ name ∈ submitted, isVariableName name.toList = true)
    (hevaluates : engine.Evaluates files key declared value)
    (htarget : (files.canonical target).sameAs key = true) :
    ∃ fault, engine.resolved state.renders target submitted = .error fault := by
  refine exists_resolved_error hevaluates htarget ?_ hvalid state.renders
  by_contra hnone
  push Not at hnone
  exact hrefused ⟨names,
    h.grants_of_submitted hinjective hdeclared hnames hsubmitted hwants hnone hvalid⟩

end Submitted

end Settled

/-! ## One request -/

theorem mem_missing_of_sameAs (h : located.sameAs key = true) {requested : List String}
    {name : String} : name ∈ state.cache.missing located requested ↔
      name ∈ requested ∧ name ∉ state.cache.known key := by
  rw [← state.cache.known_congr h]
  exact Cache.mem_missing

/-- What is submitted for a request by names. -/
theorem mem_map_missing (state : State) (h : located.sameAs key = true) {requested : List String}
    (hround : ∀ name ∈ requested,
      engine.cases.toOutput.apply (engine.cases.toDeclared.apply name) = name) (name : String) :
    name ∈ (state.cache.missing located requested).map engine.cases.toDeclared.apply ↔
      name ∈ {name | ∃ asked ∈ requested, engine.cases.toDeclared.apply asked = name} ∧
        engine.cases.toOutput.apply name ∉ state.cache.known key := by
  rw [List.mem_map]
  constructor
  · rintro ⟨asked, hasked, rfl⟩
    obtain ⟨hrequested, hunknown⟩ := (mem_missing_of_sameAs h).1 hasked
    exact ⟨⟨asked, hrequested, rfl⟩, by rwa [hround asked hrequested]⟩
  · rintro ⟨⟨asked, hrequested, rfl⟩, hunknown⟩
    rw [hround asked hrequested] at hunknown
    exact ⟨asked, (mem_missing_of_sameAs h).2 ⟨hrequested, hunknown⟩, rfl⟩

section Serve

variable (h : engine.Settled files key found? declared value past state)
  (hleads : Leads files key found? path target located)
  (hevaluates : engine.Evaluates files key declared value)
  (hinjective : Set.InjOn engine.cases.toOutput.apply scope) (hdeclared : declared ⊆ scope)

include h hleads

theorem Settled.locate : state.locate path = .ok (target, located) :=
  (locate_eq_of_files_eq h.files_eq path).trans hleads.locate

theorem Settled.allValues_complete (hcomplete : state.cache.isComplete located = true) :
    (∃ names, engine.Grants found? declared (.all path) names) ∧
      engine.Settled files key found? declared value (past ++ [.all path])
        (state.answer located).2 := by
  rw [state.cache.isComplete_congr hleads.same] at hcomplete
  -- the mark may come from another path to the file, where a search finds the same names
  obtain ⟨path', hpath', names, hgrants'⟩ := h.complete.1 hcomplete
  have hgrants : engine.Grants found? declared (.all path) names :=
    ⟨hgrants'.wants, hgrants'.declared, hgrants'.valid⟩
  have hold : names ⊆ engine.granted found? declared past :=
    fun name hname => ⟨.all path', hpath', names, hgrants', hname⟩
  refine ⟨⟨names, hgrants⟩, h.grant hgrants hleads.same rfl ?_ ⟨.inl, fun _ => hcomplete⟩⟩
  rw [Set.union_eq_self_of_subset_right hold]
  exact h.lists

theorem Settled.allValues_unsearched (hcomplete : state.cache.isComplete located = false)
    {fault : Failure} (hsearch : files.declaredNames target = .error fault) :
    (¬ ∃ names, engine.Grants found? declared (.all path) names) ∧
      (∃ fault, (engine.allValues state path).1 = .error fault) ∧
      engine.Settled files key found? declared value (past ++ [.all path])
        (engine.allValues state path).2 := by
  have hrefused : ¬ ∃ names, engine.Grants found? declared (.all path) names := by
    rintro ⟨names, hgrants⟩
    have hwants := hgrants.wants
    rw [← hleads.found, hsearch] at hwants
    cases hwants
  rw [allValues_of_search (h.locate hleads) hcomplete, h.files_eq, hsearch, declaredNames_snd]
  exact ⟨hrefused, ⟨_, rfl⟩, h.refuse hrefused rfl rfl⟩

include hevaluates hinjective hdeclared

theorem Settled.allValues_searched (hcomplete : state.cache.isComplete located = false)
    {found : NameSet} (hsearch : files.declaredNames target = .ok found)
    (hwants : engine.wants found? (.all path) = some {name | name ∈ found})
    (hscope : {name | name ∈ found} ⊆ scope) :
    ((∃ values, (engine.allValues state path).1 = .ok values) ↔
        ∃ names, engine.Grants found? declared (.all path) names) ∧
      engine.Settled files key found? declared value (past ++ [.all path])
        (engine.allValues state path).2 := by
  have hsubmitted : ∀ name, name ∈ engine.unresolved (state.cache.known located) found ↔
      name ∈ {name | name ∈ found} ∧
        engine.cases.toOutput.apply name ∉ state.cache.known key := by
    intro name
    rw [mem_unresolved, state.cache.known_congr hleads.same]
    rfl
  have hvalid : ∀ name ∈ engine.unresolved (state.cache.known located) found,
      isVariableName name.toList = true := fun name hname =>
    FileSystem.isVariableName_of_mem_declaredNames hsearch (mem_unresolved.1 hname).1
  rw [allValues_of_search (h.locate hleads) hcomplete, h.files_eq, hsearch, declaredNames_snd]
  dsimp only
  by_cases hgranted : ∃ names, engine.Grants found? declared (.all path) names
  · obtain ⟨names, hgrants⟩ := hgranted
    obtain rfl := Option.some.inj (hgrants.wants.symm.trans hwants)
    obtain ⟨values, hvalues, hlists⟩ := h.exists_merged hinjective hdeclared hscope hsubmitted
      hgrants hevaluates hleads.canonical
    rw [hvalues]
    have hmark := (state.cache.merge located values).isComplete_markComplete located key
    rw [hleads.same, Bool.true_or] at hmark
    refine ⟨iff_of_true ⟨_, rfl⟩ ⟨_, hgrants⟩,
      h.grant hgrants hleads.same rfl ?_ ⟨fun _ => .inr ⟨path, rfl⟩, fun _ => hmark⟩⟩
    dsimp only
    rwa [Cache.known_markComplete, Cache.known_merge, if_pos hleads.same]
  · obtain ⟨fault, hfault⟩ := h.exists_fault hinjective hdeclared hscope hsubmitted hwants hgranted
      hvalid hevaluates hleads.canonical
    rw [hfault]
    exact ⟨iff_of_false (fun ⟨_, hvalues⟩ => nomatch hvalues) hgranted,
      h.refuse hgranted rfl rfl⟩

theorem Settled.allValues
    (hscope : ∀ names, engine.wants found? (.all path) = some names → names ⊆ scope) :
    ((∃ values, (engine.allValues state path).1 = .ok values) ↔
        ∃ names, engine.Grants found? declared (.all path) names) ∧
      engine.Settled files key found? declared value (past ++ [.all path])
        (engine.allValues state path).2 := by
  cases hcomplete : state.cache.isComplete located with
  | true =>
    obtain ⟨hgrants, hsettled⟩ := h.allValues_complete hleads hcomplete
    rw [allValues_of_isComplete (h.locate hleads) hcomplete]
    exact ⟨iff_of_true ⟨_, rfl⟩ hgrants, hsettled⟩
  | false =>
    cases hsearch : files.declaredNames target with
    | error fault =>
      obtain ⟨hrefused, ⟨fault, hfault⟩, hsettled⟩ :=
        h.allValues_unsearched hleads hcomplete hsearch
      rw [hfault]
      exact ⟨iff_of_false (fun ⟨_, hvalues⟩ => nomatch hvalues) hrefused, hsettled⟩
    | ok found =>
      have hwants : engine.wants found? (.all path) = some {name | name ∈ found} := by
        rw [← hleads.found, hsearch]
        rfl
      exact h.allValues_searched hleads hevaluates hinjective hdeclared hcomplete hsearch hwants
        (hscope _ hwants)

section Named

variable {requested : List String}
  (hscope : ∀ name ∈ requested, engine.cases.toDeclared.apply name ∈ scope)
  (hround : ∀ name ∈ requested,
    engine.cases.toOutput.apply (engine.cases.toDeclared.apply name) = name)

include hscope hround

omit hevaluates in
theorem Settled.namedValues_known (hknown : ∀ name ∈ requested, name ∈ state.cache.known key) :
    (∃ names, engine.Grants found? declared (.named path requested) names) ∧
      engine.Settled files key found? declared value (past ++ [.named path requested])
        (state.answer located).2 := by
  have hold : {name | ∃ asked ∈ requested, engine.cases.toDeclared.apply asked = name} ⊆
      engine.granted found? declared past := by
    rintro name ⟨asked, hasked, rfl⟩
    have happly := h.lists.apply_mem_iff hinjective (granted_subset.trans hdeclared)
      (hscope asked hasked)
    apply happly.1
    rw [hround asked hasked]
    exact hknown asked hasked
  have hgrants : engine.Grants found? declared (.named path requested)
      {name | ∃ asked ∈ requested, engine.cases.toDeclared.apply asked = name} :=
    ⟨rfl, hold.trans granted_subset, fun name hname => isVariableName_of_mem_granted (hold hname)⟩
  refine ⟨⟨_, hgrants⟩, h.grant hgrants hleads.same rfl ?_ ⟨.inl, fun hmark => ?_⟩⟩
  · rw [Set.union_eq_self_of_subset_right hold]
    exact h.lists
  · exact hmark.resolve_right fun ⟨_, hall⟩ => nomatch hall

theorem Settled.namedValues_submitted
    (hmissing : state.cache.missing located requested ≠ [])
    (hinvalid : engine.invalid (state.cache.missing located requested) = []) :
    ((∃ values, (engine.namedValues state path requested).1 = .ok values) ↔
        ∃ names, engine.Grants found? declared (.named path requested) names) ∧
      engine.Settled files key found? declared value (past ++ [.named path requested])
        (engine.namedValues state path requested).2 := by
  have hwants : engine.wants found? (.named path requested) =
      some {name | ∃ asked ∈ requested, engine.cases.toDeclared.apply asked = name} := rfl
  have hnames : {name | ∃ asked ∈ requested, engine.cases.toDeclared.apply asked = name} ⊆
      scope := by
    rintro name ⟨asked, hasked, rfl⟩
    exact hscope asked hasked
  have hsubmitted := mem_map_missing state hleads.same hround
  have hvalid : ∀ name ∈ (state.cache.missing located requested).map engine.cases.toDeclared.apply,
      isVariableName name.toList = true :=
    List.forall_mem_map.2 (invalid_eq_nil_iff.1 hinvalid)
  rw [namedValues_eq (h.locate hleads)]
  dsimp only
  rw [if_neg hmissing, if_pos hinvalid]
  by_cases hgranted : ∃ names, engine.Grants found? declared (.named path requested) names
  · obtain ⟨names, hgrants⟩ := hgranted
    obtain rfl := Option.some.inj (hgrants.wants.symm.trans hwants)
    obtain ⟨values, hvalues, hlists⟩ := h.exists_merged hinjective hdeclared hnames hsubmitted
      hgrants hevaluates hleads.canonical
    have hmerged : (state.cache.merge located values).known key =
        values ∪ state.cache.known key := by
      rw [Cache.known_merge, if_pos hleads.same]
    rw [← hmerged] at hlists
    have hmatched : (state.cache.merge located values).missing located
        (state.cache.missing located requested) = [] := by
      rw [Cache.missing_eq_nil_iff, Cache.known_congr _ hleads.same]
      intro asked hasked
      have hrequested := ((mem_missing_of_sameAs hleads.same).1 hasked).1
      have hlisted := (hlists _ _).2
        ⟨_, .inr ⟨asked, hrequested, rfl⟩, hround asked hrequested, rfl⟩
      exact Values.mem_iff.2 ⟨_, hlisted⟩
    rw [hvalues]
    dsimp only
    rw [if_pos hmatched]
    exact ⟨iff_of_true ⟨_, rfl⟩ ⟨_, hgrants⟩, h.grant hgrants hleads.same rfl hlists
      ⟨.inl, fun hmark => hmark.resolve_right fun ⟨_, hall⟩ => nomatch hall⟩⟩
  · obtain ⟨fault, hfault⟩ := h.exists_fault hinjective hdeclared hnames hsubmitted hwants hgranted
      hvalid hevaluates hleads.canonical
    rw [hfault]
    exact ⟨iff_of_false (fun ⟨_, hvalues⟩ => nomatch hvalues) hgranted,
      h.refuse hgranted rfl rfl⟩

theorem Settled.namedValues :
    ((∃ values, (engine.namedValues state path requested).1 = .ok values) ↔
        ∃ names, engine.Grants found? declared (.named path requested) names) ∧
      engine.Settled files key found? declared value (past ++ [.named path requested])
        (engine.namedValues state path requested).2 := by
  by_cases hnone : state.cache.missing located requested = []
  · rw [Cache.missing_eq_nil_iff] at hnone
    rw [namedValues_of_known (h.locate hleads) hnone]
    rw [state.cache.known_congr hleads.same] at hnone
    obtain ⟨hgrants, hsettled⟩ :=
      h.namedValues_known hleads hinjective hdeclared hscope hround hnone
    exact ⟨iff_of_true ⟨_, rfl⟩ hgrants, hsettled⟩
  · by_cases hinvalid : engine.invalid (state.cache.missing located requested) = []
    · exact h.namedValues_submitted hleads hevaluates hinjective hdeclared hscope hround hnone
        hinvalid
    · have hrefused : ¬ ∃ names, engine.Grants found? declared (.named path requested) names := by
        rintro ⟨names, hgrants⟩
        have hwants := hgrants.wants
        cases hwants
        refine hinvalid (invalid_eq_nil_iff.2 fun name hname => ?_)
        exact hgrants.valid _ ⟨name, ((mem_missing_of_sameAs hleads.same).1 hname).1, rfl⟩
      rw [namedValues_eq (h.locate hleads)]
      dsimp only
      rw [if_neg hnone, if_neg hinvalid]
      exact ⟨iff_of_false (fun ⟨_, hvalues⟩ => nomatch hvalues) hrefused,
        h.refuse hrefused rfl rfl⟩

end Named

end Serve

/-- The names that a request mentions. -/
def Request.names : Request → List String
  | all _ => []
  | named _ names => names

/-- The request is about the file `key`, the names it asks for lie in the scope, and those it
mentions survive their conversion. -/
structure Admits (engine : Engine) (files : FileSystem) (key : Path) (found? : Option NameSet)
    (scope : Set String) (wanted : Request) : Prop where
  leads : ∃ target located, Leads files key found? wanted.path target located
  scope : ∀ names, engine.wants found? wanted = some names → names ⊆ scope
  round : ∀ name ∈ wanted.names,
    engine.cases.toOutput.apply (engine.cases.toDeclared.apply name) = name

theorem Settled.serve (h : engine.Settled files key found? declared value past state)
    (hadmits : engine.Admits files key found? scope wanted)
    (hevaluates : engine.Evaluates files key declared value)
    (hinjective : Set.InjOn engine.cases.toOutput.apply scope) (hdeclared : declared ⊆ scope) :
    ((∃ values, (engine.serve state wanted).1 = .ok values) ↔
        ∃ names, engine.Grants found? declared wanted names) ∧
      engine.Settled files key found? declared value (past ++ [wanted])
        (engine.serve state wanted).2 := by
  obtain ⟨target, located, hleads⟩ := hadmits.leads
  cases wanted with
  | all path => exact h.allValues hleads hevaluates hinjective hdeclared hadmits.scope
  | named path requested =>
    have hscope : ∀ name ∈ requested, engine.cases.toDeclared.apply name ∈ scope :=
      fun name hname => hadmits.scope _ rfl ⟨name, hname, rfl⟩
    exact h.namedValues hleads hevaluates hinjective hdeclared hscope hadmits.round

end StyleConstants.Engine
