import StyleConstants.Proofs.Engine.Economy
import StyleConstants.Proofs.Probe.Answered

/-!
# A complete file lacks no variable

A file is marked when a search has found its names and each of them has a value: some had one
before, and the reader of declarations gives one for each of the others or fails. Nothing is lost
by converting names, and nothing known is forgotten, so the entry of a marked file has all of them
ever after.

* `marks_serve`: what a request leaves behind that marks a file.
* `Completes`, `Marked`: the event of a run that marked a file, and the names found there.
* `allValues_omits_nothing`: the entry of a marked file, and every answer, has all these names.
-/

namespace StyleConstants.Engine

variable {engine : Engine} {state : State} {path target key : Path}

/-! ## Values that were resolved -/

section Reader

variable (hreader : engine.probe.reader = .declarations)

include hreader

/-- Values come from a text of the compiler in which the markers of all these variables were
read. -/
theorem exists_readBack {earlier : List RenderRequest} {names : List String} {values : Values}
    (h : engine.evaluate earlier target names = .ok values) : ∃ rendered,
      engine.probe.renderer earlier
        (engine.probe.request target (.ofNames engine.token names)) = .ok rendered ∧
      (MarkerSet.ofNames engine.token names).readBack rendered = .ok values := by
  unfold evaluate at h
  dsimp only at h
  split at h
  · cases h
  · rename_i rendered hrendered
    rw [hreader, OutputReader.declarations] at h
    cases hread : (MarkerSet.ofNames engine.token names).readBack rendered with
    | error fault =>
      rw [hread] at h
      cases h
    | ok read =>
      rw [hread] at h
      cases h
      exact ⟨rendered, hrendered, hread⟩

theorem mem_evaluate_iff {earlier : List RenderRequest} {names : List String} {values : Values}
    (h : engine.evaluate earlier target names = .ok values) {name : String} :
    name ∈ values ↔ name ∈ names := by
  obtain ⟨rendered, -, hread⟩ := exists_readBack hreader h
  rw [MarkerSet.mem_readBack_iff hread, MarkerSet.mem_names_ofNames]

/-- Values come back for the names asked for, converted, and for no others. -/
theorem mem_resolved_iff {earlier : List RenderRequest} {names : List String} {values : Values}
    (h : engine.resolved earlier target names = .ok values) {output : String} :
    output ∈ values ↔ ∃ name ∈ names, engine.cases.toOutput.apply name = output := by
  rw [resolved] at h
  split at h
  · rename_i hnone
    cases h
    simp [hnone]
  · cases hevaluate : engine.evaluate earlier target names with
    | error fault =>
      rw [hevaluate] at h
      cases h
    | ok read =>
      rw [hevaluate] at h
      cases h
      rw [Values.mem_renamed]
      exact exists_congr fun name => and_congr_left fun _ => mem_evaluate_iff hreader hevaluate

/-- Every name found has a value after a merge of those that had none. -/
theorem mem_known_resolved {earlier : List RenderRequest} {names : NameSet} {values : Values}
    {cache : Cache}
    (h : engine.resolved earlier target (engine.unresolved (cache.known key) names) = .ok values)
    {name : String} (hname : name ∈ names) :
    engine.cases.toOutput.apply name ∈ (cache.merge key values).known key := by
  by_cases hknown : engine.cases.toOutput.apply name ∈ cache.known key
  · exact (Cache.GrowsAt.merge key cache values).mem_known hknown
  · rw [Cache.known_merge, if_pos (Path.sameAs_iff.2 rfl), Std.ExtTreeMap.mem_union_iff]
    exact .inl ((mem_resolved_iff hreader h).2 ⟨name, mem_unresolved.2 ⟨hname, hknown⟩, rfl⟩)

end Reader

/-! ## The request that marks a file -/

theorem complete_namedValues (engine : Engine) (state : State) (path : Path) (names : List String) :
    (engine.namedValues state path names).2.cache.complete = state.cache.complete := by
  cases hlocate : state.locate path with
  | error fault => rw [namedValues_of_unlocated hlocate]
  | ok place =>
    rw [namedValues_eq hlocate]
    dsimp only
    split
    · rfl
    · split
      · split
        · rfl
        · split <;> rfl
      · rfl

/-- The cache has an entry for the file with the handed-out forms of these names. -/
def Has (engine : Engine) (cache : Cache) (key : Path) (names : NameSet) : Prop :=
  ∃ values, cache.get? key = some values ∧ ∀ name ∈ names, engine.cases.toOutput.apply name ∈ values

theorem Has.keeps {earlier later : Cache} {names : NameSet} (h : engine.Has earlier key names)
    (hkeeps : earlier.Keeps later) : engine.Has later key names := by
  obtain ⟨values, hentry, hnames⟩ := h
  obtain ⟨values', hentry'⟩ := Option.isSome_iff_exists.1 (hkeeps.entry (by rw [hentry]; rfl))
  refine ⟨values', hentry', fun name hname => ?_⟩
  have hknown : earlier.known key = values := by rw [Cache.known, hentry, Option.getD_some]
  have hknown' : later.known key = values' := by rw [Cache.known, hentry', Option.getD_some]
  exact hknown' ▸ hkeeps.mem_known (hknown ▸ hnames name hname)

theorem marks_allValues (hreader : engine.probe.reader = .declarations)
    (hunmarked : ¬ state.cache.isComplete key = true)
    (hmarked : (engine.allValues state path).2.cache.isComplete key = true) :
    ∃ target located names, state.locate path = .ok (target, located) ∧
      located.sameAs key = true ∧ state.files.declaredNames target = .ok names ∧
      engine.Has (engine.allValues state path).2.cache key names := by
  have houtcome := allValues_outcome engine state path
  generalize engine.allValues state path = result at houtcome hmarked
  cases houtcome with
  | unlocated => exact absurd hmarked hunmarked
  | complete => exact absurd hmarked hunmarked
  | unsearched _ _ hsearch =>
    obtain rfl := (declaredNames_snd state _).symm.trans (congrArg Prod.snd hsearch)
    exact absurd hmarked hunmarked
  | unanswered _ _ hsearch hask =>
    obtain rfl := (declaredNames_snd state _).symm.trans (congrArg Prod.snd hsearch)
    obtain rfl := congrArg Prod.snd hask
    exact absurd hmarked hunmarked
  | @resolved target located names values searched asked hlocate hcomplete hsearch hask =>
    have hnames := (fst_declaredNames state target).symm.trans (congrArg Prod.fst hsearch)
    obtain rfl := (declaredNames_snd state _).symm.trans (congrArg Prod.snd hsearch)
    rw [ask_eq] at hask
    obtain ⟨hvalues, rfl⟩ := Prod.mk.inj hask
    let cache := (state.cache.merge located values).markComplete located
    have hmark : cache.isComplete key = true := hmarked
    rw [Cache.isComplete_markComplete, Bool.or_eq_true] at hmark
    have hsame := hmark.resolve_right hunmarked
    refine ⟨target, located, names, hlocate, hsame, hnames, cache.known located, ?_, ?_⟩
    · exact (cache.get?_touch located key).trans (if_pos hsame)
    · intro name hname
      rw [Cache.known_markComplete]
      exact mem_known_resolved hreader hvalues hname

theorem marks_serve (hreader : engine.probe.reader = .declarations) {wanted : Request}
    (hunmarked : ¬ state.cache.isComplete key = true)
    (hmarked : (engine.serve state wanted).2.cache.isComplete key = true) :
    ∃ target located names, state.locate wanted.path = .ok (target, located) ∧
      located.sameAs key = true ∧ state.files.declaredNames target = .ok names ∧
      engine.Has (engine.serve state wanted).2.cache key names := by
  cases wanted with
  | all path => exact marks_allValues hreader hunmarked hmarked
  | named path names =>
    have hcomplete := engine.complete_namedValues state path names
    rw [serve, Cache.isComplete, hcomplete] at hmarked
    exact absurd hmarked hunmarked

/-! ## The event that marks a file -/

/-- With this event the file `key` is marked, after a search that finds these names. -/
structure Completes (engine : Engine) (state : State) (event : Event) (key : Path)
    (names : NameSet) : Prop where
  unmarked : ¬ state.cache.isComplete key = true
  marked : (engine.after state event).cache.isComplete key = true
  searched : ∃ path ∈ event.path?, ∃ target located, state.locate path = .ok (target, located) ∧
    located.sameAs key = true ∧ state.files.declaredNames target = .ok names

theorem completes_after (hreader : engine.probe.reader = .declarations) {event : Event}
    (hunmarked : ¬ state.cache.isComplete key = true)
    (hmarked : (engine.after state event).cache.isComplete key = true) :
    ∃ names, engine.Completes state event key names ∧
      engine.Has (engine.after state event).cache key names := by
  obtain ⟨path, hpath, hserves⟩ | ⟨files, hfiles⟩ := @after_cases engine state event
  · obtain ⟨earlier, next, hearlier, ⟨wanted, rfl, rfl⟩, hmore, hbefore, hbegins⟩ :=
      hserves.exists_turn (P := fun state => state.cache.isComplete key = true) hunmarked hmarked
    obtain ⟨target, located, names, hlocate, hsame, hnames, hhas⟩ :=
      marks_serve hreader hbefore hbegins
    -- one event may serve several requests: those before the marking one change no files, and
    -- those after it forget nothing
    have hfiles := (effect_of_serves hearlier).files
    rw [locate_eq_of_files_eq hfiles] at hlocate
    rw [hfiles] at hnames
    exact ⟨names, ⟨hunmarked, hmarked, wanted.path, hpath, target, located, hlocate, hsame, hnames⟩,
      hhas.keeps (effect_of_serves hmore).keeps⟩
  · rw [hfiles] at hmarked
    exact absurd hmarked hunmarked

theorem Completes.unique {event : Event} {a b : NameSet} (ha : engine.Completes state event key a)
    (hb : engine.Completes state event key b) : a = b := by
  obtain ⟨path, hpath, target, located, hlocate, -, hnames⟩ := ha.searched
  obtain ⟨path', hpath', target', located', hlocate', -, hnames'⟩ := hb.searched
  cases (Option.mem_def.1 hpath).symm.trans hpath'
  cases hlocate.symm.trans hlocate'
  cases hnames.symm.trans hnames'
  rfl

/-- An event of the run marked the file, after a search that found these names. -/
def Marked (engine : Engine) (files : FileSystem) (events : List Event) (key : Path)
    (names : NameSet) : Prop :=
  ∃ earlier event later, events = earlier ++ event :: later ∧
    engine.Completes (engine.run (.fresh files) earlier) event key names

variable {files : FileSystem} {events : List Event}

theorem exists_marked (hreader : engine.probe.reader = .declarations)
    (h : (engine.run (.fresh files) events).cache.isComplete key = true) :
    ∃ names, engine.Marked files events key names := by
  have hstart : ¬ (State.fresh files).cache.isComplete key = true := Bool.false_ne_true
  obtain ⟨earlier, event, later, hevents, hunmarked, hmarked⟩ :=
    exists_event (P := fun state => state.cache.isComplete key = true) hstart h
  obtain ⟨names, hcompletes, -⟩ := completes_after hreader hunmarked hmarked
  exact ⟨names, earlier, event, later, hevents, hcompletes⟩

theorem Marked.has (hreader : engine.probe.reader = .declarations) {names : NameSet}
    (h : engine.Marked files events key names) :
    engine.Has (engine.run (.fresh files) events).cache key names := by
  obtain ⟨earlier, event, later, rfl, hcompletes⟩ := h
  obtain ⟨names', hcompletes', hhas⟩ :=
    completes_after hreader hcompletes.unmarked hcompletes.marked
  obtain rfl := hcompletes'.unique hcompletes
  rw [run_append]
  exact hhas.keeps (engine.keeps_run _ later)

/-! ## Answers -/

section Answer

variable (hreader : engine.probe.reader = .declarations) {located : Path} {values : Values}
  (hlocate : (engine.run (.fresh files) events).locate path = .ok (target, located))
  (hsame : located.sameAs key = true)
  (hvalues : (engine.allValues (engine.run (.fresh files) events) path).1 = .ok values)

include hreader hlocate hsame hvalues

/-- A file of which all values are given is marked. -/
theorem exists_marked_of_allValues :
    ∃ names, engine.Marked files (events ++ [.request (.all path)]) key names := by
  have hafter : engine.run (.fresh files) (events ++ [.request (.all path)]) =
      (engine.allValues (engine.run (.fresh files) events) path).2 := run_append engine _ events _
  refine exists_marked hreader ?_
  rw [hafter, ← Cache.isComplete_congr _ hsame]
  exact isComplete_of_allValues_eq_ok hlocate hvalues

theorem Marked.mem_values {names : NameSet}
    (h : engine.Marked files (events ++ [.request (.all path)]) key names) {name : String}
    (hname : name ∈ names) : engine.cases.toOutput.apply name ∈ values := by
  have hserved : (engine.serve (engine.run (.fresh files) events) (.all path)).1 = .ok values :=
    hvalues
  obtain ⟨entry, hentry, hnames⟩ := h.has hreader
  obtain ⟨_, _, hlocate', hknown⟩ := serve_eq_ok hserved
  cases hlocate'.symm.trans hlocate
  rw [run_append] at hentry
  have hentry' : (engine.serve (engine.run (.fresh files) events) (.all path)).2.cache.get? key =
      some entry := hentry
  rw [Cache.known_congr _ hsame, Cache.known, hentry', Option.getD_some] at hknown
  exact hknown ▸ hnames name hname

end Answer

/-- **No variable is omitted.** With the reader of declarations, whatever else happens during a
run: a file that is marked was marked after a search; its entry has the handed-out form of every
name that this search found; and so has every answer to a request for all its values. -/
theorem allValues_omits_nothing (cases : Naming) (renderer : Renderer) (loadPaths : List Path)
    (token : MarkerToken) (files : FileSystem) (events : List Event) :
    let engine : Engine := ⟨cases, ⟨renderer, .declarations, loadPaths⟩, token⟩
    let state := engine.run (.fresh files) events
    (∀ key, state.cache.isComplete key = true → ∃ names, engine.Marked files events key names) ∧
    (∀ key names, engine.Marked files events key names → ∃ values,
      state.cache.get? key = some values ∧ ∀ name ∈ names, cases.toOutput.apply name ∈ values) ∧
    ∀ path target key values, state.locate path = .ok (target, key) →
      (engine.allValues state path).1 = .ok values →
      (∃ names, engine.Marked files (events ++ [.request (.all path)]) key names) ∧
        ∀ names, engine.Marked files (events ++ [.request (.all path)]) key names →
          ∀ name ∈ names, cases.toOutput.apply name ∈ values := by
  intro engine state
  have hreader : engine.probe.reader = .declarations := rfl
  refine ⟨fun key h => exists_marked hreader h, fun key names h => h.has hreader, ?_⟩
  intro path target key values hlocate hvalues
  have hsame : key.sameAs key = true := Path.sameAs_iff.2 rfl
  exact ⟨exists_marked_of_allValues hreader hlocate hsame hvalues,
    fun names hmarked name hname => hmarked.mem_values hreader hlocate hsame hvalues hname⟩

end StyleConstants.Engine
