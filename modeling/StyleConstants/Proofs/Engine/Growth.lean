import StyleConstants.Proofs.Engine.Run

/-!
# The cache only grows

A write to the entry of a file keeps every value that was known and leaves the other files alone. A
request is a sequence of such writes to one entry, and nothing else touches the cache, so a run
keeps every value that it started with.

* `Cache.Keeps`, `Cache.GrowsAt`: the relations between an earlier and a later cache, and between
  those before and after writes to one entry.
* `after_growsAt`: every event is a sequence of writes to the entry of the file that it is about.
* `keeps_run`: what the cache has at some moment of a run it has ever after.
-/

namespace StyleConstants

namespace Cache

/-- The cache `later` has all entries, values and marks that `earlier` had. -/
structure Keeps (earlier later : Cache) : Prop where
  entry : ∀ {path : Path}, (earlier.get? path).isSome = true → (later.get? path).isSome = true
  known : ∀ {path : Path} {name value : String},
    (earlier.known path)[name]? = some value → (later.known path)[name]? = some value
  complete : ∀ {path : Path}, earlier.isComplete path = true → later.isComplete path = true

/-- The cache `later` has all that `earlier` had, and for files other than `key` no more. -/
structure GrowsAt (key : Path) (earlier later : Cache) : Prop extends Keeps earlier later where
  other : ∀ {path : Path}, key.sameAs path = false →
    later.get? path = earlier.get? path ∧ later.isComplete path = earlier.isComplete path

theorem known_congr (cache : Cache) {a b : Path} (h : a.sameAs b = true) :
    cache.known a = cache.known b := by
  have hentry : (fun entry : Path × Values => entry.1.sameAs a) =
      fun entry => entry.1.sameAs b := funext fun entry => sameAs_congr h entry.1
  rw [known, known, get?, get?, hentry]

theorem known_touch (cache : Cache) (key path : Path) :
    (cache.touch key).known path = cache.known path := by
  rw [known, get?_touch]
  split
  · rename_i h
    rw [Option.getD_some, known_congr cache h]
  · rfl

theorem known_merge (cache : Cache) (key path : Path) (values : Values) :
    (cache.merge key values).known path =
      if key.sameAs path then values ∪ cache.known path else cache.known path := by
  rw [known, get?_merge]
  split
  · rename_i h
    rw [Option.getD_some, known_congr cache h]
  · rfl

theorem known_markComplete (cache : Cache) (key path : Path) :
    (cache.markComplete key).known path = cache.known path := by
  rw [known, get?_markComplete, known]

theorem isComplete_congr (cache : Cache) {a b : Path} (h : a.sameAs b = true) :
    cache.isComplete a = cache.isComplete b := by
  have hmark : (fun mark : Path => mark.sameAs a) = fun mark => mark.sameAs b :=
    funext (sameAs_congr h)
  rw [isComplete, isComplete, hmark]

theorem missing_eq_nil_iff {cache : Cache} {key : Path} {names : List String} :
    cache.missing key names = [] ↔ ∀ name ∈ names, name ∈ cache.known key := by
  rw [List.eq_nil_iff_forall_not_mem]
  constructor
  · intro h name hname
    exact Decidable.byContradiction fun hknown => h name (mem_missing.2 ⟨hname, hknown⟩)
  · intro h name hname
    exact (mem_missing.1 hname).2 (h name (mem_missing.1 hname).1)

/-- A name that has a value keeps it, whatever is merged. -/
theorem getElem?_known_merge {cache : Cache} {key path : Path} {values : Values}
    {name value : String} (h : (cache.known path)[name]? = some value) :
    ((cache.merge key values).known path)[name]? = some value := by
  rw [known_merge]
  split
  · rw [Std.ExtTreeMap.getElem?_union, h, Option.some_or]
  · exact h

theorem isSome_get?_putEntry {cache : Cache} {key path : Path} {values : Values}
    (h : (cache.get? path).isSome = true) :
    (if key.sameAs path then some values else cache.get? path).isSome = true := by
  split
  · rfl
  · exact h

namespace Keeps

theorem refl (cache : Cache) : Keeps cache cache :=
  ⟨id, id, id⟩

theorem trans {a b c : Cache} (hab : Keeps a b) (hbc : Keeps b c) : Keeps a c where
  entry h := hbc.entry (hab.entry h)
  known h := hbc.known (hab.known h)
  complete h := hbc.complete (hab.complete h)

theorem mem_known {a b : Cache} (h : Keeps a b) {path : Path} {name : String}
    (hname : name ∈ a.known path) : name ∈ b.known path := by
  obtain ⟨value, hvalue⟩ := Values.mem_iff.1 hname
  exact Values.mem_iff.2 ⟨value, h.known hvalue⟩

end Keeps

namespace GrowsAt

theorem refl (key : Path) (cache : Cache) : GrowsAt key cache cache :=
  ⟨.refl cache, fun _ => ⟨rfl, rfl⟩⟩

theorem trans {key : Path} {a b c : Cache} (hab : GrowsAt key a b) (hbc : GrowsAt key b c) :
    GrowsAt key a c where
  toKeeps := hab.toKeeps.trans hbc.toKeeps
  other h :=
    ⟨(hbc.other h).1.trans (hab.other h).1, (hbc.other h).2.trans (hab.other h).2⟩

theorem touch (key : Path) (cache : Cache) : GrowsAt key cache (cache.touch key) where
  entry h := by
    rw [get?_touch]
    exact isSome_get?_putEntry h
  known h := by rwa [known_touch]
  complete := id
  other h := ⟨by rw [get?_touch, h]; rfl, rfl⟩

theorem merge (key : Path) (cache : Cache) (values : Values) :
    GrowsAt key cache (cache.merge key values) where
  entry h := by
    rw [get?_merge]
    exact isSome_get?_putEntry h
  known := getElem?_known_merge
  complete := id
  other h := ⟨by rw [get?_merge, h]; rfl, rfl⟩

theorem markComplete (key : Path) (cache : Cache) :
    GrowsAt key cache (cache.markComplete key) where
  entry h := by rwa [get?_markComplete]
  known h := by rwa [known_markComplete]
  complete h := by rw [isComplete_markComplete, h, Bool.or_true]
  other h := ⟨get?_markComplete cache key _, by rw [isComplete_markComplete, h, Bool.false_or]⟩

end GrowsAt

end Cache

namespace Engine

variable {engine : Engine} {state : State}

theorem locate_eq_of_files_eq {a b : State} (h : a.files = b.files) (path : Path) :
    a.locate path = b.locate path := by
  rw [State.locate, State.locate, h]

/-- The name in the cache is that of the file that the path means. -/
theorem canonical_of_locate {path target key : Path} (h : state.locate path = .ok (target, key)) :
    state.files.canonical target = key := by
  unfold State.locate at h
  split at h
  · cases h
    rfl
  · cases h

/-! ## One request -/

/-- What a request does to a state: the files stay, and the cache grows at the file that the path
leads to, or stays if it leads to none. -/
structure Effect (path : Path) (before later : State) : Prop where
  files : later.files = before.files
  unlocated : ∀ {fault : Failure}, before.locate path = .error fault → later.cache = before.cache
  located : ∀ {target key : Path}, before.locate path = .ok (target, key) →
    before.cache.GrowsAt key later.cache

namespace Effect

theorem of_cache_eq {path : Path} {before later : State} (hfiles : later.files = before.files)
    (hcache : later.cache = before.cache) : Effect path before later where
  files := hfiles
  unlocated _ := hcache
  located _ := hcache ▸ .refl _ _

theorem of_located {path target key : Path} {before later : State}
    (hlocate : before.locate path = .ok (target, key)) (hfiles : later.files = before.files)
    (hcache : before.cache.GrowsAt key later.cache) : Effect path before later where
  files := hfiles
  unlocated h := by
    rw [hlocate] at h
    cases h
  located h := by
    rw [hlocate] at h
    cases h
    exact hcache

theorem trans {path : Path} {a b c : State} (hab : Effect path a b) (hbc : Effect path b c) :
    Effect path a c where
  files := hbc.files.trans hab.files
  unlocated h :=
    (hbc.unlocated ((locate_eq_of_files_eq hab.files path).trans h)).trans (hab.unlocated h)
  located h :=
    (hab.located h).trans (hbc.located ((locate_eq_of_files_eq hab.files path).trans h))

theorem keeps {path : Path} {before later : State} (h : Effect path before later) :
    before.cache.Keeps later.cache := by
  cases hlocate : before.locate path with
  | error fault =>
    rw [h.unlocated hlocate]
    exact .refl _
  | ok place => exact (h.located hlocate).toKeeps

end Effect

theorem effect_allValues (path : Path) : Effect path state (engine.allValues state path).2 := by
  have houtcome := allValues_outcome engine state path
  generalize engine.allValues state path = result at houtcome
  cases houtcome with
  | unlocated => exact .of_cache_eq rfl rfl
  | complete hlocate => exact .of_located hlocate rfl (.touch _ _)
  | unsearched _ _ hsearch =>
    obtain rfl := (declaredNames_snd state _).symm.trans (congrArg Prod.snd hsearch)
    exact .of_cache_eq rfl rfl
  | unanswered _ _ hsearch hask =>
    obtain rfl := (declaredNames_snd state _).symm.trans (congrArg Prod.snd hsearch)
    obtain rfl := congrArg Prod.snd hask
    exact .of_cache_eq rfl rfl
  | resolved hlocate _ hsearch hask =>
    obtain rfl := (declaredNames_snd state _).symm.trans (congrArg Prod.snd hsearch)
    obtain rfl := congrArg Prod.snd hask
    exact .of_located hlocate rfl
      (((Cache.GrowsAt.merge _ _ _).trans (.markComplete _ _)).trans (.touch _ _))

theorem effect_namedValues (path : Path) (names : List String) :
    Effect path state (engine.namedValues state path names).2 := by
  have houtcome := namedValues_outcome engine state names path
  generalize engine.namedValues state path names = result at houtcome
  cases houtcome with
  | unlocated => exact .of_cache_eq rfl rfl
  | known hlocate => exact .of_located hlocate rfl (.touch _ _)
  | invalid => exact .of_cache_eq rfl rfl
  | unanswered _ _ _ hask =>
    obtain rfl := congrArg Prod.snd hask
    exact .of_cache_eq rfl rfl
  | unmatched hlocate _ _ hask =>
    obtain rfl := congrArg Prod.snd hask
    exact .of_located hlocate rfl (.merge _ _ _)
  | resolved hlocate _ _ hask =>
    obtain rfl := congrArg Prod.snd hask
    exact .of_located hlocate rfl ((Cache.GrowsAt.merge _ _ _).trans (.touch _ _))

theorem effect_serve (wanted : Request) :
    Effect wanted.path state (engine.serve state wanted).2 := by
  cases wanted with
  | all path => exact effect_allValues path
  | named path names => exact effect_namedValues path names

theorem effect_of_serves {path : Path} {before later : State}
    (h : engine.Serves path before later) : Effect path before later := by
  induction h with
  | refl => exact .of_cache_eq rfl rfl
  | tail _ hturn ih =>
    obtain ⟨wanted, rfl, rfl⟩ := hturn
    exact ih.trans (effect_serve wanted)

/-! ## Events and runs -/

/-- The path of an event leads to the file `key`. -/
def Event.Concerns (state : State) (event : Event) (key : Path) : Prop :=
  ∃ path ∈ event.path?, ∃ target located, state.locate path = .ok (target, located) ∧
    located.sameAs key = true

/-- An event that is about a path has its effect there, and any other leaves the cache alone. -/
theorem effect_after (event : Event) :
    (∃ path ∈ event.path?, Effect path state (engine.after state event)) ∨
      (engine.after state event).cache = state.cache := by
  obtain ⟨path, hpath, hserves⟩ | ⟨files, hfiles⟩ := @after_cases engine state event
  · exact .inl ⟨path, hpath, effect_of_serves hserves⟩
  · rw [hfiles]
    exact .inr rfl

theorem keeps_after (engine : Engine) (state : State) (event : Event) :
    state.cache.Keeps (engine.after state event).cache := by
  obtain ⟨path, -, heffect⟩ | hcache := @effect_after engine state event
  · exact heffect.keeps
  · rw [hcache]
    exact .refl _

theorem known_after {event : Event} {key : Path} {name value : String}
    (h : (state.cache.known key)[name]? = some value) :
    ((engine.after state event).cache.known key)[name]? = some value :=
  (engine.keeps_after state event).known h

theorem eq_after_of_not_concerns {event : Event} {key : Path} (h : ¬ event.Concerns state key) :
    (engine.after state event).cache.get? key = state.cache.get? key ∧
      (engine.after state event).cache.isComplete key = state.cache.isComplete key := by
  obtain ⟨path, hpath, heffect⟩ | hcache := @effect_after engine state event
  · cases hlocate : state.locate path with
    | error fault => rw [heffect.unlocated hlocate]; exact ⟨rfl, rfl⟩
    | ok place =>
      refine (heffect.located hlocate).other (Bool.eq_false_iff.2 fun hsame => ?_)
      exact h ⟨path, hpath, place.1, place.2, hlocate, hsame⟩
  · rw [hcache]
    exact ⟨rfl, rfl⟩

theorem keeps_run (engine : Engine) (state : State) (events : List Event) :
    state.cache.Keeps (engine.run state events).cache := by
  induction events generalizing state with
  | nil => exact .refl _
  | cons event events ih => exact (engine.keeps_after state event).trans (ih _)

theorem known_run {events : List Event} {key : Path} {name value : String}
    (h : (state.cache.known key)[name]? = some value) :
    ((engine.run state events).cache.known key)[name]? = some value :=
  (engine.keeps_run state events).known h

/-! ## Answers -/

/-- A request that is answered ends with the answer from the entry of the file. -/
theorem serve_eq_answer {wanted : Request} {values : Values}
    (h : (engine.serve state wanted).1 = .ok values) :
    ∃ (target key : Path) (last : State), state.locate wanted.path = .ok (target, key) ∧
      engine.serve state wanted = last.answer key := by
  cases wanted with
  | all path =>
    have houtcome := allValues_outcome engine state path
    rw [serve] at h ⊢
    generalize engine.allValues state path = result at houtcome h
    cases houtcome with
    | unlocated => cases h
    | complete hlocate => exact ⟨_, _, _, hlocate, rfl⟩
    | unsearched => cases h
    | unanswered => cases h
    | resolved hlocate => exact ⟨_, _, _, hlocate, rfl⟩
  | named path names =>
    have houtcome := namedValues_outcome engine state names path
    rw [serve] at h ⊢
    generalize engine.namedValues state path names = result at houtcome h
    cases houtcome with
    | unlocated => cases h
    | known hlocate => exact ⟨_, _, _, hlocate, rfl⟩
    | invalid => cases h
    | unanswered => cases h
    | unmatched => cases h
    | resolved hlocate => exact ⟨_, _, _, hlocate, rfl⟩

/-- An answer is the whole entry of the file, as it is afterwards. -/
theorem serve_eq_ok {wanted : Request} {values : Values}
    (h : (engine.serve state wanted).1 = .ok values) :
    ∃ target key, state.locate wanted.path = .ok (target, key) ∧
      (engine.serve state wanted).2.cache.known key = values := by
  obtain ⟨target, key, last, hlocate, hserve⟩ := serve_eq_answer h
  rw [hserve] at h ⊢
  cases h
  exact ⟨target, key, hlocate, Cache.known_touch _ _ _⟩

theorem cached_of_serve_eq_ok {wanted : Request} {values : Values}
    (h : (engine.serve state wanted).1 = .ok values) :
    (engine.serve state wanted).2.cached wanted.path = some values := by
  obtain ⟨target, key, last, hlocate, hserve⟩ := serve_eq_answer h
  rw [← locate_eq_of_files_eq (effect_serve wanted).files] at hlocate
  rw [State.cached, hlocate]
  dsimp only
  rw [hserve] at h ⊢
  cases h
  exact (Cache.get?_touch _ _ _).trans (if_pos (Path.sameAs_iff.2 rfl))

/-- All requested names are known after a merge if those that were missing are. -/
theorem mem_known_merge_of_missing_eq_nil {cache : Cache} {key : Path} {names : List String}
    {values : Values}
    (h : (cache.merge key values).missing key (cache.missing key names) = []) {name : String}
    (hname : name ∈ names) : name ∈ (cache.merge key values).known key := by
  by_cases hknown : name ∈ cache.known key
  · exact (Cache.GrowsAt.merge key cache values).mem_known hknown
  · exact Cache.missing_eq_nil_iff.1 h name (Cache.mem_missing.2 ⟨hname, hknown⟩)

theorem mem_of_namedValues_eq_ok {path : Path} {names : List String} {values : Values}
    (h : (engine.namedValues state path names).1 = .ok values) {name : String}
    (hname : name ∈ names) : name ∈ values := by
  have houtcome := namedValues_outcome engine state names path
  generalize engine.namedValues state path names = result at houtcome h
  cases houtcome with
  | unlocated => cases h
  | known _ hmissing =>
    cases h
    exact Cache.missing_eq_nil_iff.1 hmissing name hname
  | invalid => cases h
  | unanswered => cases h
  | unmatched => cases h
  | resolved _ _ _ hask hmatched =>
    cases h
    obtain rfl := congrArg Prod.snd hask
    exact mem_known_merge_of_missing_eq_nil hmatched hname

/-- **The cache only grows.** At every moment of every run: what is known of a file stays known
with the same value; an event changes no entry and no mark but those of the file that it is about;
an answer about a file is contained in every later answer about it; and an answer to a request for
names has all of them. -/
theorem cache_grows_over_runs (engine : Engine) (files : FileSystem) (events : List Event) :
    let state := engine.run (.fresh files) events
    (∀ (later : List Event) (key : Path) (name value : String),
      (state.cache.known key)[name]? = some value →
        ((engine.run state later).cache.known key)[name]? = some value) ∧
    (∀ (event : Event) (key : Path), ¬ event.Concerns state key →
      (engine.after state event).cache.get? key = state.cache.get? key ∧
        (engine.after state event).cache.isComplete key = state.cache.isComplete key) ∧
    (∀ (first second : Request) (between : List Event) (target key target' key' : Path)
      (values values' : Values),
      let later := engine.run (engine.serve state first).2 between
      state.locate first.path = .ok (target, key) →
      later.locate second.path = .ok (target', key') → key.sameAs key' = true →
      (engine.serve state first).1 = .ok values → (engine.serve later second).1 = .ok values' →
        ∀ name value : String, values[name]? = some value → values'[name]? = some value) ∧
    (∀ (path : Path) (names : List String) (values : Values),
      (engine.namedValues state path names).1 = .ok values → ∀ name ∈ names, name ∈ values) := by
  intro state
  refine ⟨fun later key name value h => known_run h, fun event key h => eq_after_of_not_concerns h,
    ?_, fun path names values h name hname => mem_of_namedValues_eq_ok h hname⟩
  intro first second between target key target' key' values values' later hfirst hsecond hsame
    hvalues hvalues' name value hvalue
  obtain ⟨_, _, hlocate, hknown⟩ := serve_eq_ok hvalues
  obtain ⟨_, _, hlocate', hknown'⟩ := serve_eq_ok hvalues'
  cases hfirst.symm.trans hlocate
  cases hsecond.symm.trans hlocate'
  have hlater : (later.cache.known key)[name]? = some value := known_run (hknown ▸ hvalue)
  rw [Cache.known_congr later.cache hsame] at hlater
  have hafter : ((engine.after later (.request second)).cache.known key')[name]? = some value :=
    known_after hlater
  exact hknown' ▸ hafter

end Engine

end StyleConstants
