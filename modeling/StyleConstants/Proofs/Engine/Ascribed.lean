import Mathlib.Data.List.Induction
import Mathlib.Data.List.Infix
import StyleConstants.Proofs.Engine.Completeness
import StyleConstants.Proofs.Engine.Evaluated
import StyleConstants.Proofs.Probe.Rendered

/-!
# Whose value stands under a name

Given a compiler that reports the values of declared variables, and of each its own, the cache never
holds anything else: under a name stands the value of a declared variable that was asked for and is
handed out under this name. Conversions are not checked, so there may be several such variables, and
a requested name may be converted to that of a variable which is not among them. Where there is one
only, it is certain whose value it is.

* `Reports`, `Ascribes`: what is taken of the compiler, and what the cache holds in return.
* `Reports.of_evaluate`: what is read of the texts that such a compiler renders.
* `ascribes_serve`, `ascribes_run`: a request keeps it, and so does a run.
* `values_are_ascribed`: whose value an answer gives for each variable and for each name requested.
* `names_are_confused`: two variables that are given each other's value.
-/

namespace StyleConstants.Engine

open Stylesheet

/-- Whatever the compiler renders when it is asked for variables of the file `key`, it renders
declared variables only, and each with the value that it has. -/
def Reports (engine : Engine) (files : FileSystem) (key : Path) (declared : Set String)
    (value : String → String) : Prop :=
  ∀ earlier target names rendered, (files.canonical target).sameAs key = true → names ≠ [] →
    (∀ name ∈ names, isVariableName name.toList = true) →
    engine.probe.renderer earlier
      (engine.probe.request target (.ofNames engine.token names)) = .ok rendered →
    ∃ rendering : Rendering, rendering.IsValid ∧ rendering.token = engine.token ∧
      rendered = String.ofList rendering.text ∧
      ∀ entry ∈ rendering.entries, entry.1 ∈ declared ∧ value entry.1 = entry.2

/-- The variables that these requests to the compiler ask for. -/
def queried (engine : Engine) (renders : List RenderRequest) : Set String :=
  {name | ∃ target names, engine.probe.request target (.ofNames engine.token names) ∈ renders ∧
    name ∈ names}

/-- Under every name stands the value of one of these variables that is handed out under it. -/
def Ascribes (engine : Engine) (sought : Set String) (value : String → String) (known : Values) :
    Prop :=
  ∀ output found : String, known[output]? = some found →
    ∃ name ∈ sought, engine.cases.toOutput.apply name = output ∧ value name = found

variable {engine : Engine} {state : State} {files : FileSystem} {key path target located : Path}
  {declared sought more : Set String} {value : String → String} {known values : Values}

/-! ## Ascribed values -/

theorem ascribes_empty : engine.Ascribes sought value ∅ := by
  intro output found h
  rw [Std.ExtTreeMap.getElem?_empty] at h
  cases h

theorem Ascribes.mono (h : engine.Ascribes sought value known) (hmore : sought ⊆ more) :
    engine.Ascribes more value known := by
  intro output found hfound
  obtain ⟨name, hname, hrest⟩ := h output found hfound
  exact ⟨name, hmore hname, hrest⟩

theorem Ascribes.merge {cache : Cache} (h : engine.Ascribes sought value (cache.known key))
    (hvalues : located.sameAs key = true → engine.Ascribes sought value values) :
    engine.Ascribes sought value ((cache.merge located values).known key) := by
  rw [Cache.known_merge]
  split
  · rename_i hsame
    intro output found hfound
    rw [Std.ExtTreeMap.getElem?_union, Option.or_eq_some_iff] at hfound
    rcases hfound with hold | ⟨-, hnew⟩
    · exact h output found hold
    · exact hvalues hsame output found hnew
  · exact h

theorem Ascribes.answer (h : engine.Ascribes sought value (state.cache.known key))
    (located : Path) :
    engine.Ascribes sought value ((state.answer located).2.cache.known key) := by
  rw [State.answer, Cache.known_touch]
  exact h

theorem subset_queried_asked (state : State) (target : Path) (names : List String) :
    engine.queried state.renders ⊆ engine.queried (engine.asked state target names).renders := by
  rintro name ⟨target', names', hrequest, hname⟩
  exact ⟨target', names', List.mem_append_left _ hrequest, hname⟩

theorem mem_queried_asked {names : List String} {name : String} (hname : name ∈ names) :
    name ∈ engine.queried (engine.asked state target names).renders := by
  refine ⟨target, names, List.mem_append_right _ ?_, hname⟩
  rw [submission, if_neg (List.ne_nil_of_mem hname)]
  exact List.mem_singleton_self _

section Reader

variable (hreader : engine.probe.reader = .declarations)

include hreader

/-- What is read of such a text are the values of variables that were asked for and are declared. -/
theorem Reports.of_evaluate (hreports : engine.Reports files key declared value)
    (htarget : (files.canonical target).sameAs key = true) {names : List String}
    (hnone : names ≠ []) (hvalid : ∀ name ∈ names, isVariableName name.toList = true)
    {earlier : List RenderRequest} (h : engine.evaluate earlier target names = .ok values)
    {name found : String} (hfound : values[name]? = some found) :
    name ∈ names ∧ name ∈ declared ∧ value name = found := by
  obtain ⟨rendered, hrendered, hread⟩ := exists_readBack hreader h
  obtain ⟨rendering, hrendering, htoken, rfl, hentries⟩ :=
    hreports earlier target names rendered htarget hnone hvalid hrendered
  obtain ⟨hmem, hvalue⟩ := MarkerSet.of_readBack_eq_ok hread hfound
  rw [MarkerSet.mem_names_ofNames] at hmem
  rw [String.toList_ofList, MarkerSet.ofNames, ← htoken,
    Rendering.valueOf_text_iff hrendering (hvalid name hmem)] at hvalue
  exact ⟨hmem, hentries _ hvalue⟩

/-- What a request adds to the cache are values of variables that it asked for. -/
theorem Reports.ascribes (hreports : engine.Reports files key declared value)
    (htarget : (files.canonical target).sameAs key = true) {names : List String}
    (hvalid : ∀ name ∈ names, isVariableName name.toList = true)
    (h : engine.resolved state.renders target names = .ok values) :
    engine.Ascribes (declared ∩ engine.queried (engine.asked state target names).renders) value
      values := by
  rw [resolved] at h
  split at h
  · cases h
    exact ascribes_empty
  · rename_i hnone
    cases hevaluate : engine.evaluate state.renders target names with
    | error fault =>
      rw [hevaluate] at h
      cases h
    | ok read =>
      rw [hevaluate] at h
      cases h
      intro output found hfound
      obtain ⟨name, houtput, hname⟩ := Values.exists_of_getElem?_renamed hfound
      obtain ⟨hmem, hdeclared, hvalue⟩ :=
        hreports.of_evaluate hreader htarget hnone hvalid hevaluate hname
      exact ⟨name, ⟨hdeclared, mem_queried_asked hmem⟩, houtput, hvalue⟩

/-! ## Requests and runs -/

section Step

variable (hreports : engine.Reports state.files key declared value)
  (h : engine.Ascribes (declared ∩ engine.queried state.renders) value (state.cache.known key))

include hreports h

/-- Whatever comes of asking for some variables of a file, what was known before stays ascribed, and
so does what is added for it. -/
theorem ascribes_asked (hlocate : state.locate path = .ok (target, located)) {names : List String}
    (hvalid : ∀ name ∈ names, isVariableName name.toList = true) :
    let sought := declared ∩ engine.queried (engine.asked state target names).renders
    engine.Ascribes sought value (state.cache.known key) ∧
      ∀ values, engine.resolved state.renders target names = .ok values →
        engine.Ascribes sought value ((state.cache.merge located values).known key) := by
  intro sought
  have hold : engine.Ascribes sought value (state.cache.known key) :=
    h.mono (Set.inter_subset_inter_right _ (subset_queried_asked state target names))
  refine ⟨hold, fun values hvalues => hold.merge fun hsame => ?_⟩
  exact hreports.ascribes hreader ((canonical_of_locate hlocate).symm ▸ hsame) hvalid hvalues

theorem ascribes_allValues (path : Path) :
    engine.Ascribes (declared ∩ engine.queried (engine.allValues state path).2.renders) value
      ((engine.allValues state path).2.cache.known key) := by
  have houtcome := allValues_outcome engine state path
  generalize engine.allValues state path = result at houtcome
  have hasked : ∀ {target located : Path} {names : NameSet},
      state.locate path = .ok (target, located) → (state.declaredNames target).1 = .ok names →
      let submitted := engine.unresolved (state.cache.known located) names
      let sought := declared ∩ engine.queried (engine.asked state target submitted).renders
      engine.Ascribes sought value (state.cache.known key) ∧
        ∀ values, engine.resolved state.renders target submitted = .ok values →
          engine.Ascribes sought value ((state.cache.merge located values).known key) := by
    intro target located names hlocate hsearch
    rw [fst_declaredNames] at hsearch
    exact ascribes_asked hreader hreports h hlocate fun name hname =>
      FileSystem.isVariableName_of_mem_declaredNames hsearch (mem_unresolved.1 hname).1
  cases houtcome with
  | unlocated => exact h
  | complete => exact h.answer _
  | unsearched _ _ hsearch =>
    obtain rfl := (declaredNames_snd state _).symm.trans (congrArg Prod.snd hsearch)
    exact h
  | unanswered hlocate _ hsearch hask =>
    obtain rfl := (declaredNames_snd state _).symm.trans (congrArg Prod.snd hsearch)
    rw [ask_eq] at hask
    obtain ⟨-, rfl⟩ := Prod.mk.inj hask
    exact (hasked hlocate (congrArg Prod.fst hsearch)).1
  | @resolved _ located _ values _ _ hlocate _ hsearch hask =>
    obtain rfl := (declaredNames_snd state _).symm.trans (congrArg Prod.snd hsearch)
    rw [ask_eq] at hask
    obtain ⟨hvalues, rfl⟩ := Prod.mk.inj hask
    have hmerged := (hasked hlocate (congrArg Prod.fst hsearch)).2 values hvalues
    rw [← (state.cache.merge located values).known_markComplete located,
      ← ((state.cache.merge located values).markComplete located).known_touch located] at hmerged
    exact hmerged

theorem ascribes_namedValues (path : Path) (names : List String) :
    engine.Ascribes (declared ∩ engine.queried (engine.namedValues state path names).2.renders)
      value ((engine.namedValues state path names).2.cache.known key) := by
  have houtcome := namedValues_outcome engine state names path
  generalize engine.namedValues state path names = result at houtcome
  have hasked : ∀ {target located : Path}, state.locate path = .ok (target, located) →
      engine.invalid (state.cache.missing located names) = [] →
      let submitted := (state.cache.missing located names).map engine.cases.toDeclared.apply
      let sought := declared ∩ engine.queried (engine.asked state target submitted).renders
      engine.Ascribes sought value (state.cache.known key) ∧
        ∀ values, engine.resolved state.renders target submitted = .ok values →
          engine.Ascribes sought value ((state.cache.merge located values).known key) := by
    intro target located hlocate hinvalid
    exact ascribes_asked hreader hreports h hlocate
      (List.forall_mem_map.2 (invalid_eq_nil_iff.1 hinvalid))
  cases houtcome with
  | unlocated => exact h
  | known => exact h.answer _
  | invalid => exact h
  | unanswered hlocate _ hinvalid hask =>
    rw [ask_eq] at hask
    obtain ⟨-, rfl⟩ := Prod.mk.inj hask
    exact (hasked hlocate hinvalid).1
  | unmatched hlocate _ hinvalid hask =>
    rw [ask_eq] at hask
    obtain ⟨hvalues, rfl⟩ := Prod.mk.inj hask
    exact (hasked hlocate hinvalid).2 _ hvalues
  | resolved hlocate _ hinvalid hask =>
    rw [ask_eq] at hask
    obtain ⟨hvalues, rfl⟩ := Prod.mk.inj hask
    exact ((hasked hlocate hinvalid).2 _ hvalues).answer _

theorem ascribes_serve (wanted : Request) :
    engine.Ascribes (declared ∩ engine.queried (engine.serve state wanted).2.renders) value
      ((engine.serve state wanted).2.cache.known key) := by
  cases wanted with
  | all path => exact ascribes_allValues hreader hreports h path
  | named path names => exact ascribes_namedValues hreader hreports h path names

theorem ascribes_serves {later : State} (hserves : engine.Serves path state later) :
    engine.Ascribes (declared ∩ engine.queried later.renders) value (later.cache.known key) := by
  induction hserves with
  | refl => exact h
  | tail hearlier hturn ih =>
    obtain ⟨wanted, -, rfl⟩ := hturn
    exact ascribes_serve hreader ((effect_of_serves hearlier).files ▸ hreports) ih wanted

theorem ascribes_after (event : Event) :
    engine.Ascribes (declared ∩ engine.queried (engine.after state event).renders) value
      ((engine.after state event).cache.known key) := by
  obtain ⟨_, -, hserves⟩ | ⟨_, hfiles⟩ := @after_cases engine state event
  · exact ascribes_serves hreader hreports h hserves
  · rw [hfiles]
    exact h

end Step

theorem ascribes_run {events : List Event}
    (hreports : ∀ earlier, earlier <+: events →
      engine.Reports (engine.run (.fresh files) earlier).files key declared value) :
    engine.Ascribes (declared ∩ engine.queried (engine.run (.fresh files) events).renders) value
      ((engine.run (.fresh files) events).cache.known key) := by
  induction events using List.reverseRecOn with
  | nil => exact ascribes_empty
  | append_singleton events event ih =>
    rw [run_append]
    have hbefore := List.prefix_append events [event]
    exact ascribes_after hreader (hreports events hbefore)
      (ih fun earlier hearlier => hreports earlier (hearlier.trans hbefore)) event

end Reader

/-! ## Answers -/

/-- Under the name `output` the values have that of one of these variables which is handed out under
it: that of `name`, unless there is another. -/
structure Gives (engine : Engine) (sought : Set String) (value : String → String)
    (values : Values) (output name : String) : Prop where
  ascribed : ∃ other ∈ sought, engine.cases.toOutput.apply other = output ∧
    values[output]? = some (value other)
  own : (∀ other ∈ sought, engine.cases.toOutput.apply other = output → other = name) →
    values[output]? = some (value name)

theorem Ascribes.gives (h : engine.Ascribes sought value values) {output : String}
    (hmem : output ∈ values) (name : String) : engine.Gives sought value values output name := by
  obtain ⟨found, hfound⟩ := Values.mem_iff.1 hmem
  obtain ⟨other, hother, houtput, rfl⟩ := h output found hfound
  exact ⟨⟨other, hother, houtput, hfound⟩, fun honly => honly other hother houtput ▸ hfound⟩

/-- **Values are ascribed to variables.** Let the compiler report, at every moment of a run, the
values of declared variables of a file only, and of each its own. Then everything in an answer about
the file is the value of a declared variable that was asked for and is handed out under its name. An
answer with all values gives every variable that was found its own value, unless another such
variable is handed out under the same name; an answer to a request for names gives under each of
them the value of the variable to which it is converted, unless another such variable is handed out
under it. A request for a name under which no declared variable is handed out is refused. -/
theorem values_are_ascribed (engine : Engine) (hreader : engine.probe.reader = .declarations)
    (files : FileSystem) (events : List Event) (key : Path) (declared : Set String)
    (value : String → String)
    (hreports : ∀ earlier, earlier <+: events →
      engine.Reports (engine.run (.fresh files) earlier).files key declared value)
    (hlocate : (engine.run (.fresh files) events).locate path = .ok (target, located))
    (hsame : located.sameAs key = true) :
    let state := engine.run (.fresh files) events
    let sought (wanted : Request) :=
      declared ∩ engine.queried (engine.serve state wanted).2.renders
    (∀ wanted : Request, wanted.path = path → ∀ values, (engine.serve state wanted).1 = .ok values →
      engine.Ascribes (sought wanted) value values) ∧
    (∀ values, (engine.allValues state path).1 = .ok values →
      (∃ names, engine.Marked files (events ++ [.request (.all path)]) key names) ∧
        ∀ names, engine.Marked files (events ++ [.request (.all path)]) key names →
          ∀ name ∈ names, engine.Gives (sought (.all path)) value values
            (engine.cases.toOutput.apply name) name) ∧
    (∀ requested values, (engine.namedValues state path requested).1 = .ok values →
      ∀ output ∈ requested, engine.Gives (sought (.named path requested)) value values output
        (engine.cases.toDeclared.apply output)) ∧
    ∀ requested : List String,
      (∃ output ∈ requested, ∀ name ∈ declared, engine.cases.toOutput.apply name ≠ output) →
        ∃ fault, (engine.namedValues state path requested).1 = .error fault := by
  intro state sought
  have hanswer : ∀ wanted : Request, wanted.path = path → ∀ values,
      (engine.serve state wanted).1 = .ok values →
        engine.Ascribes (sought wanted) value values := by
    rintro wanted rfl values hvalues
    obtain ⟨_, _, hlocate', hknown⟩ := serve_eq_ok hvalues
    cases hlocate'.symm.trans hlocate
    rw [← hknown, Cache.known_congr _ hsame]
    exact ascribes_serve hreader (hreports events (List.prefix_refl _))
      (ascribes_run hreader hreports) wanted
  have hnamed : ∀ requested values, (engine.namedValues state path requested).1 = .ok values →
      ∀ output ∈ requested, engine.Gives (sought (.named path requested)) value values output
        (engine.cases.toDeclared.apply output) :=
    fun requested values hvalues output houtput =>
      (hanswer (.named path requested) rfl values hvalues).gives
        (mem_of_namedValues_eq_ok hvalues houtput) _
  refine ⟨hanswer, fun values hvalues => ?_, hnamed, ?_⟩
  · refine ⟨exists_marked_of_allValues hreader hlocate hsame hvalues, ?_⟩
    intro names hmarked name hname
    exact (hanswer (.all path) rfl values hvalues).gives
      (hmarked.mem_values hreader hlocate hsame hvalues hname) name
  · rintro requested ⟨output, houtput, hnone⟩
    cases hvalues : (engine.namedValues state path requested).1 with
    | error fault => exact ⟨fault, rfl⟩
    | ok values =>
      obtain ⟨name, hname, hsame, -⟩ := (hnamed requested values hvalues output houtput).ascribed
      exact absurd hsame (hnone name hname.1)

theorem Evaluates.exists_resolved_ok (hevaluates : engine.Evaluates files key declared value)
    (htarget : (files.canonical target).sameAs key = true) {names : List String}
    (hdeclared : ∀ name ∈ names, name ∈ declared)
    (hvalid : ∀ name ∈ names, isVariableName name.toList = true) (earlier : List RenderRequest) :
    ∃ values, engine.resolved earlier target names = .ok values := by
  by_cases hnone : names = []
  · exact ⟨∅, by rw [resolved, if_pos hnone]⟩
  · obtain ⟨values, hvalues, -⟩ :=
      (hevaluates earlier target names htarget hnone hvalid).1 hdeclared
    exact ⟨_, by rw [resolved, if_neg hnone, hvalues]; rfl⟩

/-! ## One text for all requests -/

section Rendering

variable {rendering : Rendering} (h : rendering.IsValid)
  (hentries : ∀ name found : String, (name, found) ∈ rendering.entries ↔
    name ∈ declared ∧ value name = found)

include h hentries

/-- A compiler that always renders the same variables reports their values. -/
theorem reports_rendering (cases : Naming) (loadPaths : List Path) :
    Reports ⟨cases, ⟨.prepared [] (.ok (String.ofList rendering.text)), .declarations, loadPaths⟩,
      rendering.token⟩ files key declared value := by
  intro earlier target names rendered _ _ _ hrendered
  have htext : String.ofList rendering.text = rendered := Except.ok.inj hrendered
  exact ⟨rendering, h, rfl, htext.symm, fun entry hentry => (hentries _ _).1 hentry⟩

/-- Asked for some of them, such a compiler and the reader give the values of these. -/
theorem evaluates_rendering (cases : Naming) (loadPaths : List Path) :
    Evaluates ⟨cases, ⟨.prepared [] (.ok (String.ofList rendering.text)), .declarations, loadPaths⟩,
      rendering.token⟩ files key declared value := by
  intro earlier target names _ _ hvalid
  have hevaluate : evaluate
      ⟨cases, ⟨.prepared [] (.ok (String.ofList rendering.text)), .declarations, loadPaths⟩,
        rendering.token⟩ earlier target names =
      ((MarkerSet.ofNames rendering.token names).readBack (String.ofList rendering.text)).mapError
        .readback := rfl
  rw [hevaluate]
  constructor
  · intro hdeclared
    obtain ⟨values, hvalues, hiff⟩ := Rendering.readBack_text h fun name hname =>
      List.mem_map.2 ⟨_, (hentries name _).2 ⟨hdeclared name hname, rfl⟩, rfl⟩
    refine ⟨values, by rw [hvalues]; rfl, fun name found => ?_⟩
    rw [hiff, hentries]
    exact and_congr_right fun hname => and_iff_right (hdeclared name hname)
  · rintro ⟨name, hname, hundeclared⟩
    cases hread : (MarkerSet.ofNames rendering.token names).readBack
        (String.ofList rendering.text) with
    | error fault => exact ⟨_, rfl⟩
    | ok values =>
      obtain ⟨found, hfound⟩ :=
        Values.mem_iff.1 (MarkerSet.mem_readBack hread (MarkerSet.mem_names_ofNames.2 hname))
      have hvalue := (MarkerSet.of_readBack_eq_ok hread hfound).2
      rw [String.toList_ofList] at hvalue
      have hentry := (Rendering.valueOf_text_iff h (hvalid name hname)).1 hvalue
      exact absurd ((hentries name found).1 hentry).1 hundeclared

end Rendering

/-- A file with two variables whose names differ in style only. -/
def twinPath : Path := .ofText "/a.scss"

def twinTree : MemoryTree :=
  MemoryTree.empty.add twinPath "$my-var: 1;\n$myVar: 2;".toUTF8.toList

/-- What the compiler renders of them. -/
def twinRendering : Rendering where
  style := .compressed
  token := ⟨"0f"⟩
  front := []
  entries := [("my-var", "1"), ("myVar", "2")]
  back := []

def twinText : String := String.ofList twinRendering.text

def twinNames : Set String := {"my-var", "myVar"}

def twinValue (name : String) : String := if name = "my-var" then "1" else "2"

/-- An engine whose compiler knows the two variables. -/
def twinEngine (cases : Naming) : Engine :=
  ⟨cases, ⟨.prepared [] (.ok twinText), .declarations, []⟩, ⟨"0f"⟩⟩

theorem isValid_twinRendering : twinRendering.IsValid where
  hexadecimal := Text.forall_mem_of_all (by decide)
  distinct := by decide
  named := by
    refine List.forall_mem_cons.2 ⟨⟨by decide, Text.forall_mem_of_all (by decide)⟩, ?_⟩
    exact List.forall_mem_singleton.2 ⟨by decide, Text.forall_mem_of_all (by decide)⟩
  valued := by
    refine List.forall_mem_cons.2 ⟨⟨.char (by decide) .nil, ?_⟩, ?_⟩
    · exact Text.isTrimmed_of_ends (by decide) (by decide)
    · exact List.forall_mem_singleton.2
        ⟨.char (by decide) .nil, Text.isTrimmed_of_ends (by decide) (by decide)⟩
  marked before after htext := by
    have hplaces : ∀ n ∈ List.range (twinRendering.text.length + 1),
        "0f".toList <+: twinRendering.text.drop n →
          twinRendering.text.take n = "#vars_".toList ∨
            twinRendering.text.take n = twinRendering.upTo [] ++ "--my-var_".toList ∨
            twinRendering.text.take n =
              twinRendering.upTo [("my-var", "1")] ++ "--myVar_".toList := by decide +kernel
    obtain ⟨n, hn, rfl, hpiece⟩ := exists_mem_range_of_split htext
    rw [Rendering.IsPlace]
    rcases hplaces n hn hpiece with h | h | h
    · exact .inl h
    · exact .inr ⟨[], _, _, rfl, h⟩
    · exact .inr ⟨[("my-var", "1")], _, _, rfl, h⟩

theorem mem_entries_twinRendering (name found : String) :
    (name, found) ∈ twinRendering.entries ↔ name ∈ twinNames ∧ twinValue name = found := by
  constructor
  · intro h
    rcases List.mem_cons.1 h with h | h
    · cases h
      exact ⟨.inl rfl, rfl⟩
    · cases List.mem_singleton.1 h
      exact ⟨.inr rfl, rfl⟩
  · rintro ⟨rfl | rfl, rfl⟩
    · exact List.mem_cons_self
    · exact List.mem_cons_of_mem _ List.mem_cons_self

theorem reports_twinEngine (cases : Naming) (files : FileSystem) (key : Path) :
    (twinEngine cases).Reports files key twinNames twinValue :=
  reports_rendering isValid_twinRendering mem_entries_twinRendering cases []

theorem evaluates_twinEngine (cases : Naming) (files : FileSystem) (key : Path) :
    (twinEngine cases).Evaluates files key twinNames twinValue :=
  evaluates_rendering isValid_twinRendering mem_entries_twinRendering cases []

def twinSheet : Stylesheet :=
  ⟨[⟨1, .variable ⟨"my-var", "1", false, false⟩⟩, ⟨2, .variable ⟨"myVar", "2", false, false⟩⟩]⟩

theorem declaredNames_twinTree : ∃ names,
    twinTree.fileSystem.declaredNames twinPath = .ok names ∧
      ∀ name, name ∈ names ↔ name ∈ twinNames := by
  have hholds : Closure.Holds twinTree.fileSystem ⟨twinPath, .braced⟩ twinSheet :=
    ⟨"$my-var: 1;\n$myVar: 2;".toList, by decide +kernel, by decide +kernel⟩
  have hsource : Source.resolve twinTree.fileSystem.isFile twinPath =
      .ok ⟨twinPath, .braced⟩ := rfl
  refine ⟨_, FileSystem.declaredNames_of_single hsource hholds rfl, fun name => ?_⟩
  have hnames : twinSheet.variableNames = ["my-var", "myVar"] := rfl
  rw [hnames, Closure.declare, Std.ExtTreeSet.mem_insertMany_list, List.contains_iff_mem]
  simp [Closure.afterReading, Closure.empty, twinNames]

/-- All values of the file are given, however names are converted. -/
theorem exists_allValues_twinEngine (cases : Naming) : ∃ names,
    twinTree.fileSystem.declaredNames twinPath = .ok names ∧
      (∀ name, name ∈ names ↔ name ∈ twinNames) ∧
      ∃ values, ((twinEngine cases).allValues (.fresh twinTree.fileSystem) twinPath).1 =
        .ok values := by
  obtain ⟨names, hnames, hiff⟩ := declaredNames_twinTree
  have hlocate : (State.fresh twinTree.fileSystem).locate twinPath =
      .ok (twinPath, twinPath) := rfl
  have htarget : (twinTree.fileSystem.canonical twinPath).sameAs twinPath = true := by decide
  have hevaluates := evaluates_twinEngine cases twinTree.fileSystem twinPath
  have hresolved : ∃ values, (twinEngine cases).resolved [] twinPath
      ((twinEngine cases).unresolved (Cache.empty.known twinPath) names) = .ok values := by
    refine hevaluates.exists_resolved_ok htarget (fun name hname => ?_) (fun name hname => ?_) []
    · exact (hiff name).1 (mem_unresolved.1 hname).1
    · exact FileSystem.isVariableName_of_mem_declaredNames hnames (mem_unresolved.1 hname).1
  obtain ⟨values, hvalues⟩ := hresolved
  refine ⟨names, hnames, hiff, ?_⟩
  rw [allValues_of_search hlocate rfl]
  dsimp only [State.fresh]
  rw [hnames]
  dsimp only
  rw [hvalues]
  exact ⟨_, rfl⟩

/-- The state once all values of the file were asked for. -/
def twinState (cases : Naming) : State :=
  (twinEngine cases).run (.fresh twinTree.fileSystem) [.request (.all twinPath)]

theorem locate_twinState (cases : Naming) :
    (twinState cases).locate twinPath = .ok (twinPath, twinPath) :=
  locate_eq_of_files_eq (effect_allValues twinPath).files _

/-- Both variables have a value once all values were asked for. -/
theorem mem_known_twinState (cases : Naming) {name : String} (hname : name ∈ twinNames) :
    cases.toOutput.apply name ∈ (twinState cases).cache.known twinPath := by
  obtain ⟨names, hnames, hiff, values, hvalues⟩ := exists_allValues_twinEngine cases
  have hlocate : (State.fresh twinTree.fileSystem).locate twinPath =
      .ok (twinPath, twinPath) := rfl
  have hunmarked : ¬ (State.fresh twinTree.fileSystem).cache.isComplete twinPath = true :=
    Bool.false_ne_true
  obtain ⟨target, _, names', hlocate', -, hnames', entry, hentry, hhas⟩ :=
    marks_allValues rfl hunmarked (isComplete_of_allValues_eq_ok hlocate hvalues)
  cases hlocate.symm.trans hlocate'
  cases hnames.symm.trans hnames'
  have hknown : (twinState cases).cache.known twinPath = entry := by
    rw [Cache.known]
    exact congrArg (Option.getD · ∅) hentry
  rw [hknown]
  exact hhas name ((hiff name).2 hname)

/-- A request for names that are known is answered from the cache. -/
theorem namedValues_twinState (cases : Naming) {name : String} (hname : name ∈ twinNames)
    (houtput : cases.toOutput.apply name = name) :
    ((twinEngine cases).namedValues (twinState cases) twinPath [name]).1 =
      .ok ((twinState cases).cache.known twinPath) := by
  have hknown := mem_known_twinState cases hname
  rw [houtput] at hknown
  rw [namedValues_of_known (locate_twinState cases) (List.forall_mem_singleton.2 hknown)]
  rfl

/-- **Names may be confused.** The compiler knows both variables and tells them apart. Handed out
under one name, one of them is given the value of the other. Handed out under the names that they
have, both are known, and then a request by the name of the first one is answered with its value,
although the name requested is converted to that of the second. -/
theorem names_are_confused :
    (∀ cases, (twinEngine cases).Reports twinTree.fileSystem twinPath twinNames twinValue ∧
      (twinEngine cases).Evaluates twinTree.fileSystem twinPath twinNames twinValue) ∧
    (∃ names, twinTree.fileSystem.declaredNames twinPath = .ok names ∧
      let cases : Naming := ⟨.style .param, .style .camel⟩
      ∃ values, ((twinEngine cases).allValues (.fresh twinTree.fileSystem) twinPath).1 =
          .ok values ∧
        ∃ name ∈ names, values[cases.toOutput.apply name]? ≠ some (twinValue name)) ∧
    let cases : Naming := ⟨.style .camel, .identity⟩
    ∃ values, ((twinEngine cases).namedValues (twinState cases) twinPath ["my-var"]).1 =
        .ok values ∧
      values["my-var"]? ≠ some (twinValue (cases.toDeclared.apply "my-var")) := by
  refine ⟨fun cases => ⟨reports_twinEngine cases _ _, evaluates_twinEngine cases _ _⟩, ?_, ?_⟩
  · obtain ⟨names, hnames, hiff, values, hvalues⟩ :=
      exists_allValues_twinEngine ⟨.style .param, .style .camel⟩
    refine ⟨names, hnames, values, hvalues, ?_⟩
    have hsame : CaseStyle.camel.convert "my-var" = CaseStyle.camel.convert "myVar" := by
      decide +kernel
    by_contra hnone
    push Not at hnone
    have hfirst := hnone "my-var" ((hiff _).2 (.inl rfl))
    have hsecond := hnone "myVar" ((hiff _).2 (.inr rfl))
    have hvalue : some (twinValue "my-var") = some (twinValue "myVar") := by
      rw [← hfirst, ← hsecond]
      exact congrArg (values[·]?) hsame
    exact absurd hvalue (by decide)
  · intro cases
    have hascribes := @ascribes_run (twinEngine cases) twinTree.fileSystem twinPath twinNames
      twinValue rfl [.request (.all twinPath)]
      fun _ _ => reports_twinEngine cases _ _
    refine ⟨_, namedValues_twinState cases (.inl rfl) rfl, fun h => ?_⟩
    obtain ⟨name, hname, hsame, hvalue⟩ := hascribes _ _ h
    obtain rfl : name = "my-var" := hsame
    revert hvalue
    decide +kernel

theorem values_are_ascribed_twin :
    let cases : Naming := ⟨.style .camel, .identity⟩
    let events := [Event.request (.all twinPath)]
    (twinEngine cases).probe.reader = .declarations ∧
      (∀ earlier, earlier <+: events →
        (twinEngine cases).Reports
          ((twinEngine cases).run (.fresh twinTree.fileSystem) earlier).files twinPath
          twinNames twinValue) ∧
      (twinState cases).locate twinPath = .ok (twinPath, twinPath) ∧
      twinPath.sameAs twinPath = true ∧
      (∃ values, ((twinEngine cases).namedValues (twinState cases) twinPath ["myVar"]).1 =
          .ok values ∧ values["myVar"]? = some "2") ∧
      ∃ fault, ((twinEngine cases).namedValues (twinState cases) twinPath ["x"]).1 =
        .error fault := by
  intro cases events
  have hreports : ∀ earlier, earlier <+: events →
      (twinEngine cases).Reports
        ((twinEngine cases).run (.fresh twinTree.fileSystem) earlier).files twinPath
        twinNames twinValue := fun _ _ => reports_twinEngine cases _ _
  have hsame : twinPath.sameAs twinPath = true := by decide
  obtain ⟨-, -, hnamed, hrefused⟩ := values_are_ascribed (twinEngine cases) rfl
    twinTree.fileSystem events twinPath twinNames twinValue hreports (locate_twinState cases)
    hsame
  have hvalues := namedValues_twinState cases (.inr rfl) rfl
  have hconverted : CaseStyle.camel.convert "myVar" = "myVar" := by decide +kernel
  refine ⟨rfl, hreports, locate_twinState cases, hsame, ⟨_, hvalues, ?_⟩, ?_⟩
  · have hown := (hnamed _ _ hvalues "myVar" List.mem_cons_self).own
      fun other _ hother => Eq.trans hother hconverted.symm
    rw [hown]
    decide +kernel
  · refine hrefused ["x"] ⟨"x", List.mem_cons_self, ?_⟩
    rintro name (rfl | rfl) <;> decide +kernel

end StyleConstants.Engine
