import StyleConstants.Files.Memory
import StyleConstants.Proofs.Closure.Search
import StyleConstants.Proofs.Engine.Growth
import StyleConstants.Proofs.Probe.Sheet
import StyleConstants.Proofs.Stylesheet.Origin

/-!
# What an engine submits

A request submits one stylesheet at most. It asks for names that can be names of variables: those
that a search has found were read as such, and those that a request mentions are checked. The path
in the stylesheet is the one that the path of the request led to.

* `renders_allValues`, `renders_namedValues`: what a request submits, exactly.
* `asks_run`: everything submitted during a run was submitted by an event about that file.
* `submitted_sheet`: everything submitted is an import and a rule, and nothing else.
-/

namespace StyleConstants

open Stylesheet

theorem FileSystem.isVariableName_of_mem_declaredNames {files : FileSystem} {path : Path}
    {names : NameSet} (h : files.declaredNames path = .ok names) {name : String}
    (hname : name ∈ names) : isVariableName name.toList = true := by
  have hclosed : Closure.IsClosed files fun _ => True := fun _ _ _ _ _ _ _ _ => trivial
  obtain ⟨found, rfl, hinvariant⟩ :=
    Closure.invariant_declaredNames hclosed (fun _ _ => trivial) h
  obtain ⟨source, sheet, -, ⟨text, -, hparse⟩, hvariable⟩ := hinvariant.names_held name hname
  exact isVariableName_of_mem_variableNames hparse hvariable

namespace Engine

variable {engine : Engine} {state : State} {path target key : Path}

theorem fst_declaredNames (state : State) (target : Path) :
    (state.declaredNames target).1 = state.files.declaredNames target := by
  rw [State.declaredNames, FileSystem.declaredNames]
  dsimp only
  split <;> rename_i hfault
  · split
    · rename_i hfound
      rw [hfound] at hfault
      cases hfault
    · rename_i hfound
      rw [hfound] at hfault
      cases hfault
      rfl
  · split
    · rename_i hfound
      rw [hfound]
    · rename_i hfound
      rw [hfound] at hfault
      cases hfault

/-! ## Asking -/

/-- What is submitted to ask for these variables of the target: nothing if there are none. -/
def submission (engine : Engine) (target : Path) (names : List String) : List RenderRequest :=
  if names = [] then [] else [engine.probe.request target (.ofNames engine.token names)]

/-- What the compiler and the reader make of the markers of these variables. -/
def evaluate (engine : Engine) (earlier : List RenderRequest) (target : Path)
    (names : List String) : Except Failure Values :=
  let set := MarkerSet.ofNames engine.token names
  match engine.probe.renderer earlier (engine.probe.request target set) with
  | .error fault => .error (.render target fault)
  | .ok rendered => engine.probe.reader set rendered

/-- The values of these variables under the names handed out. -/
def resolved (engine : Engine) (earlier : List RenderRequest) (target : Path)
    (names : List String) : Except Failure Values :=
  if names = [] then .ok ∅
  else (engine.evaluate earlier target names).map (·.renamed engine.cases.toOutput)

/-- The state after asking for these variables. -/
def asked (engine : Engine) (state : State) (target : Path) (names : List String) : State :=
  { state with renders := state.renders ++ engine.submission target names }

theorem names_ofNames_eq_nil_iff {token : MarkerToken} {names : List String} :
    (MarkerSet.ofNames token names).names = [] ↔ names = [] := by
  rw [List.eq_nil_iff_forall_not_mem, List.eq_nil_iff_forall_not_mem]
  exact forall_congr' fun name => not_congr MarkerSet.mem_names_ofNames

theorem ask_eq (engine : Engine) (state : State) (target : Path) (names : List String) :
    engine.ask state target names =
      (engine.resolved state.renders target names, engine.asked state target names) := by
  have hnil := @names_ofNames_eq_nil_iff engine.token names
  rw [ask, resolved, asked, submission]
  dsimp only
  by_cases hnames : names = []
  · rw [Probe.ask_nil _ _ _ (hnil.2 hnames), if_pos hnames, if_pos hnames]
  · have hset : ¬ (MarkerSet.ofNames engine.token names).names.isEmpty = true :=
      fun h => hnames (hnil.1 (List.isEmpty_iff.1 h))
    unfold Probe.ask
    simp only [if_neg hset, if_neg hnames, evaluate]
    cases engine.probe.renderer state.renders
      (engine.probe.request target (.ofNames engine.token names)) with
    | error fault => rfl
    | ok rendered =>
      dsimp only
      cases engine.probe.reader (.ofNames engine.token names) rendered <;> rfl

/-! ## Requests for all values -/

section All

variable {names : NameSet}

theorem allValues_of_unlocated {fault : Failure} (hlocate : state.locate path = .error fault) :
    engine.allValues state path = (.error fault, state) := by
  unfold allValues
  rw [hlocate]

theorem allValues_of_isComplete (hlocate : state.locate path = .ok (target, key))
    (hcomplete : state.cache.isComplete key = true) :
    engine.allValues state path = state.answer key := by
  unfold allValues
  rw [hlocate]
  dsimp only
  rw [if_pos hcomplete]

theorem allValues_of_search (hlocate : state.locate path = .ok (target, key))
    (hcomplete : state.cache.isComplete key = false) :
    engine.allValues state path =
      match state.files.declaredNames target with
      | .error fault => (.error fault, (state.declaredNames target).2)
      | .ok names =>
        let wanted := engine.unresolved (state.cache.known key) names
        let asked := engine.asked (state.declaredNames target).2 target wanted
        match engine.resolved state.renders target wanted with
        | .error fault => (.error fault, asked)
        | .ok values =>
          { asked with cache := (state.cache.merge key values).markComplete key }.answer key := by
  have hfirst := fst_declaredNames state target
  have hsecond := declaredNames_snd state target
  unfold allValues
  rw [hlocate]
  dsimp only
  rw [hcomplete, if_neg Bool.false_ne_true, ← hfirst]
  generalize hsearch : state.declaredNames target = search at hsecond
  obtain ⟨answer, searched⟩ := search
  dsimp only at hsecond
  subst hsecond
  cases answer with
  | error fault => rfl
  | ok names =>
    dsimp only
    rw [ask_eq]
    dsimp only
    cases engine.resolved state.renders target (engine.unresolved (state.cache.known key) names) <;>
      rfl

theorem renders_allValues (hlocate : state.locate path = .ok (target, key))
    (hcomplete : state.cache.isComplete key = false)
    (hnames : state.files.declaredNames target = .ok names) :
    (engine.allValues state path).2.renders = state.renders ++
      engine.submission target (engine.unresolved (state.cache.known key) names) := by
  rw [allValues_of_search hlocate hcomplete, hnames, declaredNames_snd]
  dsimp only
  split <;> rfl

theorem renders_allValues_of_unsearched (hlocate : state.locate path = .ok (target, key))
    (hcomplete : state.cache.isComplete key = false) {fault : Failure}
    (hfault : state.files.declaredNames target = .error fault) :
    (engine.allValues state path).2.renders = state.renders := by
  rw [allValues_of_search hlocate hcomplete, hfault, declaredNames_snd]

end All

/-! ## Requests for some values -/

section Named

variable {names : List String}

theorem namedValues_of_unlocated {fault : Failure} (hlocate : state.locate path = .error fault) :
    engine.namedValues state path names = (.error fault, state) := by
  unfold namedValues
  rw [hlocate]

theorem namedValues_eq (hlocate : state.locate path = .ok (target, key)) :
    engine.namedValues state path names =
      let missing := state.cache.missing key names
      if missing = [] then state.answer key
      else if engine.invalid missing = [] then
        let declared := missing.map engine.cases.toDeclared.apply
        match engine.resolved state.renders target declared with
        | .error fault => (.error fault, engine.asked state target declared)
        | .ok values =>
          let cache := state.cache.merge key values
          let merged := { engine.asked state target declared with cache := cache }
          if cache.missing key missing = [] then merged.answer key
          else (.error (.caseMismatch (cache.missing key missing)), merged)
      else (.error (.caseMismatch (engine.invalid missing)), state) := by
  unfold namedValues
  rw [hlocate]
  simp only [List.isEmpty_iff, ask_eq, invalid]
  cases engine.resolved state.renders target
    ((state.cache.missing key names).map engine.cases.toDeclared.apply) <;> rfl

theorem namedValues_of_known (hlocate : state.locate path = .ok (target, key))
    (h : ∀ name ∈ names, name ∈ state.cache.known key) :
    engine.namedValues state path names = state.answer key := by
  rw [namedValues_eq hlocate]
  dsimp only
  rw [if_pos (Cache.missing_eq_nil_iff.2 h)]

theorem renders_namedValues (hlocate : state.locate path = .ok (target, key)) :
    (engine.namedValues state path names).2.renders = state.renders ++
      if engine.invalid (state.cache.missing key names) = [] then
        engine.submission target
          ((state.cache.missing key names).map engine.cases.toDeclared.apply)
      else [] := by
  rw [namedValues_eq hlocate]
  dsimp only
  split
  · rename_i hmissing
    rw [hmissing, invalid, List.filter_nil, if_pos rfl, List.map_nil, submission, if_pos rfl,
      List.append_nil]
    rfl
  · split
    · split
      · rfl
      · split <;> rfl
    · rw [List.append_nil]

end Named

/-! ## Submissions of a run -/

/-- The request asks about the file that the path means, for variables by names that they can
have. -/
def Asks (engine : Engine) (state : State) (path : Path) (request : RenderRequest) : Prop :=
  ∃ target key set, state.locate path = .ok (target, key) ∧
    request = engine.probe.request target set ∧ set.token = engine.token ∧
    ∀ name ∈ set.names, isVariableName name.toList = true

variable {request : RenderRequest}

theorem asks_of_mem_submission (hlocate : state.locate path = .ok (target, key))
    {names : List String} (hnames : ∀ name ∈ names, isVariableName name.toList = true)
    (h : request ∈ engine.submission target names) : engine.Asks state path request := by
  rw [submission] at h
  split at h
  · cases h
  · obtain rfl := List.mem_singleton.1 h
    exact ⟨target, key, _, hlocate, rfl, rfl,
      fun name hname => hnames name (MarkerSet.mem_names_ofNames.1 hname)⟩

theorem invalid_eq_nil_iff {names : List String} : engine.invalid names = [] ↔
    ∀ name ∈ names, isVariableName (engine.cases.toDeclared.apply name).toList = true := by
  rw [invalid, List.filter_eq_nil_iff]
  exact forall₂_congr fun name _ => by rw [Bool.not_eq_true', Bool.not_eq_false]

theorem asks_allValues (hold : request ∉ state.renders)
    (hnew : request ∈ (engine.allValues state path).2.renders) :
    engine.Asks state path request := by
  cases hlocate : state.locate path with
  | error fault =>
    rw [allValues_of_unlocated hlocate] at hnew
    exact absurd hnew hold
  | ok place =>
    obtain ⟨target, key⟩ := place
    cases hcomplete : state.cache.isComplete key with
    | true =>
      rw [allValues_of_isComplete hlocate hcomplete] at hnew
      exact absurd hnew hold
    | false =>
      cases hnames : state.files.declaredNames target with
      | error fault =>
        rw [renders_allValues_of_unsearched hlocate hcomplete hnames] at hnew
        exact absurd hnew hold
      | ok names =>
        rw [renders_allValues hlocate hcomplete hnames] at hnew
        refine asks_of_mem_submission hlocate ?_ ((List.mem_append.1 hnew).resolve_left hold)
        intro name hname
        have hfound : name ∈ names := Std.ExtTreeSet.mem_toList.1 (List.mem_filter.1 hname).1
        exact FileSystem.isVariableName_of_mem_declaredNames hnames hfound

theorem asks_namedValues {names : List String} (hold : request ∉ state.renders)
    (hnew : request ∈ (engine.namedValues state path names).2.renders) :
    engine.Asks state path request := by
  cases hlocate : state.locate path with
  | error fault =>
    rw [namedValues_of_unlocated hlocate] at hnew
    exact absurd hnew hold
  | ok place =>
    obtain ⟨target, key⟩ := place
    rw [renders_namedValues hlocate] at hnew
    have hsubmitted := (List.mem_append.1 hnew).resolve_left hold
    split at hsubmitted
    · rename_i hvalid
      refine asks_of_mem_submission hlocate ?_ hsubmitted
      intro declared hdeclared
      obtain ⟨name, hname, rfl⟩ := List.mem_map.1 hdeclared
      exact invalid_eq_nil_iff.1 hvalid name hname
    · cases hsubmitted

theorem asks_serve {wanted : Request} (hold : request ∉ state.renders)
    (hnew : request ∈ (engine.serve state wanted).2.renders) :
    engine.Asks state wanted.path request := by
  cases wanted with
  | all path => exact asks_allValues hold hnew
  | named path names => exact asks_namedValues hold hnew

theorem Asks.congr {other : State} (hfiles : other.files = state.files)
    (h : engine.Asks other path request) : engine.Asks state path request := by
  obtain ⟨target, key, set, hlocate, hrest⟩ := h
  exact ⟨target, key, set, (locate_eq_of_files_eq hfiles path).symm.trans hlocate, hrest⟩

theorem asks_after {event : Event} (hold : request ∉ state.renders)
    (hnew : request ∈ (engine.after state event).renders) :
    ∃ path ∈ event.path?, engine.Asks state path request := by
  obtain ⟨path, hpath, hserves⟩ | ⟨files, hfiles⟩ := @after_cases engine state event
  · obtain ⟨earlier, next, hearlier, ⟨wanted, rfl, rfl⟩, -, holds, hbegins⟩ :=
      hserves.exists_turn (P := fun state => request ∈ state.renders) hold hnew
    exact ⟨wanted.path, hpath, (asks_serve holds hbegins).congr (effect_of_serves hearlier).files⟩
  · rw [hfiles] at hnew
    exact absurd hnew hold

theorem asks_run {files : FileSystem} {events : List Event}
    (h : request ∈ (engine.run (.fresh files) events).renders) :
    ∃ earlier event later, events = earlier ++ event :: later ∧
      ∃ path ∈ event.path?, engine.Asks (engine.run (.fresh files) earlier) path request := by
  have hstart : request ∉ (State.fresh files).renders := List.not_mem_nil
  obtain ⟨earlier, event, later, hevents, hold, hnew⟩ :=
    exists_event (P := fun state => request ∈ state.renders) hstart h
  exact ⟨earlier, event, later, hevents, asks_after hold hnew⟩

/-- Everything submitted during a run asks for variables of the file that the path of an event led
to, by names that they can have. Its stylesheet can be read if and only if the path holds no line
break. It is then an import and a rule, and the import names the path unless that holds an
interpolation. -/
theorem submitted_sheet (engine : Engine) (files : FileSystem) (events : List Event)
    (htoken : ∀ c ∈ engine.token.text.toList, IsKeywordChar c)
    (hrequest : request ∈ (engine.run (.fresh files) events).renders) :
    ∃ earlier event later, events = earlier ++ event :: later ∧
      ∃ path ∈ event.path?, ∃ target key set,
        (engine.run (.fresh files) earlier).locate path = .ok (target, key) ∧
        request = engine.probe.request target set ∧ set.token = engine.token ∧
        (∀ name ∈ set.names, isVariableName name.toList = true) ∧
        ((∃ sheet, parse .braced request.sheet.toList = .ok sheet) ↔
          '\n' ∉ target.text.toList) ∧
        ∀ sheet, parse .braced request.sheet.toList = .ok sheet → ∃ rule : AtRule,
          rule.keyword = "import" ∧ rule.hasBlock = false ∧
          sheet.nodes = [⟨1, .atRule rule⟩, ⟨2, .rule ("#vars_" ++ engine.token.text)⟩] ∧
          (rule.importPath = some target.text ↔ ¬ ['#', '{'] <:+: target.text.toList) := by
  obtain ⟨earlier, event, later, hevents, path, hpath, target, key, set, hlocate, rfl, hset,
    hnames⟩ := asks_run hrequest
  refine ⟨earlier, event, later, hevents, path, hpath, target, key, set, hlocate, rfl, hset,
    hnames, ?_⟩
  have hsheet : (engine.probe.request target set).sheet.toList = set.sheetText target :=
    MarkerSet.toList_sheet set target
  rw [hsheet]
  rw [← hset] at htoken
  by_cases hbreak : '\n' ∈ target.text.toList
  · obtain ⟨rejection, hrejection⟩ := set.parse_sheetText_of_break hbreak
    rw [hrejection]
    refine ⟨⟨?_, fun h => absurd hbreak h⟩, fun _ h => ?_⟩
    · rintro ⟨_, h⟩
      cases h
    · cases h
  · rw [MarkerSet.parse_sheetText_of_line htoken hnames hbreak]
    refine ⟨⟨fun _ => hbreak, fun _ => ⟨_, rfl⟩⟩, ?_⟩
    intro sheet h
    cases h
    refine ⟨_, rfl, rfl, by rw [hset, MarkerToken.selector], ?_⟩
    rw [importPath_literal (by decide)]
    split
    · rename_i hinterpolation
      refine ⟨fun h => ?_, fun h => absurd hinterpolation h⟩
      cases h
    · rename_i hinterpolation
      exact ⟨fun _ => hinterpolation, fun _ => rfl⟩

/-- A path with a quote and a backslash. -/
def quotedPath : Path := .ofText "/a\"\\b.scss"

def quotedTree : MemoryTree := MemoryTree.empty.add quotedPath "$x: 1".toUTF8.toList

/-- An engine that asks for other names than those requested. -/
def quotedEngine : Engine :=
  ⟨⟨.custom (· ++ "-"), .identity⟩, ⟨.prepared [] (.ok ""), .declarations, []⟩, ⟨"0f"⟩⟩

theorem submitted_sheet_quoted :
    let events := [Event.request (.named quotedPath ["x"])]
    let request := quotedEngine.probe.request quotedPath ⟨⟨"0f"⟩, ["x-"]⟩
    (∀ c ∈ quotedEngine.token.text.toList, IsKeywordChar c) ∧
      request ∈ (quotedEngine.run (.fresh quotedTree.fileSystem) events).renders ∧
      ∃ sheet rule, parse .braced request.sheet.toList = .ok sheet ∧
        sheet.nodes = [⟨1, .atRule rule⟩, ⟨2, .rule "#vars_0f"⟩] ∧
        rule.importPath = some quotedPath.text := by
  intro events request
  have htoken : ∀ c ∈ quotedEngine.token.text.toList, IsKeywordChar c :=
    Text.forall_mem_of_all (by decide)
  have hrequest : request ∈ (quotedEngine.run (.fresh quotedTree.fileSystem) events).renders :=
    List.mem_singleton.2 rfl
  have hplace : (State.fresh quotedTree.fileSystem).locate quotedPath =
      .ok (quotedPath, quotedPath) := rfl
  have hline : '\n' ∉ quotedPath.text.toList := by decide +kernel
  have hplain : ¬ ['#', '{'] <:+: quotedPath.text.toList := by decide +kernel
  have hselector : "#vars_" ++ quotedEngine.token.text = "#vars_0f" := by decide +kernel
  obtain ⟨earlier, event, later, hevents, path, hpath, target, key, set, hlocate, -, -, -, hreads,
    hnodes⟩ := submitted_sheet quotedEngine quotedTree.fileSystem events htoken hrequest
  obtain ⟨hearlier, hsingle⟩ | ⟨-, hnone⟩ := List.singleton_eq_append_iff.1 hevents
  · obtain ⟨hevent, -⟩ := List.cons.inj hsingle
    subst hearlier hevent
    have hquoted : quotedPath = path := Option.some.inj hpath
    subst hquoted
    rw [run, List.foldl_nil, hplace] at hlocate
    obtain ⟨htarget, -⟩ := Prod.mk.inj (Except.ok.inj hlocate)
    subst htarget
    obtain ⟨sheet, hsheet⟩ := hreads.2 hline
    obtain ⟨rule, -, -, hsheetNodes, himport⟩ := hnodes sheet hsheet
    rw [hselector] at hsheetNodes
    exact ⟨htoken, hrequest, sheet, rule, hsheet, hsheetNodes, himport.2 hplain⟩
  · cases hnone

end Engine

end StyleConstants
