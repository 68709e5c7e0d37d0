import Mathlib.Logic.Relation
import StyleConstants.Import

/-!
# Runs of an engine

An engine lives through events: requests of all kinds, looks at the cache, and changes of the files
that can be seen. A run is a list of events from some state.

* `allValues_outcome`, `namedValues_outcome`: everything that a request can come to, with what is
  known in each case. All later statements about requests start from these two.
* `run_append`: a run may be cut anywhere.
* `after_cases`: an event serves requests about its path, or changes the files and nothing else.
* `exists_event`, `Serves.exists_turn`: what did not hold at first and holds in the end began to
  hold with one event, and in it with one request.
-/

namespace StyleConstants.Engine

/-- A request for values. -/
inductive Request where
  | all (path : Path)
  | named (path : Path) (names : List String)

/-- The path that a request is about. -/
def Request.path : Request → Path
  | all path => path
  | named path _ => path

/-- The answer to a request and the state after it. -/
def serve (engine : Engine) (state : State) : Request → Except Failure Values × State
  | .all path => engine.allValues state path
  | .named path names => engine.namedValues state path names

/-- What can happen to an engine. -/
inductive Event where
  | request (request : Request)
  | importing (importer : Path) (request : ImportRequest)
  | requiring (importer : Path) (specifier : String)
  /-- The cache entry of a file is looked at. -/
  | looking (path : Path)
  /-- Files are added, replaced or removed. -/
  | changing (files : FileSystem)

/-- The path that an event is about, if it is about one. -/
def Event.path? : Event → Option Path
  | request wanted => some wanted.path
  | importing importer wanted => some (importer.importTarget wanted.specifier)
  | requiring importer specifier => some (importer.importTarget specifier)
  | looking path => some path
  | changing _ => none

/-- The state after an event. -/
def after (engine : Engine) (state : State) : Event → State
  | .request wanted => (engine.serve state wanted).2
  | .importing importer wanted => (engine.importConstants state importer wanted).2
  | .requiring importer specifier => (engine.requireValues state importer specifier).2
  | .looking _ => state
  | .changing files => { state with files := files }

/-- The state after several events, one after the other. -/
def run (engine : Engine) (state : State) (events : List Event) : State :=
  events.foldl engine.after state

theorem run_append (engine : Engine) (state : State) (earlier later : List Event) :
    engine.run state (earlier ++ later) = engine.run (engine.run state earlier) later :=
  List.foldl_append

/-! ## Outcomes -/

variable (engine : Engine) (state : State) (names : List String)

/-- A search changes nothing but the list of files read. -/
theorem declaredNames_snd (target : Path) :
    (state.declaredNames target).2 =
      { state with reads := state.reads ++ (state.files.search target).1.read.reverse } := by
  rw [State.declaredNames]
  dsimp only
  split <;> rfl

/-- What a request for all values comes to. -/
inductive AllOutcome (path : Path) : Except Failure Values × State → Prop
  | unlocated {fault : Failure} (hlocate : state.locate path = .error fault) :
      AllOutcome path (.error fault, state)
  | complete {target key : Path} (hlocate : state.locate path = .ok (target, key))
      (hcomplete : state.cache.isComplete key = true) :
      AllOutcome path (state.answer key)
  | unsearched {target key : Path} {fault : Failure} {searched : State}
      (hlocate : state.locate path = .ok (target, key))
      (hcomplete : state.cache.isComplete key = false)
      (hsearch : state.declaredNames target = (.error fault, searched)) :
      AllOutcome path (.error fault, searched)
  | unanswered {target key : Path} {names : NameSet} {fault : Failure} {searched asked : State}
      (hlocate : state.locate path = .ok (target, key))
      (hcomplete : state.cache.isComplete key = false)
      (hsearch : state.declaredNames target = (.ok names, searched))
      (hask : engine.ask searched target
        (engine.unresolved (searched.cache.known key) names) = (.error fault, asked)) :
      AllOutcome path (.error fault, asked)
  | resolved {target key : Path} {names : NameSet} {values : Values} {searched asked : State}
      (hlocate : state.locate path = .ok (target, key))
      (hcomplete : state.cache.isComplete key = false)
      (hsearch : state.declaredNames target = (.ok names, searched))
      (hask : engine.ask searched target
        (engine.unresolved (searched.cache.known key) names) = (.ok values, asked)) :
      AllOutcome path
        ({ asked with cache := (asked.cache.merge key values).markComplete key }.answer key)

theorem allValues_outcome (path : Path) :
    AllOutcome engine state path (engine.allValues state path) := by
  unfold allValues
  split
  · rename_i hlocate
    exact .unlocated hlocate
  · rename_i target key hlocate
    split
    · rename_i hcomplete
      exact .complete hlocate hcomplete
    · rename_i hcomplete
      rw [Bool.not_eq_true] at hcomplete
      split
      · rename_i hsearch
        exact .unsearched hlocate hcomplete hsearch
      · rename_i hsearch
        split
        · rename_i hask
          exact .unanswered hlocate hcomplete hsearch hask
        · rename_i hask
          exact .resolved hlocate hcomplete hsearch hask

/-- The requested names whose declared form cannot be the name of a variable. -/
def invalid (names : List String) : List String :=
  names.filter fun name =>
    !Stylesheet.isVariableName (engine.cases.toDeclared.apply name).toList

/-- What a request for some values comes to. -/
inductive NamedOutcome (path : Path) : Except Failure Values × State → Prop
  | unlocated {fault : Failure} (hlocate : state.locate path = .error fault) :
      NamedOutcome path (.error fault, state)
  | known {target key : Path} (hlocate : state.locate path = .ok (target, key))
      (hmissing : state.cache.missing key names = []) :
      NamedOutcome path (state.answer key)
  | invalid {target key : Path} (hlocate : state.locate path = .ok (target, key))
      (hmissing : state.cache.missing key names ≠ [])
      (hinvalid : engine.invalid (state.cache.missing key names) ≠ []) :
      NamedOutcome path
        (.error (.caseMismatch (engine.invalid (state.cache.missing key names))), state)
  | unanswered {target key : Path} {fault : Failure} {asked : State}
      (hlocate : state.locate path = .ok (target, key))
      (hmissing : state.cache.missing key names ≠ [])
      (hinvalid : engine.invalid (state.cache.missing key names) = [])
      (hask : engine.ask state target
        ((state.cache.missing key names).map engine.cases.toDeclared.apply) =
          (.error fault, asked)) :
      NamedOutcome path (.error fault, asked)
  | unmatched {target key : Path} {values : Values} {asked : State}
      (hlocate : state.locate path = .ok (target, key))
      (hmissing : state.cache.missing key names ≠ [])
      (hinvalid : engine.invalid (state.cache.missing key names) = [])
      (hask : engine.ask state target
        ((state.cache.missing key names).map engine.cases.toDeclared.apply) =
          (.ok values, asked))
      (hunmatched : (asked.cache.merge key values).missing key
        (state.cache.missing key names) ≠ []) :
      NamedOutcome path
        (.error (.caseMismatch
          ((asked.cache.merge key values).missing key (state.cache.missing key names))),
          { asked with cache := asked.cache.merge key values })
  | resolved {target key : Path} {values : Values} {asked : State}
      (hlocate : state.locate path = .ok (target, key))
      (hmissing : state.cache.missing key names ≠ [])
      (hinvalid : engine.invalid (state.cache.missing key names) = [])
      (hask : engine.ask state target
        ((state.cache.missing key names).map engine.cases.toDeclared.apply) =
          (.ok values, asked))
      (hmatched : (asked.cache.merge key values).missing key
        (state.cache.missing key names) = []) :
      NamedOutcome path ({ asked with cache := asked.cache.merge key values }.answer key)

theorem namedValues_outcome (path : Path) :
    NamedOutcome engine state names path (engine.namedValues state path names) := by
  unfold namedValues
  split
  · rename_i hlocate
    exact .unlocated hlocate
  · rename_i target key hlocate
    dsimp only
    split
    · rename_i hmissing
      exact .known hlocate (List.isEmpty_iff.1 hmissing)
    · rename_i hmissing
      rw [List.isEmpty_iff] at hmissing
      split
      · rename_i hinvalid
        have hinvalid : engine.invalid (state.cache.missing key names) = [] :=
          List.isEmpty_iff.1 hinvalid
        split
        · rename_i hask
          exact .unanswered hlocate hmissing hinvalid hask
        · rename_i hask
          split
          · rename_i hmatched
            exact .resolved hlocate hmissing hinvalid hask (List.isEmpty_iff.1 hmatched)
          · rename_i hunmatched
            exact .unmatched hlocate hmissing hinvalid hask
              (fun h => hunmatched (List.isEmpty_iff.2 h))
      · rename_i hinvalid
        exact .invalid hlocate hmissing (fun h => hinvalid (List.isEmpty_iff.2 h))

/-! ## What an event does -/

/-- The later state is the one after some request about the path. -/
def Turn (engine : Engine) (path : Path) (before later : State) : Prop :=
  ∃ wanted : Request, wanted.path = path ∧ later = (engine.serve before wanted).2

/-- The later state is the one after any number of requests about the path. -/
def Serves (engine : Engine) (path : Path) : State → State → Prop :=
  Relation.ReflTransGen (engine.Turn path)

section Events

variable {engine : Engine} {state : State}

theorem serves_allValues (engine : Engine) (state : State) (path : Path) :
    engine.Serves path state (engine.allValues state path).2 :=
  .single ⟨.all path, rfl, rfl⟩

theorem serves_namedValues (engine : Engine) (state : State) (path : Path) (names : List String) :
    engine.Serves path state (engine.namedValues state path names).2 :=
  .single ⟨.named path names, rfl, rfl⟩

theorem serves_defaultConstants (target : Path) (binding : Option String) :
    engine.Serves target state (engine.defaultConstants state target binding).2 := by
  cases binding with
  | none => exact .refl
  | some localName =>
    have hserves := engine.serves_allValues state target
    unfold defaultConstants
    dsimp only
    split <;> rename_i hvalues <;> rwa [hvalues] at hserves

theorem serves_namedConstants (target : Path) (named : List NamedImport) :
    engine.Serves target state (engine.namedConstants state target named).2 := by
  unfold namedConstants
  split
  · exact .refl
  · have hserves := engine.serves_namedValues state target (named.map (·.imported))
    split <;> rename_i hvalues <;> rwa [hvalues] at hserves

theorem serves_importConstants (importer : Path) (wanted : ImportRequest) :
    engine.Serves (importer.importTarget wanted.specifier) state
      (engine.importConstants state importer wanted).2 := by
  unfold importConstants
  split
  · dsimp only
    generalize importer.importTarget wanted.specifier = target
    have hdefault : engine.Serves target state
        (engine.defaultConstants state target wanted.defaultBinding).2 :=
      serves_defaultConstants target _
    split
    · rename_i h
      rwa [h] at hdefault
    · rename_i bindings middle h
      rw [h] at hdefault
      have hnamed : engine.Serves target middle
          (engine.namedConstants middle target wanted.named).2 := serves_namedConstants target _
      split <;> rename_i hconstants <;> rw [hconstants] at hnamed <;> exact hdefault.trans hnamed
  · exact .refl

theorem serves_requireValues (importer : Path) (specifier : String) :
    engine.Serves (importer.importTarget specifier) state
      (engine.requireValues state importer specifier).2 := by
  unfold requireValues
  split
  · have hserves := engine.serves_allValues state (importer.importTarget specifier)
    split <;> rename_i hvalues <;> rwa [hvalues] at hserves
  · exact .refl

theorem after_cases (event : Event) :
    (∃ path ∈ event.path?, engine.Serves path state (engine.after state event)) ∨
      ∃ files, engine.after state event = { state with files := files } := by
  cases event with
  | request wanted => exact .inl ⟨_, rfl, .single ⟨wanted, rfl, rfl⟩⟩
  | importing importer wanted => exact .inl ⟨_, rfl, serves_importConstants importer wanted⟩
  | requiring importer specifier => exact .inl ⟨_, rfl, serves_requireValues importer specifier⟩
  | looking path => exact .inl ⟨path, rfl, .refl⟩
  | changing files => exact .inr ⟨files, rfl⟩

/-! ## When something began to hold -/

variable {P : State → Prop}

theorem Serves.exists_turn {path : Path} {before later : State}
    (h : engine.Serves path before later) (hbefore : ¬ P before) (hlater : P later) :
    ∃ earlier next, engine.Serves path before earlier ∧ engine.Turn path earlier next ∧
      engine.Serves path next later ∧ ¬ P earlier ∧ P next := by
  induction h with
  | refl => exact absurd hlater hbefore
  | @tail middle later hserves hturn ih =>
    -- it began with the last request unless it held before that one
    by_cases hmiddle : P middle
    · obtain ⟨earlier, next, hearlier, hnext, hmore, hbegins⟩ := ih hmiddle
      exact ⟨earlier, next, hearlier, hnext, hmore.tail hturn, hbegins⟩
    · exact ⟨middle, later, hserves, hturn, .refl, hmiddle, hlater⟩

theorem exists_event {events : List Event} (hstart : ¬ P state)
    (hend : P (engine.run state events)) :
    ∃ earlier event later, events = earlier ++ event :: later ∧
      ¬ P (engine.run state earlier) ∧ P (engine.after (engine.run state earlier) event) := by
  induction events generalizing state with
  | nil => exact absurd hend hstart
  | cons event events ih =>
    by_cases hafter : P (engine.after state event)
    · exact ⟨[], event, events, rfl, hstart, hafter⟩
    · obtain ⟨earlier, other, later, rfl, hbefore, hother⟩ := ih hafter hend
      exact ⟨event :: earlier, other, later, rfl, hbefore, hother⟩

end Events

end StyleConstants.Engine
