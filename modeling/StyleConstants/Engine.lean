import StyleConstants.Cache
import StyleConstants.Closure
import StyleConstants.Probe.Query

/-!
# The engine

An engine answers two requests about a stylesheet: for the values of all variables that it or its
imports declare, and for the values of some variables by the names under which they are handed out.
Every answer is the whole cache entry of the file. Only names without a known value are asked for,
and a file of which all values are known is not searched again.

A request takes a state to an answer and a new state. The state keeps the files that can be seen,
the cache, and what was done so far: the files read and the requests made to the compiler.
-/

namespace StyleConstants

/-- What stays the same during the life of an engine. -/
structure Engine where
  cases : Naming
  probe : Probe
  token : MarkerToken

namespace Engine

/-- What an engine knows and has done. -/
structure State where
  files : FileSystem
  cache : Cache
  /-- The paths under which files were read, the oldest first. -/
  reads : List Path
  /-- The requests made to the compiler, the oldest first. -/
  renders : List RenderRequest

/-- An engine that has done nothing. -/
def State.fresh (files : FileSystem) : State := ⟨files, .empty, [], []⟩

/-- The file that a path means and its name in the cache. -/
def State.locate (state : State) (path : Path) : Except Failure (Path × Path) :=
  match Source.resolve state.files.isFile path with
  | .ok source => .ok (source.path, state.files.canonical source.path)
  | .error fault => .error fault

/-- The cache entry of the file that a path means, if the path means one that has an entry. -/
def State.cached (state : State) (path : Path) : Option Values :=
  match state.locate path with
  | .ok (_, key) => state.cache.get? key
  | .error _ => none

/-- The answer with the whole entry of a file, which has one from then on. -/
def State.answer (state : State) (key : Path) : Except Failure Values × State :=
  (.ok (state.cache.known key), { state with cache := state.cache.touch key })

/-- Asks for the values of variables by their declared names. -/
def ask (engine : Engine) (state : State) (target : Path) (names : List String) :
    Except Failure Values × State :=
  let set := MarkerSet.ofNames engine.token names
  let (answer, made) := engine.probe.ask state.renders target set engine.cases.toOutput
  (answer, { state with renders := state.renders ++ made })

/-- The declared names whose handed-out form has no known value. -/
def unresolved (engine : Engine) (known : Values) (names : NameSet) : List String :=
  names.toList.filter fun name => !known.contains (engine.cases.toOutput.apply name)

/-- Searches for the names that a file and its imports declare. -/
def State.declaredNames (state : State) (target : Path) : Except Failure NameSet × State :=
  match state.files.search target with
  | (found, fault) =>
    let state := { state with reads := state.reads ++ found.read.reverse }
    match fault with
    | some fault => (.error fault, state)
    | none => (.ok found.names, state)

/-- The values of all variables of a file and its imports. -/
def allValues (engine : Engine) (state : State) (path : Path) :
    Except Failure Values × State :=
  match state.locate path with
  | .error fault => (.error fault, state)
  | .ok (target, key) =>
    if state.cache.isComplete key then state.answer key
    else
      match state.declaredNames target with
      | (.error fault, state) => (.error fault, state)
      | (.ok names, state) =>
        match engine.ask state target (engine.unresolved (state.cache.known key) names) with
        | (.error fault, state) => (.error fault, state)
        | (.ok resolved, state) =>
          let cache := (state.cache.merge key resolved).markComplete key
          { state with cache := cache }.answer key

/-- The values of variables of a file by the names under which they are handed out, among all that
are known of the file. -/
def namedValues (engine : Engine) (state : State) (path : Path) (names : List String) :
    Except Failure Values × State :=
  match state.locate path with
  | .error fault => (.error fault, state)
  | .ok (target, key) =>
    let missing := state.cache.missing key names
    if missing.isEmpty then state.answer key
    else
      let declared := engine.cases.toDeclared.apply
      let invalid := missing.filter fun name =>
        !Stylesheet.isVariableName (declared name).toList
      if invalid.isEmpty then
        match engine.ask state target (missing.map declared) with
        | (.error fault, state) => (.error fault, state)
        | (.ok resolved, state) =>
          let state := { state with cache := state.cache.merge key resolved }
          let unmatched := state.cache.missing key missing
          if unmatched.isEmpty then state.answer key
          else (.error (.caseMismatch unmatched), state)
      else (.error (.caseMismatch invalid), state)

end Engine

end StyleConstants
