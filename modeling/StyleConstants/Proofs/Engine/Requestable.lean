import StyleConstants.Proofs.Engine.Economy
import StyleConstants.Proofs.Engine.Mismatch
import StyleConstants.Proofs.Stylesheet.Declared

/-!
# What can be declared can be requested

Requests are checked by the pattern for names of variables, and searches find what the scanners
take for names. The two agree on every text. So an engine that converts no names refuses none that a
search has found: it submits them, and fails at most for other reasons.

* `KeepsNames`: an engine that converts no names.
* `KeepsNames.renders_namedValues`, `KeepsNames.namedValues_ne_caseMismatch`: what becomes of a
  request for names of variables.
* `declarable_iff_requestable`: declared, found and requested names are the same.
-/

namespace StyleConstants

open Stylesheet

/-- A path that leads to no file is no matter of names. -/
theorem Source.resolve_ne_caseMismatch {isFile : Path → Bool} {path : Path}
    {culprits : List String} : Source.resolve isFile path ≠ .error (.caseMismatch culprits) := by
  unfold Source.resolve Source.candidates
  cases path.extension? with
  | none =>
    dsimp only
    split <;> exact fun h => nomatch h
  | some extension =>
    dsimp only
    cases Dialect.ofExtension? extension with
    | none => exact fun h => nomatch h
    | some dialect =>
      dsimp only
      split <;> exact fun h => nomatch h

namespace Engine

variable {engine : Engine} {state : State} {path target key : Path} {names : List String}

theorem State.locate_ne_caseMismatch {culprits : List String} :
    state.locate path ≠ .error (.caseMismatch culprits) := by
  unfold State.locate
  split
  · exact fun h => nomatch h
  · rename_i fault hfault
    intro h
    obtain rfl := Except.error.inj h
    exact Source.resolve_ne_caseMismatch hfault

/-- An engine that asks for names and hands them out as they are declared. -/
structure KeepsNames (engine : Engine) : Prop where
  toDeclared : ∀ name, engine.cases.toDeclared.apply name = name
  toOutput : ∀ name, engine.cases.toOutput.apply name = name

namespace KeepsNames

variable (h : engine.KeepsNames) (hnames : ∀ name ∈ names, isVariableName name.toList = true)

include h

theorem map_toDeclared (names : List String) : names.map engine.cases.toDeclared.apply = names :=
  (List.map_congr_left fun name _ => h.toDeclared name).trans (List.map_id _)

include hnames

theorem invalid_missing (cache : Cache) (key : Path) :
    engine.invalid (cache.missing key names) = [] := by
  refine invalid_eq_nil_iff.2 fun name hname => ?_
  rw [h.toDeclared]
  exact hnames name (Cache.mem_missing.1 hname).1

/-- A request for names of variables submits those without a value. -/
theorem renders_namedValues (hlocate : state.locate path = .ok (target, key)) :
    let absent := (names.filter fun name => name ∉ state.cache.known key).eraseDups
    (engine.namedValues state path names).2.renders = state.renders ++
      if absent = [] then [] else [engine.probe.request target ⟨engine.token, absent⟩] := by
  intro absent
  have hmissing : state.cache.missing key names = absent := missing_eq state.cache key names
  rw [Engine.renders_namedValues hlocate, if_pos (h.invalid_missing hnames _ _), h.map_toDeclared,
    hmissing, submission_of_nodup (nodup_eraseDups _)]

/-- A request for names of variables is not refused for these names. -/
theorem namedValues_ne_caseMismatch (hreader : engine.probe.reader = .declarations)
    (culprits : List String) :
    (engine.namedValues state path names).1 ≠ .error (.caseMismatch culprits) := by
  cases hlocate : state.locate path with
  | error fault =>
    rw [namedValues_of_unlocated hlocate]
    intro hfault
    obtain rfl := Except.error.inj hfault
    exact State.locate_ne_caseMismatch hlocate
  | ok place =>
    obtain ⟨target, key⟩ := place
    have hvalid := h.invalid_missing hnames state.cache key
    cases hresolved : engine.resolved state.renders target
        ((state.cache.missing key names).map engine.cases.toDeclared.apply) with
    | error fault =>
      refine namedValues_of_unanswered hlocate hvalid hreader (fun _ => ?_) culprits
      rintro ⟨values, hvalues⟩
      cases hresolved.symm.trans hvalues
    | ok values =>
      have hlost : ((state.cache.missing key names).filter fun name =>
          name ∉ (state.cache.missing key names).map fun wanted =>
            engine.cases.toOutput.apply (engine.cases.toDeclared.apply wanted)) = [] := by
        refine List.filter_eq_nil_iff.2 fun name hname => ?_
        rw [decide_eq_true_iff, not_not]
        exact List.mem_map.2 ⟨name, hname, by rw [h.toDeclared, h.toOutput]⟩
      obtain ⟨answer, hanswer⟩ :=
        (namedValues_of_resolved hlocate hvalid hreader hresolved).1 hlost
      rw [hanswer]
      exact fun hfault => nomatch hfault

end KeepsNames

/-- **What can be declared is what can be requested.** A text passes the check on requested names
exactly if it has the form of a name, and exactly if a sheet in either dialect declares a variable
of this name and holds nothing else. All variables of a sheet that is read have such names. An
engine that converts no names therefore submits, of the names that searches have found, all that
have no value yet, and does not refuse a request for them. -/
theorem declarable_iff_requestable :
    (∀ name : String,
      (isVariableName name.toList = true ↔ ∃ hyphen first rest,
        name.toList = hyphen ++ first :: rest ∧ (hyphen = [] ∨ hyphen = ['-']) ∧
          isNameStart first = true ∧ ∀ c ∈ rest, isNameChar c = true) ∧
      (Declares .braced ("$" ++ name ++ ": 1;").toList name ↔
        isVariableName name.toList = true) ∧
      (Declares .indented ("$" ++ name ++ ": 1").toList name ↔
        isVariableName name.toList = true)) ∧
    (∀ dialect source sheet, parse dialect source = .ok sheet →
      ∀ name ∈ sheet.variableNames, isVariableName name.toList = true) ∧
    ∀ (engine : Engine) (state : State) (path : Path) (names : List String), engine.KeepsNames →
      (∀ name ∈ names, ∃ (files : FileSystem) (entry : Path) (found : NameSet),
        files.declaredNames entry = .ok found ∧ name ∈ found) →
      (∀ target key, state.locate path = .ok (target, key) →
        let absent := (names.filter fun name => name ∉ state.cache.known key).eraseDups
        (engine.namedValues state path names).2.renders = state.renders ++
          if absent = [] then [] else [engine.probe.request target ⟨engine.token, absent⟩]) ∧
      (engine.probe.reader = .declarations → ∀ culprits,
        (engine.namedValues state path names).1 ≠ .error (.caseMismatch culprits)) := by
  refine ⟨fun name => ⟨isVariableName_iff_pattern, declares_braced_iff name,
    declares_indented_iff name⟩, ?_, ?_⟩
  · intro dialect source sheet hsheet name hname
    exact isVariableName_of_mem_variableNames hsheet hname
  · intro engine state path names hkeeps hfound
    have hnames : ∀ name ∈ names, isVariableName name.toList = true := by
      intro name hname
      obtain ⟨files, entry, found, hdeclared, hmem⟩ := hfound name hname
      exact FileSystem.isVariableName_of_mem_declaredNames hdeclared hmem
    exact ⟨fun target key hlocate => hkeeps.renders_namedValues hnames hlocate,
      hkeeps.namedValues_ne_caseMismatch hnames⟩

end Engine

end StyleConstants
