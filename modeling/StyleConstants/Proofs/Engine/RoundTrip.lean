import StyleConstants.Proofs.Case.Inverse
import StyleConstants.Proofs.Engine.Ascribed
import StyleConstants.Proofs.Engine.Economy
import StyleConstants.Proofs.Engine.Failed
import StyleConstants.Proofs.Engine.Mismatch

/-!
# Handed out and asked for again

A name that is handed out in another form can be asked for in that form, also of an engine that
knows nothing yet, if the form is converted back to the name. Names in small letters with hyphens
that are handed out as constants are converted back unless a letter follows a digit in them.

* `ComesBack`: a name whose handed-out form is converted back to it.
* `ComesBack.renders_fresh`, `ComesBack.ne_caseMismatch_fresh`, `ComesBack.getElem?_fresh`: what an
  engine that knows nothing makes of a request for it.
* `constants_lead_back`: the names that come back as constants, and what becomes of them.
-/

namespace StyleConstants.Engine

open Stylesheet

variable {engine : Engine} {files : FileSystem} {path target key : Path} {name : String}

/-! ## A request to an engine that knows nothing -/

/-- A name of a variable that is handed out in a form that is converted back to it. -/
structure ComesBack (engine : Engine) (name : String) : Prop where
  declared : engine.cases.toDeclared.apply (engine.cases.toOutput.apply name) = name
  valid : isVariableName name.toList = true

theorem missing_fresh (files : FileSystem) (key : Path) (name : String) :
    (State.fresh files).cache.missing key [name] = [name] := by
  have hknown : (State.fresh files).cache.known key = ∅ := rfl
  simp [missing_eq, hknown, List.eraseDups_cons]

namespace ComesBack

variable (h : engine.ComesBack name)

include h

theorem map_missing_fresh (files : FileSystem) (key : Path) :
    ((State.fresh files).cache.missing key [engine.cases.toOutput.apply name]).map
      engine.cases.toDeclared.apply = [name] := by
  rw [missing_fresh, List.map_singleton, h.declared]

theorem invalid_missing_fresh (files : FileSystem) (key : Path) :
    engine.invalid ((State.fresh files).cache.missing key [engine.cases.toOutput.apply name]) =
      [] := by
  refine invalid_eq_nil_iff.2 fun output houtput => ?_
  rw [missing_fresh, List.mem_singleton] at houtput
  rw [houtput, h.declared]
  exact h.valid

variable (hlocate : (State.fresh files).locate path = .ok (target, key))

include hlocate

/-- Asked for a name in its handed-out form, an engine submits the name alone. -/
theorem renders_fresh :
    (engine.namedValues (.fresh files) path [engine.cases.toOutput.apply name]).2.renders =
      [engine.probe.request target ⟨engine.token, [name]⟩] := by
  rw [renders_namedValues hlocate, if_pos (h.invalid_missing_fresh files key),
    h.map_missing_fresh, submission_of_nodup (List.nodup_cons.2 ⟨List.not_mem_nil, .nil⟩)]
  rfl

variable (hreader : engine.probe.reader = .declarations)

include hreader

theorem fst_namedValues_fresh {values : Values}
    (hvalues : engine.resolved [] target [name] = .ok values) :
    (engine.namedValues (.fresh files) path [engine.cases.toOutput.apply name]).1 =
      .ok ((Cache.empty.merge key values).known key) := by
  have hmap := h.map_missing_fresh files key
  have hmissing := missing_fresh files key (engine.cases.toOutput.apply name)
  rw [← hmap] at hvalues
  have hlost := missing_merge_resolved hreader hvalues
  rw [hmissing] at hlost
  rw [namedValues_eq hlocate]
  dsimp only
  rw [if_neg (by simp [hmissing]), if_pos (h.invalid_missing_fresh files key),
    show (State.fresh files).renders = [] from rfl, hvalues]
  dsimp only
  rw [hmissing, hlost, if_pos (by simp [h.declared])]
  rfl

/-- A name is not refused in its handed-out form. -/
theorem ne_caseMismatch_fresh (culprits : List String) :
    (engine.namedValues (.fresh files) path [engine.cases.toOutput.apply name]).1 ≠
      .error (.caseMismatch culprits) := by
  cases hresolved : engine.resolved [] target [name] with
  | ok values =>
    rw [h.fst_namedValues_fresh hlocate hreader hresolved]
    exact fun hfault => nomatch hfault
  | error fault =>
    refine namedValues_of_unanswered hlocate (h.invalid_missing_fresh files key) hreader ?_ culprits
    rw [h.map_missing_fresh]
    rintro - ⟨values, hvalues⟩
    cases hresolved.symm.trans hvalues

/-- If the compiler answers with a value of the name, it is the value of the handed-out form. -/
theorem getElem?_fresh {rendered : String} {read : Values}
    (hrendered : engine.probe.renderer [] (engine.probe.request target ⟨engine.token, [name]⟩) =
      .ok rendered)
    (hread : (MarkerSet.mk engine.token [name]).readBack rendered = .ok read) :
    ∃ answer value, (engine.namedValues (.fresh files) path
        [engine.cases.toOutput.apply name]).1 = .ok answer ∧
      read[name]? = some value ∧ answer[engine.cases.toOutput.apply name]? = some value := by
  have hset : MarkerSet.ofNames engine.token [name] = ⟨engine.token, [name]⟩ := by
    rw [MarkerSet.ofNames, eraseDups_of_nodup (List.nodup_cons.2 ⟨List.not_mem_nil, .nil⟩)]
  have hvalues : engine.resolved [] target [name] = .ok (read.renamed engine.cases.toOutput) := by
    rw [resolved_eq hreader (List.cons_ne_nil name []), hset, hrendered]
    dsimp only
    rw [hread]
  obtain ⟨value, hvalue⟩ := Values.mem_iff.1 (MarkerSet.mem_readBack hread List.mem_cons_self)
  -- the name is the only one that was read, so no other is handed out in its form
  have hinjective : ∀ a ∈ read, ∀ b ∈ read,
      engine.cases.toOutput.apply a = engine.cases.toOutput.apply b → a = b := by
    intro a ha b hb _
    rw [MarkerSet.mem_readBack_iff hread, List.mem_singleton] at ha hb
    rw [ha, hb]
  refine ⟨_, value, h.fst_namedValues_fresh hlocate hreader hvalues, hvalue, ?_⟩
  rw [Cache.getElem?_known_merge_self, Values.getElem?_renamed_apply hinjective hvalue]
  rfl

end ComesBack

/-! ## Names and constants -/

theorem Marked.isVariableName {events : List Event} {names : NameSet}
    (h : engine.Marked files events key names) (hname : name ∈ names) :
    isVariableName name.toList = true := by
  obtain ⟨_, _, _, -, hcompletes⟩ := h
  obtain ⟨_, -, _, _, -, -, hnames⟩ := hcompletes.searched
  exact FileSystem.isVariableName_of_mem_declaredNames hnames hname

open CaseStyle

/-- **Names that are found again as constants.** Take words of small letters and digits. The name
with hyphens between them becomes a constant that is converted back to it exactly if in each word
there is no letter behind a digit. An engine that finds such a name and hands it out as a constant
can be asked for the constant: an engine that knows nothing yet submits the name, does not refuse
the constant, and gives it the value that it reads for the name. -/
theorem constants_lead_back :
    (∀ ws : List (List Char), ws ≠ [] → (∀ word ∈ ws, IsSmallWord word) →
      (param.convert (constant.convert (paramName ws)) = paramName ws ↔
        ∀ word ∈ ws, DigitsLast word)) ∧
    ∀ (renderer : Renderer) (loadPaths : List Path) (token : MarkerToken) (files : FileSystem)
      (events : List Event) (path target key : Path) (values : Values) (found : NameSet),
      let engine : Engine :=
        ⟨⟨.style param, .style constant⟩, ⟨renderer, .declarations, loadPaths⟩, token⟩
      let state := engine.run (.fresh files) events
      state.locate path = .ok (target, key) → (engine.allValues state path).1 = .ok values →
      engine.Marked files (events ++ [.request (.all path)]) key found →
      ∀ ws : List (List Char), ws ≠ [] → (∀ word ∈ ws, IsSmallWord word) →
        (∀ word ∈ ws, DigitsLast word) → paramName ws ∈ found →
        let name := paramName ws
        let output := constant.convert name
        let request := engine.probe.request target ⟨token, [name]⟩
        let result := engine.namedValues (.fresh state.files) path [output]
        output ∈ values ∧ param.convert output = name ∧ result.2.renders = [request] ∧
        (∀ culprits, result.1 ≠ .error (.caseMismatch culprits)) ∧
        ∀ rendered read, renderer [] request = .ok rendered →
          (MarkerSet.mk token [name]).readBack rendered = .ok read →
          ∃ answer value, result.1 = .ok answer ∧ read[name]? = some value ∧
            answer[output]? = some value := by
  refine ⟨fun ws hne hsmall => convert_constant_iff hne hsmall, ?_⟩
  intro renderer loadPaths token files events path target key values found engine state hlocate
    hvalues hmarked ws hne hsmall hdigits hfound name output request result
  have hreader : engine.probe.reader = .declarations := rfl
  have hback : param.convert output = name := (convert_constant_iff hne hsmall).2 hdigits
  have hcomes : engine.ComesBack name := ⟨hback, hmarked.isVariableName hfound⟩
  have hfresh : (State.fresh state.files).locate path = .ok (target, key) :=
    (locate_eq_of_files_eq rfl path).trans hlocate
  have hsame : key.sameAs key = true := Path.sameAs_iff.2 rfl
  exact ⟨hmarked.mem_values hreader hlocate hsame hvalues hfound, hback,
    hcomes.renders_fresh hfresh, hcomes.ne_caseMismatch_fresh hfresh hreader,
    fun rendered read hrendered hread => hcomes.getElem?_fresh hfresh hreader hrendered hread⟩

theorem constants_lead_back_twin :
    let engine := twinEngine ⟨.style param, .style constant⟩
    let state := State.fresh twinTree.fileSystem
    (∃ values, (engine.allValues state twinPath).1 = .ok values ∧ "MY_VAR" ∈ values) ∧
      param.convert "MY_VAR" = "my-var" ∧
      ∃ answer, (engine.namedValues state twinPath ["MY_VAR"]).1 = .ok answer ∧
        answer["MY_VAR"]? = some "1" := by
  intro engine state
  have hlocate : state.locate twinPath = .ok (twinPath, twinPath) := rfl
  obtain ⟨found, hfound, hiff, values, hvalues⟩ :=
    exists_allValues_twinEngine ⟨.style param, .style constant⟩
  have hmarked : engine.Marked twinTree.fileSystem ([] ++ [.request (.all twinPath)])
      twinPath found := by
    refine ⟨[], _, [], rfl, Bool.false_ne_true, isComplete_of_allValues_eq_ok hlocate hvalues,
      twinPath, rfl, _, _, hlocate, by decide, hfound⟩
  have hsmall : ∀ word ∈ ["my".toList, "var".toList], IsSmallWord word := by
    simp only [List.forall_mem_cons]
    exact ⟨⟨by simp, by simp⟩, ⟨by simp, by simp⟩, by simp⟩
  have hdigits : ∀ word ∈ ["my".toList, "var".toList], DigitsLast word := by
    simp [DigitsLast]
  have hname : paramName ["my".toList, "var".toList] = "my-var" := rfl
  have houtput : constant.convert "my-var" = "MY_VAR" := by decide
  obtain ⟨-, hall⟩ := constants_lead_back
  obtain ⟨hmem, hback, -, -, hanswer⟩ := hall engine.probe.renderer [] ⟨"0f"⟩ twinTree.fileSystem []
    twinPath twinPath twinPath values found hlocate hvalues hmarked
    ["my".toList, "var".toList] (by simp) hsmall hdigits ((hiff "my-var").2 (.inl rfl))
  rw [hname, houtput] at hmem hback hanswer
  have hread : ∃ read, (MarkerSet.mk ⟨"0f"⟩ ["my-var"]).readBack twinText = .ok read := ⟨_, rfl⟩
  obtain ⟨read, hread⟩ := hread
  obtain ⟨answer, value, hok, hvalue, hgiven⟩ := hanswer twinText read rfl hread
  have hone := (MarkerSet.of_readBack_eq_ok hread hvalue).2
  obtain rfl : "1" = value := Except.ok.inj hone
  exact ⟨⟨values, hvalues, hmem⟩, hback, answer, hok, hgiven⟩

/-- Not every name in small letters comes back: in capitals a letter behind a digit starts a
word. -/
theorem constant_divides_words : ¬ ∀ ws : List (List Char), ws ≠ [] →
    (∀ word ∈ ws, ∃ c rest, word = c :: rest ∧ c.isLower = true ∧
      ∀ d ∈ rest, d.isLower = true ∨ d.isDigit = true) →
    param.convert (constant.convert (paramName ws)) = paramName ws := by
  intro h
  have hback := h ["a1b".toList] (by simp) (by simp)
  have hdivided : param.convert (constant.convert (paramName ["a1b".toList])) = "a1-b" := by decide
  rw [hdivided] at hback
  exact absurd hback (by decide)

end StyleConstants.Engine
