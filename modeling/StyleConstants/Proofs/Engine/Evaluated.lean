import Mathlib.Data.Set.Function
import StyleConstants.Proofs.Engine.Submission
import StyleConstants.Proofs.Probe.Answered

/-!
# Values of declared variables

A compiler that knows some variables of a file and a reader that understands it give the values of
all variables that are asked for, or none. What is put into the cache then lists these variables.
Where no two names are handed out as one, such lists can be joined, and the names listed can be
told from them.

* `Evaluates`: what the compiler and the reader do together.
* `Lists.union`: values of further variables are added without a conflict.
* `exists_resolved`, `exists_resolved_error`: what asking comes to.
-/

namespace StyleConstants.Engine

open Stylesheet

/-- Asked for variables of the file `key`, the compiler and the reader give the values of all of
them if all are declared, and nothing otherwise. -/
def Evaluates (engine : Engine) (files : FileSystem) (key : Path) (declared : Set String)
    (value : String → String) : Prop :=
  ∀ earlier target names, (files.canonical target).sameAs key = true → names ≠ [] →
    (∀ name ∈ names, isVariableName name.toList = true) →
    ((∀ name ∈ names, name ∈ declared) → ∃ values,
      engine.evaluate earlier target names = .ok values ∧
        ∀ name found : String, values[name]? = some found ↔ name ∈ names ∧ value name = found) ∧
    ((∃ name ∈ names, name ∉ declared) → ∃ fault,
      engine.evaluate earlier target names = .error fault)

/-- These are the values of the variables with these names, under the names handed out. -/
def Lists (engine : Engine) (value : String → String) (known : Values) (names : Set String) :
    Prop :=
  ∀ output found : String, known[output]? = some found ↔
    ∃ name ∈ names, engine.cases.toOutput.apply name = output ∧ value name = found

variable {engine : Engine} {files : FileSystem} {key target : Path} {declared scope : Set String}
  {value : String → String} {known values : Values}

/-! ## Listed values -/

section Lists

variable (hinjective : Set.InjOn engine.cases.toOutput.apply scope) {a b : Set String}

include hinjective

theorem Lists.apply_mem_iff (h : engine.Lists value known a) (ha : a ⊆ scope) {name : String}
    (hname : name ∈ scope) : engine.cases.toOutput.apply name ∈ known ↔ name ∈ a := by
  rw [Values.mem_iff]
  constructor
  · rintro ⟨found, hfound⟩
    obtain ⟨other, hother, hsame, -⟩ := (h _ _).1 hfound
    rwa [← hinjective (ha hother) hname hsame]
  · intro hmem
    exact ⟨value name, (h _ _).2 ⟨name, hmem, rfl, rfl⟩⟩

theorem Lists.union (hknown : engine.Lists value known a) (hvalues : engine.Lists value values b)
    (ha : a ⊆ scope) (hb : b ⊆ scope) (hnew : ∀ name ∈ b, name ∉ a) :
    engine.Lists value (values ∪ known) (a ∪ b) := by
  intro output found
  rw [Std.ExtTreeMap.getElem?_union, Option.or_eq_some_iff]
  constructor
  · rintro (hold | ⟨-, hnew⟩)
    · obtain ⟨name, hname, hrest⟩ := (hknown _ _).1 hold
      exact ⟨name, .inl hname, hrest⟩
    · obtain ⟨name, hname, hrest⟩ := (hvalues _ _).1 hnew
      exact ⟨name, .inr hname, hrest⟩
  · rintro ⟨name, hname | hname, rfl, rfl⟩
    · exact .inl ((hknown _ _).2 ⟨name, hname, rfl, rfl⟩)
    · refine .inr ⟨?_, (hvalues _ _).2 ⟨name, hname, rfl, rfl⟩⟩
      have hunknown := (hknown.apply_mem_iff hinjective ha (hb hname)).not.2 (hnew name hname)
      exact Std.ExtTreeMap.getElem?_eq_none hunknown

theorem exists_resolved (hevaluates : engine.Evaluates files key declared value)
    (htarget : (files.canonical target).sameAs key = true) {names : List String}
    (hscope : ∀ name ∈ names, name ∈ scope) (hdeclared : ∀ name ∈ names, name ∈ declared)
    (hvalid : ∀ name ∈ names, isVariableName name.toList = true) (earlier : List RenderRequest) :
    ∃ values, engine.resolved earlier target names = .ok values ∧
      engine.Lists value values {name | name ∈ names} := by
  by_cases hnone : names = []
  · refine ⟨∅, by rw [resolved, if_pos hnone], fun output found => ?_⟩
    simp [hnone]
  · obtain ⟨values, hvalues, hiff⟩ :=
      (hevaluates earlier target names htarget hnone hvalid).1 hdeclared
    have hmem : ∀ name ∈ values, name ∈ scope := by
      intro name hname
      obtain ⟨found, hfound⟩ := Values.mem_iff.1 hname
      exact hscope name ((hiff _ _).1 hfound).1
    refine ⟨values.renamed engine.cases.toOutput, ?_, fun output found => ?_⟩
    · rw [resolved, if_neg hnone, hvalues]
      rfl
    · rw [Values.getElem?_renamed fun a ha b hb => hinjective (hmem a ha) (hmem b hb)]
      refine exists_congr fun name => ?_
      rw [hiff]
      exact and_left_comm

end Lists

theorem exists_resolved_error (hevaluates : engine.Evaluates files key declared value)
    (htarget : (files.canonical target).sameAs key = true) {names : List String}
    (hundeclared : ∃ name ∈ names, name ∉ declared)
    (hvalid : ∀ name ∈ names, isVariableName name.toList = true) (earlier : List RenderRequest) :
    ∃ fault, engine.resolved earlier target names = .error fault := by
  have hnames : names ≠ [] := by
    obtain ⟨name, hname, -⟩ := hundeclared
    exact List.ne_nil_of_mem hname
  obtain ⟨fault, hfault⟩ := (hevaluates earlier target names htarget hnames hvalid).2 hundeclared
  refine ⟨fault, ?_⟩
  rw [resolved, if_neg hnames, hfault]
  rfl

end StyleConstants.Engine
