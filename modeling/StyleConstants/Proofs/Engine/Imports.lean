import Mathlib.Data.List.Forall2
import StyleConstants.Proofs.Engine.Growth

/-!
# The requests of an import

An import of a stylesheet makes at most two requests: one for all values, if there is a default
import, and then one for the names imported, if there are any. It fails where one of them fails and
not otherwise: the answer to a request for names has a value for each of them.

* `Takes`, `forall₂_of_bindNamed`: what the named imports are bound to.
* `exists_bindNamed_of_answered`: once a request for names is answered, all of them can be bound.
* `importConstants_eq_ok`, `importConstants_eq_error`: how an import goes on.
-/

namespace StyleConstants.Engine

variable {engine : Engine} {state middle later : State} {importer target : Path}
  {request : ImportRequest} {binding : Option String} {named : List NamedImport} {values : Values}
  {constants defaults : List ConstBinding} {fault : Failure}

/-! ## Named imports -/

/-- The constant is bound to the value of the name imported. -/
def Takes (values : Values) (wanted : NamedImport) (constant : ConstBinding) : Prop :=
  ∃ value, values[wanted.imported]? = some value ∧ constant = ⟨wanted.localName, .value value⟩

theorem forall₂_of_bindNamed (h : bindNamed values named = .ok constants) :
    List.Forall₂ (Takes values) named constants := by
  induction named generalizing constants with
  | nil =>
    cases h
    exact .nil
  | cons wanted named ih =>
    rw [bindNamed] at h
    split at h
    · cases h
    · rename_i value hvalue
      split at h
      · cases h
      · rename_i rest hrest
        cases h
        exact .cons ⟨value, hvalue, rfl⟩ (ih hrest)

/-- Names that all have a value are bound to it. -/
theorem bindNamed_eq_ok (h : ∀ wanted ∈ named, wanted.imported ∈ values) :
    ∃ constants, bindNamed values named = .ok constants := by
  induction named with
  | nil => exact ⟨[], rfl⟩
  | cons wanted named ih =>
    obtain ⟨value, hvalue⟩ := Values.mem_iff.1 (h wanted List.mem_cons_self)
    obtain ⟨constants, hconstants⟩ := ih fun other hother => h other (List.mem_cons_of_mem _ hother)
    exact ⟨_, by rw [bindNamed, hvalue]; dsimp only; rw [hconstants]⟩

theorem exists_bindNamed_of_answered
    (h : (engine.namedValues state target (named.map (·.imported))).1 = .ok values) :
    ∃ constants, bindNamed values named = .ok constants :=
  bindNamed_eq_ok fun wanted hwanted =>
    mem_of_namedValues_eq_ok h (List.mem_map.2 ⟨wanted, hwanted, rfl⟩)

theorem namedConstants_eq_ok
    (h : engine.namedConstants state target named = (.ok constants, later)) :
    (named = [] ∧ constants = []) ∨
      ∃ values, engine.namedValues state target (named.map (·.imported)) = (.ok values, later) ∧
        bindNamed values named = .ok constants := by
  rw [namedConstants] at h
  split at h
  · rename_i hnone
    cases h
    exact .inl ⟨List.isEmpty_iff.1 hnone, rfl⟩
  · split at h <;> rename_i hvalues
    · cases h
    · obtain ⟨hconstants, rfl⟩ := Prod.mk.inj h
      exact .inr ⟨_, hvalues, hconstants⟩

/-- An import fails in its named imports only if the request for these names fails. -/
theorem namedConstants_eq_error
    (h : engine.namedConstants state target named = (.error fault, later)) :
    engine.namedValues state target (named.map (·.imported)) = (.error fault, later) := by
  rw [namedConstants] at h
  split at h
  · cases h
  · split at h <;> rename_i hvalues
    · cases h
      exact hvalues
    · obtain ⟨constants, hconstants⟩ := exists_bindNamed_of_answered (congrArg Prod.fst hvalues)
      rw [hconstants] at h
      cases h

/-! ## Default imports -/

theorem defaultConstants_eq_ok
    (h : engine.defaultConstants state target binding = (.ok defaults, later)) :
    (binding = none ∧ defaults = [] ∧ later = state) ∨
      ∃ name object, binding = some name ∧ defaults = [⟨name, .object object⟩] ∧
        engine.allValues state target = (.ok object, later) := by
  cases binding with
  | none =>
    cases h
    exact .inl ⟨rfl, rfl, rfl⟩
  | some name =>
    rw [defaultConstants] at h
    split at h <;> rename_i hvalues
    · cases h
    · cases h
      exact .inr ⟨name, _, rfl, rfl, hvalues⟩

theorem defaultConstants_eq_error
    (h : engine.defaultConstants state target binding = (.error fault, later)) :
    binding.isSome = true ∧ engine.allValues state target = (.error fault, later) := by
  cases binding with
  | none => cases h
  | some name =>
    rw [defaultConstants] at h
    split at h <;> rename_i hvalues
    · cases h
      exact ⟨rfl, hvalues⟩
    · cases h

/-- The state in which an import asks for its named imports: the one in which it started or, with a
default import, the one that the answered request for all values has led to. -/
def Begun (engine : Engine) (state : State) (target : Path) :
    Option String → State → Prop
  | none, middle => middle = state
  | some _, middle => ∃ values, engine.allValues state target = (.ok values, middle)

theorem begun_of_defaultConstants
    (h : engine.defaultConstants state target binding = (.ok defaults, middle)) :
    engine.Begun state target binding middle := by
  rcases defaultConstants_eq_ok h with ⟨rfl, -, rfl⟩ | ⟨name, object, rfl, -, hall⟩
  · rfl
  · exact ⟨object, hall⟩

/-! ## Imports -/

theorem importConstants_eq_ok {plan : Option (List ConstBinding)}
    (hrequest : isStylesheet request.specifier = true)
    (h : engine.importConstants state importer request = (.ok plan, later)) :
    ∃ defaults middle constants, plan = some (defaults ++ constants) ∧
      engine.defaultConstants state (importer.importTarget request.specifier)
        request.defaultBinding = (.ok defaults, middle) ∧
      engine.namedConstants middle (importer.importTarget request.specifier) request.named =
        (.ok constants, later) := by
  rw [importConstants, if_pos hrequest] at h
  dsimp only at h
  split at h <;> rename_i hdefaults
  · cases h
  · split at h <;> rename_i hnamed
    · cases h
    · cases h
      exact ⟨_, _, _, rfl, hdefaults, hnamed⟩

/-- The two ways in which an import fails. -/
theorem importConstants_eq_error
    (h : engine.importConstants state importer request = (.error fault, later)) :
    (request.defaultBinding.isSome = true ∧
      engine.allValues state (importer.importTarget request.specifier) = (.error fault, later)) ∨
    ∃ middle, engine.Begun state (importer.importTarget request.specifier) request.defaultBinding
        middle ∧
      engine.namedValues middle (importer.importTarget request.specifier)
        (request.named.map (·.imported)) = (.error fault, later) := by
  rw [importConstants] at h
  split at h
  · dsimp only at h
    split at h <;> rename_i hdefaults
    · cases h
      exact .inl (defaultConstants_eq_error hdefaults)
    · split at h <;> rename_i hnamed
      · cases h
        exact .inr ⟨_, begun_of_defaultConstants hdefaults, namedConstants_eq_error hnamed⟩
      · cases h
  · cases h

/-- An import has a plan if both of its requests are answered. -/
theorem exists_plan_of_answered (hrequest : isStylesheet request.specifier = true)
    (hdefaults : engine.defaultConstants state (importer.importTarget request.specifier)
      request.defaultBinding = (.ok defaults, middle))
    (hnamed : engine.namedValues middle (importer.importTarget request.specifier)
      (request.named.map (·.imported)) = (.ok values, later)) :
    ∃ plan last, engine.importConstants state importer request = (.ok plan, last) := by
  obtain ⟨constants, hconstants⟩ := exists_bindNamed_of_answered (congrArg Prod.fst hnamed)
  rw [importConstants, if_pos hrequest]
  dsimp only
  rw [hdefaults]
  dsimp only
  rw [namedConstants, hnamed]
  dsimp only
  rw [hconstants]
  by_cases hnone : request.named.isEmpty = true
  · exact ⟨_, _, by rw [if_pos hnone]⟩
  · exact ⟨_, _, by rw [if_neg hnone]⟩

end StyleConstants.Engine
