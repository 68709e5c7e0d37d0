import StyleConstants.Proofs.Engine.Ascribed
import StyleConstants.Proofs.Engine.Imports

/-!
# What an import is replaced by

The plan of an import has the object for the default import and then one constant for each name
imported. The object is made before the names are asked for, and that may add values to the entry of
the file. It keeps those that were known, though, so where the object knows a name, it agrees with
the constant of that name.

* `getElem?_namedValues_of_allValues`: the second request keeps what the first has given.
* `plan_is_complete`: what the plan consists of.
-/

namespace StyleConstants.Engine

variable {engine : Engine} {state middle later : State} {target : Path}

/-- The answer to a request for names is the entry that the file then has. -/
theorem cached_of_namedValues_eq_ok {names : List String} {values : Values}
    (h : engine.namedValues state target names = (.ok values, later)) :
    later.cached target = some values := by
  have hserve : engine.serve state (.named target names) = (.ok values, later) := h
  have hcached := cached_of_serve_eq_ok (congrArg Prod.fst hserve)
  rw [hserve] at hcached
  exact hcached

/-- What a request for all values has given is contained in the answer to a later one for names. -/
theorem getElem?_namedValues_of_allValues {object values : Values}
    (hall : engine.allValues state target = (.ok object, middle)) {names : List String}
    (hnamed : engine.namedValues middle target names = (.ok values, later)) {name value : String}
    (h : object[name]? = some value) : values[name]? = some value := by
  have hserve : engine.serve state (.all target) = (.ok object, middle) := hall
  have hserve' : engine.serve middle (.named target names) = (.ok values, later) := hnamed
  obtain ⟨_, key, hlocate, hknown⟩ := serve_eq_ok (congrArg Prod.fst hserve)
  obtain ⟨_, key', hlocate', hknown'⟩ := serve_eq_ok (congrArg Prod.fst hserve')
  have hfiles := (@effect_serve engine state (.all target)).files
  have hkeeps := (@effect_serve engine middle (.named target names)).keeps
  rw [hserve] at hknown hfiles
  rw [hserve'] at hknown' hkeeps
  cases hlocate.symm.trans ((locate_eq_of_files_eq hfiles target).symm.trans hlocate')
  rw [← hknown']
  exact hkeeps.known (hknown ▸ h)

/-- **A plan is complete.** The plan of an import of a stylesheet consists of the default object, if
there is a default import, and of one constant for each name imported, in the order of the import.
Such a constant has the value that the entry of the file then has for the name, and so has the
default object if it knows the name. Once the request for the names is answered, none of them lacks
a value. -/
theorem plan_is_complete (engine : Engine) (state : State) (importer : Path)
    {request : ImportRequest} (hrequest : isStylesheet request.specifier = true) :
    let target := importer.importTarget request.specifier
    (∀ plan later, engine.importConstants state importer request = (.ok plan, later) →
      ∃ defaults constants, plan = some (defaults ++ constants) ∧
        (request.defaultBinding = none → defaults = []) ∧
        (∀ name, request.defaultBinding = some name → ∃ object,
          defaults = [⟨name, .object object⟩] ∧
            (engine.allValues state target).1 = .ok object) ∧
        List.Forall₂ (fun wanted constant =>
          (∃ entry, later.cached target = some entry ∧ Takes entry wanted constant) ∧
            ∀ name object value, ⟨name, .object object⟩ ∈ defaults →
              object[wanted.imported]? = some value → constant.value = .value value)
          request.named constants) ∧
    ∀ defaults middle values,
      engine.defaultConstants state target request.defaultBinding = (.ok defaults, middle) →
      (engine.namedValues middle target (request.named.map (·.imported))).1 = .ok values →
        ∃ constants, bindNamed values request.named = .ok constants := by
  intro target
  refine ⟨?_, ?_⟩
  · intro plan later h
    obtain ⟨defaults, middle, constants, rfl, hdefaults, hconstants⟩ :=
      importConstants_eq_ok hrequest h
    have horigin := defaultConstants_eq_ok hdefaults
    refine ⟨defaults, constants, rfl, ?_, ?_, ?_⟩
    · intro hnone
      rcases horigin with ⟨-, hnil, -⟩ | ⟨name, _, hsome, -⟩
      · exact hnil
      · rw [hnone] at hsome
        cases hsome
    · intro name hname
      rcases horigin with ⟨hnone, -⟩ | ⟨name', object, hsome, hobject, hall⟩
      · rw [hname] at hnone
        cases hnone
      · cases hname.symm.trans hsome
        exact ⟨object, hobject, congrArg Prod.fst hall⟩
    · rcases namedConstants_eq_ok hconstants with ⟨hnone, rfl⟩ | ⟨entry, hnamed, hbound⟩
      · rw [hnone]
        exact .nil
      · have hcached : later.cached target = some entry := cached_of_namedValues_eq_ok hnamed
        refine (forall₂_of_bindNamed hbound).imp ?_
        rintro wanted constant ⟨value, hvalue, rfl⟩
        refine ⟨⟨entry, hcached, value, hvalue, rfl⟩, ?_⟩
        intro name object other hobject hother
        rcases horigin with ⟨-, rfl, -⟩ | ⟨name', object', -, rfl, hall⟩
        · cases hobject
        · obtain ⟨-, hsame⟩ := ConstBinding.mk.inj (List.mem_singleton.1 hobject)
          cases hsame
          have hkept := getElem?_namedValues_of_allValues hall hnamed hother
          rw [Option.some.inj (hvalue.symm.trans hkept)]
  · exact fun _ _ _ _ hvalues => exists_bindNamed_of_answered hvalues

/-- An import of all values and, twice, of one. -/
def twinRequest : ImportRequest :=
  ⟨"./a.scss", some "vars", [⟨"my-var", "first"⟩, ⟨"my-var", "again"⟩]⟩

theorem plan_is_complete_twin :
    isStylesheet twinRequest.specifier = true ∧ ∃ object value later,
      (twinEngine ⟨.identity, .identity⟩).importConstants (.fresh twinTree.fileSystem)
          (.ofText "/index.js") twinRequest =
        (.ok (some [⟨"vars", .object object⟩, ⟨"first", .value value⟩, ⟨"again", .value value⟩]),
          later) ∧
      object["my-var"]? = some value := by
  have hrequest : isStylesheet twinRequest.specifier = true := by decide +kernel
  have htarget : (Path.ofText "/index.js").importTarget twinRequest.specifier = twinPath := by
    decide +kernel
  obtain ⟨-, -, -, object, hobject⟩ := exists_allValues_twinEngine ⟨.identity, .identity⟩
  have hall : (twinEngine ⟨.identity, .identity⟩).allValues (.fresh twinTree.fileSystem)
      twinPath = (.ok object, twinState ⟨.identity, .identity⟩) := Prod.ext hobject rfl
  have hmem : "my-var" ∈ (twinState ⟨.identity, .identity⟩).cache.known twinPath :=
    mem_known_twinState ⟨.identity, .identity⟩ (.inl rfl)
  have hanswered := @namedValues_of_known (twinEngine ⟨.identity, .identity⟩) _ _ _ _
    (twinRequest.named.map (·.imported)) (locate_twinState _) (by simpa [twinRequest] using hmem)
  have hdefaults : (twinEngine ⟨.identity, .identity⟩).defaultConstants
      (.fresh twinTree.fileSystem) twinPath twinRequest.defaultBinding =
        (.ok [⟨"vars", .object object⟩], twinState ⟨.identity, .identity⟩) := by
    rw [twinRequest, defaultConstants, hall]
  rw [← htarget] at hanswered hdefaults
  obtain ⟨plan, later, hplan⟩ := exists_plan_of_answered hrequest hdefaults hanswered
  obtain ⟨hcomplete, -⟩ := plan_is_complete (twinEngine ⟨.identity, .identity⟩)
    (.fresh twinTree.fileSystem) (.ofText "/index.js") hrequest
  obtain ⟨defaults, constants, rfl, -, hdefault, hconstants⟩ := hcomplete plan later hplan
  obtain ⟨object', rfl, hobject'⟩ := hdefault "vars" rfl
  rw [htarget] at hobject'
  cases hobject.symm.trans hobject'
  obtain ⟨first, others, ⟨⟨entry, hentry, value, hvalue, rfl⟩, hsame⟩, hothers, rfl⟩ :=
    List.forall₂_cons_left_iff.1 hconstants
  obtain ⟨again, rest, ⟨⟨entry', hentry', value', hvalue', rfl⟩, -⟩, hrest, rfl⟩ :=
    List.forall₂_cons_left_iff.1 hothers
  obtain rfl := List.forall₂_nil_left_iff.1 hrest
  cases hentry.symm.trans hentry'
  cases hvalue.symm.trans hvalue'
  refine ⟨hrequest, object, value, later, hplan, ?_⟩
  -- the object is the entry, which has a value of the name
  obtain ⟨_, _, hlocate, hknown⟩ := @serve_eq_ok _ _ (.all twinPath) _ hobject
  cases hlocate
  obtain ⟨other, hother⟩ := Values.mem_iff.1 hmem
  change ((twinState ⟨.identity, .identity⟩).cache.known twinPath) = object at hknown
  rw [hknown] at hother
  cases hsame "vars" object other List.mem_cons_self hother
  exact hother

end StyleConstants.Engine
