import StyleConstants.Proofs.Closure.Reachable
import StyleConstants.Proofs.Engine.Economy

/-!
# Requests and the spelling of paths

The candidates of a path are written as texts next to the path as it was spelled, and looked up by
the places to which they lead. For paths with a file name, the one commutes with the other. So two
spellings of one place lead to one cache entry, and what was answered under one of them is answered
under the other without rendering.

* `MemoryTree.alike_of_sameAs`: spellings of one place.
* `MemoryTree.locate_alike`: they lead to the same entry, or both to none.
* `Engine.serve_about_of_served`: a request answered under one path is answered under another that
  leads to the same entry.
* `Engine.spelling_is_irrelevant`: all of it.
-/

namespace StyleConstants

open StyleConstants.Path

namespace MemoryTree

variable {tree : MemoryTree} {a b : Path} {state : Engine.State}

theorem alike_of_sameAs (ha : a.fileName?.isSome = true) (hb : b.fileName?.isSome = true)
    (h : (place a).sameAs (place b) = true) : a.Alike b := by
  obtain ⟨nameA, hnameA⟩ := Option.isSome_iff_exists.1 ha
  obtain ⟨nameB, hnameB⟩ := Option.isSome_iff_exists.1 hb
  refine alike_of_isDirect (isDirect_of_fileName? hnameA) (isDirect_of_fileName? hnameB) ?_
  rw [← route_place a, ← route_place b, route, route, sameAs_iff.1 h]

theorem locate_eq (hfiles : state.files = tree.fileSystem) (path : Path) :
    state.locate path = (Source.resolve tree.fileSystem.isFile path).map fun source =>
      (source.path, place source.path) := by
  rw [Engine.State.locate, hfiles]
  cases Source.resolve tree.fileSystem.isFile path with
  | error fault => rfl
  | ok source =>
    dsimp only
    rw [canonical_fileSystem]
    rfl

/-- Spellings of one place lead to the same cache entry, or neither of them to a file. -/
theorem locate_alike (hfiles : state.files = tree.fileSystem) (h : a.Alike b) :
    (∃ target target' key, state.locate a = .ok (target, key) ∧
      state.locate b = .ok (target', key)) ∨
    ∃ fault fault', state.locate a = .error fault ∧ state.locate b = .error fault' := by
  rw [locate_eq hfiles, locate_eq hfiles]
  rcases Source.resolve_alike (fun hroute => tree.isFile_congr hroute) h with
    ⟨source, source', ha, hb, halike, -⟩ | ⟨ha, hb⟩ | ⟨extension, ha, hb⟩
  · rw [ha, hb]
    exact .inl ⟨source.path, source'.path, place source.path, rfl,
      by rw [place_eq_of_alike halike]; rfl⟩
  · rw [ha, hb]
    exact .inr ⟨_, _, rfl, rfl⟩
  · rw [ha, hb]
    exact .inr ⟨_, _, rfl, rfl⟩

theorem cached_alike (hfiles : state.files = tree.fileSystem) (h : a.Alike b) :
    state.cached a = state.cached b := by
  rw [Engine.State.cached, Engine.State.cached]
  rcases locate_alike hfiles h with ⟨target, target', key, ha, hb⟩ | ⟨fault, fault', ha, hb⟩
  · rw [ha, hb]
  · rw [ha, hb]

end MemoryTree

namespace Engine

open MemoryTree

variable {engine : Engine} {state : State} {path target target' key : Path}

/-- The same request about another path. -/
def Request.about : Request → Path → Request
  | .all _, path => .all path
  | .named _ names, path => .named path names

theorem Request.IsKnown.about {wanted : Request} {cache : Cache} (h : wanted.IsKnown cache key)
    (path : Path) : (wanted.about path).IsKnown cache key := by
  cases wanted with
  | all _ => exact h
  | named _ names => exact h

theorem Request.path_about (wanted : Request) (path : Path) : (wanted.about path).path = path := by
  cases wanted <;> rfl

theorem serve_about_of_served {wanted : Request} {values : Values}
    (hlocate : state.locate wanted.path = .ok (target, key))
    (hother : state.locate path = .ok (target', key))
    (hserved : (engine.serve state wanted).1 = .ok values) :
    let later := (engine.serve state wanted).2
    engine.serve later (wanted.about path) = later.answer key ∧
      (later.answer key).1 = .ok values := by
  intro later
  have hknown := Request.IsKnown.of_served hlocate hserved
  have hlater : later.locate (wanted.about path).path = .ok (target', key) := by
    rw [Request.path_about, ← hother]
    exact locate_eq_of_files_eq (effect_serve wanted).files path
  obtain ⟨_, _, hlocated, hentry⟩ := serve_eq_ok hserved
  cases hlocated.symm.trans hlocate
  exact ⟨(hknown.about path).serve_eq hlater, congrArg Except.ok hentry⟩

/-- **The spelling of a path is irrelevant.** Two paths with a file name, and the same place to
which they lead. Both are resolved to files in the same dialect at the same place, or refused for
the same reason. In every state over this tree they lead to the same cache entry, or both to none,
and what is kept there is the same. A request that was answered under one of them is answered with
the same values under the other, and nothing is read or submitted for it. -/
theorem spelling_is_irrelevant (tree : MemoryTree) {a b : Path} (ha : a.fileName?.isSome = true)
    (hb : b.fileName?.isSome = true) (hplace : (place a).sameAs (place b) = true) :
    let isFile := tree.fileSystem.isFile
    ((∃ source source', Source.resolve isFile a = .ok source ∧
        Source.resolve isFile b = .ok source' ∧ source.dialect = source'.dialect ∧
        place source.path = place source'.path) ∨
      (Source.resolve isFile a = .error (.noSource a) ∧
        Source.resolve isFile b = .error (.noSource b)) ∨
      ∃ extension, Source.resolve isFile a = .error (.unknownExtension a extension) ∧
        Source.resolve isFile b = .error (.unknownExtension b extension)) ∧
    ∀ (engine : Engine) (state : State), state.files = tree.fileSystem →
      ((∃ target target' key, state.locate a = .ok (target, key) ∧
          state.locate b = .ok (target', key)) ∨
        ∃ fault fault', state.locate a = .error fault ∧ state.locate b = .error fault') ∧
      state.cached a = state.cached b ∧
      ∀ wanted values, wanted.path = a → (engine.serve state wanted).1 = .ok values →
        let later := (engine.serve state wanted).2
        let again := engine.serve later (wanted.about b)
        again.1 = .ok values ∧ again.2.renders = later.renders ∧ again.2.reads = later.reads := by
  intro isFile
  have halike : a.Alike b := alike_of_sameAs ha hb hplace
  refine ⟨?_, ?_⟩
  · rcases Source.resolve_alike (fun hroute => tree.isFile_congr hroute) halike with
      ⟨source, source', hsource, hsource', hsources, hdialect⟩ | hfaults
    · exact .inl ⟨source, source', hsource, hsource', hdialect, place_eq_of_alike hsources⟩
    · exact .inr hfaults
  · intro engine state hfiles
    refine ⟨locate_alike hfiles halike, cached_alike hfiles halike, ?_⟩
    rintro wanted values rfl hserved later again
    rcases locate_alike hfiles halike with ⟨target, target', key, hlocate, hother⟩ |
      ⟨fault, fault', hfault, -⟩
    · obtain ⟨hserve, hanswer⟩ := serve_about_of_served hlocate hother hserved
      have hagain : again = later.answer key := hserve
      rw [hagain]
      exact ⟨hanswer, rfl, rfl⟩
    · obtain ⟨target, key, hlocate, -⟩ := serve_eq_ok hserved
      cases hlocate.symm.trans hfault

/-- A partial at the root. -/
def themeTree : MemoryTree := MemoryTree.empty.add (.ofText "/_theme.scss") "$a: 1;".toUTF8.toList

/-- An engine whose compiler knows one variable. -/
def themeEngine : Engine :=
  ⟨⟨.identity, .identity⟩, ⟨.prepared [] (.ok "#vars_0f\x7b--a_0f:1\x7d"), .declarations, []⟩,
    ⟨"0f"⟩⟩

/-- A request under a short spelling of the place. -/
def themeRequest : Request := .named (.ofText "theme") ["a"]

theorem spelling_is_irrelevant_theme :
    (Path.ofText "theme").fileName?.isSome = true ∧
      (Path.ofText "/x/..//../theme/.").fileName?.isSome = true ∧
      (place (.ofText "theme")).sameAs (place (.ofText "/x/..//../theme/.")) = true ∧
      ∃ values,
        let first := themeEngine.serve (.fresh themeTree.fileSystem) themeRequest
        let again := themeEngine.serve first.2 (themeRequest.about (.ofText "/x/..//../theme/."))
        first.1 = .ok values ∧ again.1 = .ok values ∧ again.2.renders = first.2.renders := by
  have hname : (Path.ofText "theme").fileName?.isSome = true := by decide +kernel
  have hname' : (Path.ofText "/x/..//../theme/.").fileName?.isSome = true := by decide +kernel
  have hplace : (place (.ofText "theme")).sameAs (place (.ofText "/x/..//../theme/.")) = true := by
    decide +kernel
  have hserved : ∃ values,
      (themeEngine.serve (.fresh themeTree.fileSystem) themeRequest).1 = .ok values :=
    ⟨_, rfl⟩
  obtain ⟨values, hvalues⟩ := hserved
  obtain ⟨-, hstates⟩ := spelling_is_irrelevant themeTree hname hname' hplace
  obtain ⟨-, -, hagain⟩ := hstates themeEngine (.fresh themeTree.fileSystem) rfl
  obtain ⟨hanswer, hrenders, -⟩ := hagain themeRequest values rfl hvalues
  exact ⟨hname, hname', hplace, values, hvalues, hanswer, hrenders⟩

end Engine

end StyleConstants
